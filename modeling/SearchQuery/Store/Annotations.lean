import SearchQuery.Query.Tree

/-!
# Notes on nodes

Passes leave notes on nodes for later passes. A note is filed under the name of its key and the
number of its node, and there is at most one of each. A key says what type of value it reads:
reading a note of another type finds nothing, while `remove`, `setIfAbsent` and `nodesWith` look
only at whether there is a note.
-/

namespace SearchQuery

inductive Note
  | text (value : String)
  | integer (value : Int64)
  | flag (value : Bool)
  deriving Repr, DecidableEq

class IsNote (α : Type) where
  toNote : α → Note
  ofNote? : Note → Option α
  ofNote_toNote : ∀ a, ofNote? (toNote a) = some a

instance : IsNote String where
  toNote := .text
  ofNote?
    | .text value => some value
    | _ => none
  ofNote_toNote _ := rfl

instance : IsNote Int64 where
  toNote := .integer
  ofNote?
    | .integer value => some value
    | _ => none
  ofNote_toNote _ := rfl

instance : IsNote Bool where
  toNote := .flag
  ofNote?
    | .flag value => some value
    | _ => none
  ofNote_toNote _ := rfl

structure NoteKey (α : Type) where
  name : String
  deriving Repr, DecidableEq

namespace NoteKey

def writtenField : NoteKey String := ⟨"@OriginalField"⟩

def operationType : NoteKey String := ⟨"@OperationType"⟩

/-- Set when nothing could resolve the field of a node. -/
def fieldUnresolved : NoteKey Bool := ⟨"@IsFieldUnresolved"⟩

/-- The name of the fragment that a group was spliced in from. -/
def includeName : NoteKey String := ⟨"@IncludeName"⟩

end NoteKey

structure FiledNote where
  name : String
  node : NodeId
  note : Note
  deriving Repr, DecidableEq

structure Annotations where
  filed : List FiledNote
  deriving Repr, DecidableEq

namespace Annotations

def empty : Annotations :=
  ⟨[]⟩

def note? (a : Annotations) (name : String) (node : NodeId) : Option Note :=
  (a.filed.find? fun f => f.name = name ∧ f.node = node).map (·.note)

def erase (a : Annotations) (name : String) (node : NodeId) : Annotations :=
  ⟨a.filed.filter fun f => ¬ (f.name = name ∧ f.node = node)⟩

def file (a : Annotations) (name : String) (node : NodeId) (note : Note) : Annotations :=
  ⟨⟨name, node, note⟩ :: (a.erase name node).filed⟩

variable {α : Type} [IsNote α]

def get? (a : Annotations) (key : NoteKey α) (node : NodeId) : Option α :=
  (a.note? key.name node).bind IsNote.ofNote?

def contains (a : Annotations) (key : NoteKey α) (node : NodeId) : Bool :=
  (a.get? key node).isSome

def set (a : Annotations) (key : NoteKey α) (node : NodeId) (value : α) : Annotations :=
  a.file key.name node (IsNote.toNote value)

/-- Sets the value unless there is a note of whatever type. -/
def setIfAbsent (a : Annotations) (key : NoteKey α) (node : NodeId) (value : α) : Annotations :=
  if (a.note? key.name node).isSome then a else a.set key node value

/-- Applies a function to the value, if there is one of the key's type. -/
def modify (a : Annotations) (key : NoteKey α) (node : NodeId) (f : α → α) : Annotations :=
  match a.get? key node with
  | some value => a.set key node (f value)
  | none => a

def remove (a : Annotations) (key : NoteKey α) (node : NodeId) : Annotations :=
  a.erase key.name node

def nodesWith (a : Annotations) (key : NoteKey α) : List NodeId :=
  ((a.filed.filter (·.name = key.name)).map (·.node)).mergeSort

theorem note?_file (a : Annotations) (name name' : String) (node node' : NodeId) (note : Note) :
    (a.file name node note).note? name' node' =
      if name' = name ∧ node' = node then some note else a.note? name' node' := by
  by_cases h : name' = name ∧ node' = node
  · obtain ⟨rfl, rfl⟩ := h
    simp [file, note?]
  · have h' : ¬ (name = name' ∧ node = node') := fun e => h ⟨e.1.symm, e.2.symm⟩
    simp only [file, note?, erase, List.find?_cons, h', h, decide_false, if_false]
    rw [List.find?_filter]
    congr 2
    funext f
    by_cases hf : f.name = name' ∧ f.node = node'
    · simp [hf, h]
    · simp [hf]

theorem get?_set_same (a : Annotations) (key : NoteKey α) (node : NodeId) (value : α) :
    (a.set key node value).get? key node = some value := by
  simp [get?, set, note?_file, IsNote.ofNote_toNote]

end Annotations

end SearchQuery
