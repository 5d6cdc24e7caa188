import SearchQuery.Fields.Alias
import SearchQuery.Store

/-!
# Resolving aliases

Fields get the names that an `AliasResolver` gives them. The resolver that comes with a name is in
scope below the node; below a field that has no alias nothing is in scope, and a node without a
field leaves the scope as it is. The first name of a renamed field is noted on its node.

`Store.resolveAliases` does so in a store; `Tree.resolveAliases` and `Tree.noteAliases` say what comes
of a tree and of the notes.
-/

namespace SearchQuery

namespace AliasResolver

/-- The new name for the field of a node, where it differs from the old one. -/
def rename? (r : AliasResolver) (a : Attributes) : Option String := do
  let field ← a.fieldName?
  let (name, _) ← r.resolve? field
  if name = field then Option.none else some name

def scope (r : AliasResolver) (a : Attributes) : AliasResolver :=
  match a.fieldName? with
  | Option.none => r
  | some field =>
      match r.resolve? field with
      | some (_, some inner) => inner
      | _ => AliasResolver.none

def apply (r : AliasResolver) (a : Attributes) : Attributes :=
  match r.rename? a with
  | some name => { a with field := some name }
  | Option.none => a

def note (r : AliasResolver) (id : NodeId) (a : Attributes) (notes : Annotations) : Annotations :=
  match r.rename? a with
  | some _ => notes.setIfAbsent .writtenField id (a.field.getD "")
  | Option.none => notes

end AliasResolver

namespace Tree

def resolveAliases (r : AliasResolver) : Tree → Tree
  | nil => nil
  | leaf id a l => leaf id (r.apply a) l
  | group id a g left right =>
      group id (r.apply a) g (left.resolveAliases (r.scope a)) (right.resolveAliases (r.scope a))

def noteAliases (r : AliasResolver) : Tree → Annotations → Annotations
  | nil, notes => notes
  | leaf id a _, notes => r.note id a notes
  | group id a _ left right, notes =>
      right.noteAliases (r.scope a) (left.noteAliases (r.scope a) (r.note id a notes))

end Tree

namespace Store

def resolveAlias (s : Store) (r : AliasResolver) (id : NodeId) : Store :=
  let a := s.attrs id
  { s.modifyAttrs id (fun _ => r.apply a) with annotations := r.note id a s.annotations }

/-- Renames fields from a node on, cut off at a depth. -/
def resolveAliasesTo : Nat → AliasResolver → NodeId → Store → Store
  | 0, _, _, s => s
  | depth + 1, r, id, s =>
      let scope := r.scope (s.attrs id)
      let s := s.resolveAlias r id
      (s.children id).foldl (fun s child => resolveAliasesTo depth scope child s) s

/-- Renames fields from a node on. No path is longer than the table unless it runs in a circle. -/
def resolveAliases (s : Store) (r : AliasResolver) (id : NodeId) : Store :=
  resolveAliasesTo s.next r id s

end Store

end SearchQuery
