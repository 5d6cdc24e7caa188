import SearchQuery.Session

/-!
# Splicing in fragments

A term on the reserved field `@include` names a fragment, a query text of its own. Expansion puts
the fragment in the place of the term, in parentheses and with the negation, the sign and the boost
of the term, and expands what is in it in turn.

No problem stops the expansion: a name that cannot be resolved is listed, a text that is no query
and a fragment that would contain itself are errors of the query, and the term stays. It always
ends, because a chain of fragments inside fragments never repeats a name and there are only as
many names as the tables have.

`Session.expand` does so in a store; `Tree.expand` says what comes of a tree.
-/

namespace SearchQuery

structure Expansion where
  /-- Where fragments come from; the first table that knows a name counts. -/
  tables : List FragmentTable
  /-- The names whose terms stay as they are. -/
  skip : String → Bool
  /-- How the text of a fragment is read. -/
  parse : String → Except ParseError Tree

namespace Expansion

def text? (e : Expansion) (name : String) : Option String :=
  e.tables.findSome? (·.text? name)

def names (e : Expansion) : List String :=
  e.tables.flatMap fun table => table.map (·.1)

theorem mem_of_lookup {table : FragmentTable} {name : String} {resolution : Resolution}
    (h : table.lookup name = some resolution) : name ∈ table.map (·.1) := by
  induction table with
  | nil => cases h
  | cons row rest ih =>
      obtain ⟨first, answer⟩ := row
      rw [List.map_cons, List.mem_cons]
      by_cases hname : name = first
      · exact Or.inl hname
      · rw [List.lookup_cons, beq_false_of_ne hname] at h
        exact Or.inr (ih h)

theorem mem_names_of_text? {e : Expansion} {name text : String} (h : e.text? name = some text) :
    name ∈ e.names := by
  obtain ⟨table, htable, hsome⟩ := List.exists_of_findSome?_eq_some h
  obtain ⟨resolution, hlookup, -⟩ := Option.bind_eq_some_iff.1 hsome
  exact List.mem_flatMap.2 ⟨table, htable, mem_of_lookup hlookup⟩

def unused (e : Expansion) (chain : List String) : Nat :=
  e.names.countP fun name => !chain.contains name

theorem countP_append_le (names chain : List String) (name : String) :
    names.countP (fun n => !(chain ++ [name]).contains n) ≤
      names.countP (fun n => !chain.contains n) :=
  List.countP_mono_left fun n _ h => by simp_all

theorem countP_append_lt {names chain : List String} {name : String} (hmem : name ∈ names)
    (hnew : name ∉ chain) :
    names.countP (fun n => !(chain ++ [name]).contains n) <
      names.countP (fun n => !chain.contains n) := by
  induction names with
  | nil => cases hmem
  | cons first rest ih =>
      rw [List.countP_cons, List.countP_cons]
      by_cases hfirst : first = name
      · have := countP_append_le rest chain name
        simp [hfirst, hnew] at this ⊢
        omega
      · have hrest := ih ((List.mem_cons.1 hmem).resolve_left (Ne.symm hfirst))
        by_cases hin : first ∈ chain
        · simp [hin] at hrest ⊢
          omega
        · simp [hin, hfirst] at hrest ⊢
          omega

/-- A chain with a new name leaves fewer names unused. -/
theorem unused_lt {e : Expansion} {chain : List String} {name : String} (hmem : name ∈ e.names)
    (hnew : name ∉ chain) : e.unused (chain ++ [name]) < e.unused chain :=
  countP_append_lt hmem hnew

end Expansion

/-- What expansion changes beside the tree. -/
structure Splicing where
  /-- The first number not used. -/
  next : NodeId
  notes : Annotations
  validation : ValidationResult

namespace Splicing

def record (s : Splicing) (f : ValidationResult → ValidationResult) : Splicing :=
  { s with validation := f s.validation }

end Splicing

def fragmentField : String := "@include"

/-- The fragment that a leaf names. The field is reserved in any letter case. -/
def fragmentName? (a : Attributes) : Leaf → Option String
  | .term t =>
      if a.field.any fun field => field.toLower = fragmentField then some t.unescaped else none
  | _ => none

namespace Tree

def asClause (a : Attributes) : Tree → Tree
  | nil => nil
  | leaf id inner l =>
      leaf id { inner with negation := a.negation, sign := a.sign, boost := a.boost } l
  | group id inner g l r =>
      group id { inner with negation := a.negation, sign := a.sign, boost := a.boost }
        { g with parens := true } l r

/-- The error of a fragment that would contain itself. -/
def recursionError (chain : List String) (name : String) : String :=
  "Recursive include detected: " ++ " -> ".intercalate (chain ++ [name])

/-- The tree with the fragments that its terms name, inside the fragments of the chain. -/
def expand (e : Expansion) (chain : List String) (t : Tree) (s : Splicing) : Tree × Splicing :=
  match t with
  | nil => (nil, s)
  | group id a g l r =>
      let (l, s) := l.expand e chain s
      let (r, s) := r.expand e chain s
      (group id a g l r, s)
  | leaf id a l =>
      match fragmentName? a l with
      | none => (leaf id a l, s)
      | some name =>
          let s := s.record fun v =>
            { v with referencedIncludes := v.referencedIncludes.insert name }
          if e.skip name then (leaf id a l, s)
          else if _hnew : name ∈ chain then
            (leaf id a l, s.record (·.addError (recursionError chain name)))
          else
            match _htext : e.text? name with
            | none =>
                (leaf id a l, s.record fun v =>
                  { v with unresolvedIncludes := v.unresolvedIncludes.insert name })
            | some text =>
                match e.parse text with
                | .error error =>
                    (leaf id a l, s.record
                      (·.addError ("Unable to parse include " ++ name ++ ": " ++ error.display)))
                | .ok fragment =>
                    let (copied, next) := fragment.renumber s.next
                    let notes := copied.id?.elim s.notes (s.notes.set .includeName · name)
                    (copied.asClause a).expand e (chain ++ [name])
                      { s with next := next, notes := notes }
termination_by (e.unused chain, t.size)
decreasing_by
  · exact Prod.Lex.right _ (by simp only [size]; omega)
  · exact Prod.Lex.right _ (by simp only [size]; omega)
  · exact Prod.Lex.left _ _ (Expansion.unused_lt (Expansion.mem_names_of_text? _htext) _hnew)

end Tree

namespace Session

def record (s : Session) (f : ValidationResult → ValidationResult) : Session :=
  { s with context.validation := f s.context.validation }

/-- Puts a copy of a fragment in the place of a term, and gives back its top. A fragment that is
empty leaves nothing. -/
def spliceFragment (s : Session) (id : NodeId) (name : String) (fragment : Tree) :
    Option NodeId × Session :=
  let a := s.store.attrs id
  match s.store.implant fragment with
  | (none, store) => (none, { s with store := store.removeSelf id })
  | (some top, store) =>
      let store := store.modifyAttrs top
        ({ · with negation := a.negation, sign := a.sign, boost := a.boost })
      let store := store.modifyForm top ({ · with parens := true })
      let store := { store with annotations := store.annotations.set .includeName top name }
      (some top, { s with store := store.replaceSelf id top })

/-- Expands terms from a node on, inside the fragments of the chain, with the node that stands in its
place then. The way down to the next fragment is cut off at a depth. -/
def expandTo (e : Expansion) (chain : List String) (depth : Nat) (id : NodeId) (s : Session) :
    NodeId × Session :=
  match depth with
  | 0 => (id, s)
  | depth + 1 =>
      match s.store.node? id with
      | none => (id, s)
      | some ⟨_, .group _ left right, _⟩ =>
          let s := left.elim s fun child => (expandTo e chain depth child s).2
          let s := right.elim s fun child => (expandTo e chain depth child s).2
          (id, s)
      | some ⟨a, .leaf l, _⟩ =>
          match fragmentName? a l with
          | none => (id, s)
          | some name =>
              let s := s.record fun v =>
                { v with referencedIncludes := v.referencedIncludes.insert name }
              if e.skip name then (id, s)
              else if _hnew : name ∈ chain then
                (id, s.record (·.addError (Tree.recursionError chain name)))
              else
                match _htext : e.text? name with
                | none =>
                    (id, s.record fun v =>
                      { v with unresolvedIncludes := v.unresolvedIncludes.insert name })
                | some text =>
                    match e.parse text with
                    | .error error =>
                        (id, s.record (·.addError
                          ("Unable to parse include " ++ name ++ ": " ++ error.display)))
                    | .ok fragment =>
                        match s.spliceFragment id name fragment with
                        | (none, s) => (id, s)
                        | (some top, s) => expandTo e (chain ++ [name]) s.store.next top s
termination_by (e.unused chain, depth)
decreasing_by
  · exact Prod.Lex.right _ (Nat.lt_succ_self _)
  · exact Prod.Lex.right _ (Nat.lt_succ_self _)
  · exact Prod.Lex.left _ _ (Expansion.unused_lt (Expansion.mem_names_of_text? _htext) _hnew)

/-- Expands terms from a node on. No path is longer than the table unless it runs in a circle. -/
def expand (e : Expansion) (id : NodeId) (s : Session) : NodeId × Session :=
  expandTo e [] s.store.next id s

end Session

end SearchQuery
