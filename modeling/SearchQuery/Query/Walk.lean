import SearchQuery.Query.Tree
import SearchQuery.Names

/-!
# Walking over a tree

A `Visitor` has a hook for leaves and two for groups, before and behind what is in them; the first
of these says whether to go inside at all. `Tree.walk` calls the hooks from left to right and
hands a state from one to the next.

`Tree.referencedFields` is the walk that collects the fields a tree asks about. A leaf without a
field asks about the field of the nearest group around it that has one.
-/

namespace SearchQuery

structure Visitor (σ : Type) where
  /-- At a group, before its sides; the second part says whether they are walked over. -/
  enter : NodeId → Attributes → Group → σ → σ × Bool
  /-- At a group, behind its sides, walked over or not. -/
  leave : NodeId → Attributes → Group → σ → σ
  leaf : NodeId → Attributes → Leaf → σ → σ

namespace Visitor

def idle (σ : Type) : Visitor σ where
  enter _ _ _ state := (state, true)
  leave _ _ _ state := state
  leaf _ _ _ state := state

end Visitor

namespace Tree

def walk {σ : Type} (v : Visitor σ) : Tree → σ → σ
  | nil, state => state
  | leaf id a l, state => v.leaf id a l state
  | group id a g l r, state =>
      let (state, inside) := v.enter id a g state
      v.leave id a g (if inside then r.walk v (l.walk v state) else state)

/-- The fields seen so far, and the fields of the groups around, from the inside out. -/
structure FieldScopes where
  seen : NameSet
  scopes : List (Option String)

namespace FieldScopes

/-- The field of the nearest group around that has one, else the one given from outside. -/
def current? (s : FieldScopes) (inherited : Option String) : Option String :=
  (s.scopes.findSome? id).or inherited

end FieldScopes

def fieldCollector (inherited : Option String) : Visitor FieldScopes where
  enter _ a _ s :=
    let field := a.fieldName?
    (⟨field.elim s.seen s.seen.insert, field :: s.scopes⟩, true)
  leave _ _ _ s := { s with scopes := s.scopes.tail }
  leaf _ a _ s :=
    { s with seen := s.seen.insert ((a.fieldName?.or (s.current? inherited)).getD "") }

/-- The fields that a tree asks about, below a place where `inherited` is the field in scope. The
empty name stands for leaves without a field in scope. -/
def referencedFields (inherited : Option String) (t : Tree) : NameSet :=
  (t.walk (fieldCollector inherited) ⟨.empty, []⟩).seen

end Tree

end SearchQuery
