import SearchQuery.Query.Walk
import SearchQuery.Proofs.Query.Occurrence

/-!
# The fields a query asks about

`Tree.Asks` says by recursion on the tree which fields a tree asks about: those of its leaves, in
the scope they stand in, and those of its groups. The walk that collects the fields with a stack
of scopes finds exactly these, `mem_referencedFields_iff`.
-/

namespace SearchQuery.Tree

def Asks (field : String) (inherited : Option String) : Tree → Prop
  | nil => False
  | leaf _ a _ => field = a.searched inherited
  | group _ a _ l r =>
      a.fieldName? = some field ∨ l.Asks field (a.scope inherited) ∨ r.Asks field (a.scope inherited)

/-- Inside a group with a field that field is in scope, in any other group the one around. -/
theorem current?_cons (seen : NameSet) (field : Option String) (scopes : List (Option String))
    (inherited : Option String) :
    FieldScopes.current? ⟨seen, field :: scopes⟩ inherited =
      field.or (FieldScopes.current? ⟨seen, scopes⟩ inherited) := by
  cases field <;> simp [FieldScopes.current?]

theorem walk_fieldCollector_group (inherited : Option String) (id : NodeId) (a : Attributes)
    (g : Group) (l r : Tree) (seen : NameSet) (scopes : List (Option String)) :
    (group id a g l r).walk (fieldCollector inherited) ⟨seen, scopes⟩ =
      let inside := r.walk (fieldCollector inherited) (l.walk (fieldCollector inherited)
        ⟨a.fieldName?.elim seen seen.insert, a.fieldName? :: scopes⟩)
      ⟨inside.seen, inside.scopes.tail⟩ := rfl

/-- The scopes around are what they were after the walk over a tree, and the fields that the tree
asks about have been seen. -/
theorem walk_fieldCollector (inherited : Option String) (t : Tree) (s : FieldScopes) :
    (t.walk (fieldCollector inherited) s).scopes = s.scopes ∧
      ∀ field, field ∈ (t.walk (fieldCollector inherited) s).seen ↔
        field ∈ s.seen ∨ t.Asks field (s.current? inherited) := by
  induction t generalizing s with
  | nil => simp [walk, Asks]
  | leaf id a l =>
      refine ⟨rfl, fun field => ?_⟩
      rw [walk, fieldCollector, Asks, NameSet.mem_insert, or_comm]
      rfl
  | group id a g l r ihl ihr =>
      obtain ⟨seen, scopes⟩ := s
      have hscope : ∀ seen', FieldScopes.current? ⟨seen', a.fieldName? :: scopes⟩ inherited =
          a.scope (FieldScopes.current? ⟨seen, scopes⟩ inherited) :=
        fun seen' => current?_cons seen' _ _ _
      have hentered : ∀ field, field ∈ a.fieldName?.elim seen seen.insert ↔
          field ∈ seen ∨ a.fieldName? = some field := by
        intro field
        cases a.fieldName? with
        | none => simp
        | some name => simp [or_comm, eq_comm]
      obtain ⟨hlscopes, hlseen⟩ := ihl ⟨a.fieldName?.elim seen seen.insert, a.fieldName? :: scopes⟩
      obtain ⟨hrscopes, hrseen⟩ :=
        ihr (l.walk (fieldCollector inherited)
          ⟨a.fieldName?.elim seen seen.insert, a.fieldName? :: scopes⟩)
      rw [walk_fieldCollector_group]
      dsimp only
      refine ⟨?_, fun field => ?_⟩
      · rw [hrscopes, hlscopes, List.tail_cons]
      · have hcurrent : FieldScopes.current? (l.walk (fieldCollector inherited)
            ⟨a.fieldName?.elim seen seen.insert, a.fieldName? :: scopes⟩) inherited =
            a.scope (FieldScopes.current? ⟨seen, scopes⟩ inherited) := by
          rw [FieldScopes.current?, hlscopes]
          exact hscope seen
        refine (hrseen field).trans ?_
        rw [hlseen, hentered, hscope, hcurrent, Asks, or_assoc, or_assoc]

theorem mem_referencedFields_iff {t : Tree} {inherited : Option String} {field : String} :
    field ∈ t.referencedFields inherited ↔ t.Asks field inherited := by
  rw [referencedFields, (walk_fieldCollector inherited t ⟨.empty, []⟩).2]
  simp [FieldScopes.current?]

theorem asks_of_mem_occurrences {t : Tree} {p : Place} {o : Occurrence}
    (h : o ∈ t.occurrences p) : t.Asks o.field p.scope := by
  induction t generalizing p with
  | nil => simp at h
  | leaf id a l =>
      obtain rfl : o = _ := by simpa [occurrences_leaf] using h
      rfl
  | group id a g l r ihl ihr =>
      rw [occurrences_group, List.mem_append] at h
      exact .inr (h.imp ihl ihr)

end SearchQuery.Tree
