import SearchQuery.Proofs.Inversion.Coverage
import SearchQuery.Proofs.Inversion.Criteria
import SearchQuery.Proofs.Inversion.InPlace
import SearchQuery.Proofs.Pass.Root

/-!
# Inversion leaf by leaf

Inversion leaves each leaf that asks about a protected field as it is and at its place, and
complements each other leaf the other way, `occurrences_invert`. The leaves of copied criteria have
new numbers and are left out of the comparison. A pass started at the root does just this to the
tree of a well-formed store, `exists_run_inversion`.
-/

namespace SearchQuery

namespace Occurrence

/-- A leaf before and after an inversion. -/
structure Inverted (kept : List String) (o o' : Occurrence) : Prop where
  of_mem : o.field ∈ kept → o' = o
  of_notMem : o.field ∉ kept → Agrees true o o'

namespace Inverted

variable {kept : List String} {o o' : Occurrence}

theorem id_eq (h : Inverted kept o o') : o'.id = o.id := by
  by_cases hkept : o.field ∈ kept
  · rw [h.of_mem hkept]
  · exact (h.of_notMem hkept).id_eq

theorem leaf_eq (h : Inverted kept o o') : o'.leaf = o.leaf := by
  by_cases hkept : o.field ∈ kept
  · rw [h.of_mem hkept]
  · exact (h.of_notMem hkept).leaf_eq

theorem field_eq (h : Inverted kept o o') : o'.field = o.field := by
  by_cases hkept : o.field ∈ kept
  · rw [h.of_mem hkept]
  · exact (h.of_notMem hkept).field_eq

/-- Where all fields are protected nothing changes. -/
theorem forall₂_refl {os : List Occurrence} (h : ∀ o ∈ os, o.field ∈ kept) :
    List.Forall₂ (Inverted kept) os os :=
  List.forall₂_same.2 fun o ho => ⟨fun _ => rfl, fun hkept => absurd (h o ho) hkept⟩

/-- Where no field is protected every leaf is complemented the other way. -/
theorem forall₂_of_agrees {os os' : List Occurrence} (hnone : ∀ o ∈ os, o.field ∉ kept)
    (h : List.Forall₂ (Agrees true) os os') : List.Forall₂ (Inverted kept) os os' := by
  induction h with
  | nil => exact .nil
  | cons hagree _ ih =>
      rw [List.forall_mem_cons] at hnone
      exact .cons ⟨fun hkept => absurd hkept hnone.1, fun _ => hagree⟩ (ih hnone.2)

theorem exists_of_mem {os os' : List Occurrence} (h : List.Forall₂ (Inverted kept) os os')
    (ho : o ∈ os) : ∃ o' ∈ os', Inverted kept o o' := by
  induction h with
  | nil => simp at ho
  | cons hinverted _ ih =>
      rcases List.mem_cons.1 ho with rfl | ho
      · exact ⟨_, List.mem_cons_self, hinverted⟩
      · obtain ⟨o', ho', hoo'⟩ := ih ho
        exact ⟨o', List.mem_cons_of_mem _ ho', hoo'⟩

end Inverted

end Occurrence

namespace Tree

variable {kept : List String} {inherited : Option String}

theorem occurrences_filter_self {bound : Nat} {t : Tree} (hids : ∀ x ∈ t.ids, x < bound)
    (p : Place) : (t.occurrences p).filter (·.id < bound) = t.occurrences p := by
  rw [List.filter_eq_self]
  intro o ho
  exact decide_eq_true (hids _ (id_mem_ids ho))

theorem extends_invertClauses (kept : List String) (alternate : Option Tree)
    (inherited : Option String) (next : NodeId) (t : Tree) :
    Extends t.ids (t.invertClauses kept alternate inherited next).1.ids next
      (t.invertClauses kept alternate inherited next).2 := by
  induction t generalizing inherited next with
  | nil => exact .refl _ _
  | leaf id a l =>
      rw [invertClauses]
      split
      · exact .refl _ _
      · exact extends_invertNode alternate _ next
  | group id a g l r ihl ihr =>
      rw [invertClauses.eq_def]
      dsimp only
      split
      · exact .refl _ _
      · exact extends_invertNode alternate _ next
      · exact ((ihl _ _).append (ihr _ _)).cons id

theorem occurrences_invertClauses {bound next : Nat} (hbound : bound ≤ next)
    (kept : List String) (alternate : Option Tree) {t : Tree} (hids : ∀ x ∈ t.ids, x < bound)
    (p : Place) :
    List.Forall₂ (Occurrence.Inverted kept) (t.occurrences p)
      (((t.invertClauses kept alternate p.scope next).1.occurrences p).filter (·.id < bound)) := by
  induction t generalizing next p with
  | nil => exact .nil
  | leaf id a l =>
      have hfield : ∀ o ∈ (leaf id a l).occurrences p, o.field = a.searched p.scope := by
        simp [occurrences_leaf]
      rw [invertClauses]
      split
      · next hkept =>
          rw [occurrences_filter_self hids]
          refine Occurrence.Inverted.forall₂_refl fun o ho => ?_
          rw [hfield o ho]
          exact List.contains_iff_mem.1 hkept
      · next hkept =>
          refine Occurrence.Inverted.forall₂_of_agrees (fun o ho => ?_)
            (occurrences_invertNode hbound hids alternate p)
          rw [hfield o ho]
          exact fun hmem => hkept (List.contains_iff_mem.2 hmem)
  | group id a g l r ihl ihr =>
      rw [invertClauses.eq_def]
      dsimp only
      split
      · next hcoverage =>
          rw [occurrences_filter_self hids]
          exact Occurrence.Inverted.forall₂_refl fun o ho =>
            coverage_eq_kept_iff.1 hcoverage _ (asks_of_mem_occurrences ho)
      · next hcoverage =>
          have huncovered := (coverage_eq_invertible_iff.1 hcoverage).2
          exact Occurrence.Inverted.forall₂_of_agrees
            (fun o ho => huncovered _ (asks_of_mem_occurrences ho))
            (occurrences_invertNode hbound hids alternate p)
      · have hmiddle := (extends_invertClauses kept alternate (a.scope p.scope) next l).le
        rw [occurrences_group, occurrences_group, List.filter_append]
        exact List.rel_append
          (ihl hbound (fun x hx => hids x (by simp [ids, hx])) (p.inside id a))
          (ihr (Nat.le_trans hbound hmiddle) (fun x hx => hids x (by simp [ids, hx]))
            (p.inside id a))

theorem invert_group (kept : List String) (alternate : Option Tree) (next id : NodeId)
    (a : Attributes) (g : Group) (l r : Tree) :
    (group id a g l r).invert kept alternate next =
      match (group id a g l r).coverage kept none with
      | .kept => (group id a g l r, next)
      | .invertible => (group id a g l r).invertNode alternate next
      | .mixed =>
          let left := l.invertClauses kept alternate a.fieldName? next
          let right := r.invertClauses kept alternate a.fieldName? left.2
          (group id a g left.1 right.1, right.2) := by
  rw [invert.eq_def]
  cases (group id a g l r).coverage kept none <;> rfl

theorem extends_invert (kept : List String) (alternate : Option Tree) (next id : NodeId)
    (a : Attributes) (g : Group) (l r : Tree) :
    Extends (group id a g l r).ids ((group id a g l r).invert kept alternate next).1.ids next
      ((group id a g l r).invert kept alternate next).2 := by
  rw [invert_group]
  split
  · exact .refl _ _
  · exact extends_invertNode alternate _ next
  · exact ((extends_invertClauses kept alternate _ _ l).append
      (extends_invertClauses kept alternate _ _ r)).cons id

theorem occurrences_invert {bound next : Nat} (hbound : bound ≤ next) (kept : List String)
    (alternate : Option Tree) {id : NodeId} {a : Attributes} {g : Group} {l r : Tree}
    (hids : ∀ x ∈ (group id a g l r).ids, x < bound) :
    List.Forall₂ (Occurrence.Inverted kept) ((group id a g l r).occurrences .top)
      ((((group id a g l r).invert kept alternate next).1.occurrences .top).filter
        (·.id < bound)) := by
  rw [invert_group]
  split
  · next hcoverage =>
      rw [occurrences_filter_self hids]
      exact Occurrence.Inverted.forall₂_refl fun o ho =>
        coverage_eq_kept_iff.1 hcoverage _ (asks_of_mem_occurrences ho)
  · next hcoverage =>
      have huncovered := (coverage_eq_invertible_iff.1 hcoverage).2
      exact Occurrence.Inverted.forall₂_of_agrees
        (fun o ho => huncovered _ (asks_of_mem_occurrences ho))
        (occurrences_invertNode hbound hids alternate .top)
  · have hmiddle := (extends_invertClauses kept alternate a.fieldName? next l).le
    have hscope : (Place.top.inside id a).scope = a.fieldName? := Option.or_none
    have hl := occurrences_invertClauses hbound kept alternate
      (fun x hx => hids x (by simp [ids, hx])) (t := l) (Place.top.inside id a)
    have hr := occurrences_invertClauses (Nat.le_trans hbound hmiddle) kept alternate
      (fun x hx => hids x (by simp [ids, hx])) (t := r) (Place.top.inside id a)
    rw [hscope] at hl hr
    rw [occurrences_group, occurrences_group, List.filter_append]
    exact List.rel_append hl hr

end Tree

namespace Pass

/-- Inversion from a root that is a group succeeds unless clauses side by side are alternatives. -/
theorem exists_run_inversion {s : Session} (h : s.store.WellFormed)
    (hroot : s.store.isGroup s.store.root) (hoperator : s.context.defaultOperator ≠ .or)
    (kept : List String) :
    ∃ id s', (inversion kept).run s.store.root s = (.ok id, s') ∧ s'.store.WellFormed ∧
      s'.store.tree = (s.store.tree.invert kept s.context.alternate s.store.next).1 := by
  have hs := rooted_of_isGroup h hroot
  have hmakes := Store.makes_invert hs hs.shows.mem hroot kept s.context.alternate
  let out := s.store.invert kept s.context.alternate s.store.root
  refine ⟨out.1, { s with store := out.2 }, ?_, hmakes.puts.after.wellFormed,
    hmakes.puts.tree_eq_of_root⟩
  rw [run, runInversion, if_neg hoperator, if_neg (by simp [hroot])]
  rfl

end Pass

end SearchQuery
