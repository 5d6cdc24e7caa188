import SearchQuery.Pass.Inversion
import SearchQuery.Proofs.Query.Fields

/-!
# How protected fields cover a tree

What `coverage` says about a tree, told by the fields that the tree asks about.
-/

namespace SearchQuery.Tree

variable {kept : List String} {inherited : Option String} {t : Tree}

/-- Only protected fields are asked about. -/
theorem coverage_eq_kept_iff :
    t.coverage kept inherited = .kept ↔ ∀ field, t.Asks field inherited → field ∈ kept := by
  have hcount : (t.referencedFields inherited).names.countP (kept.contains ·) =
      (t.referencedFields inherited).names.length ↔
        ∀ field, t.Asks field inherited → field ∈ kept := by
    rw [List.countP_eq_length]
    constructor
    · intro h field hfield
      exact List.contains_iff_mem.1 (h field (mem_referencedFields_iff.2 hfield))
    · intro h field hfield
      exact List.contains_iff_mem.2 (h field (mem_referencedFields_iff.1 hfield))
  rw [← hcount, coverage]
  split
  · next h => exact iff_of_true rfl h
  · next h =>
      refine iff_of_false ?_ h
      split <;> simp

/-- No protected field is asked about, but some field is. -/
theorem coverage_eq_invertible_iff :
    t.coverage kept inherited = .invertible ↔
      (∃ field, t.Asks field inherited) ∧ ∀ field, t.Asks field inherited → field ∉ kept := by
  have hcount : (t.referencedFields inherited).names.countP (kept.contains ·) = 0 ↔
      ∀ field, t.Asks field inherited → field ∉ kept := by
    rw [List.countP_eq_zero]
    constructor
    · intro h field hfield hkept
      exact h field (mem_referencedFields_iff.2 hfield) (List.contains_iff_mem.2 hkept)
    · intro h field hfield hkept
      exact h field (mem_referencedFields_iff.1 hfield) (List.contains_iff_mem.1 hkept)
  by_cases hkept : t.coverage kept inherited = .kept
  · refine iff_of_false (by simp [hkept]) ?_
    rintro ⟨⟨field, hfield⟩, hnone⟩
    exact hnone field hfield (coverage_eq_kept_iff.1 hkept field hfield)
  · have hsome : ∃ field, t.Asks field inherited := by
      rw [coverage_eq_kept_iff, Classical.not_forall] at hkept
      obtain ⟨field, hfield⟩ := hkept
      exact ⟨field, (Classical.not_imp.1 hfield).1⟩
    rw [and_iff_right hsome, ← hcount]
    rw [coverage] at hkept ⊢
    split at hkept
    · exact absurd rfl hkept
    · next hlength =>
        rw [if_neg hlength]
        split <;> simp_all

theorem exists_asks_of_hasLeaf (h : t.hasLeaf) (inherited : Option String) :
    ∃ field, t.Asks field inherited := by
  induction t generalizing inherited with
  | nil => simp [hasLeaf] at h
  | leaf => exact ⟨_, rfl⟩
  | group id a g l r ihl ihr =>
      rw [hasLeaf, Bool.or_eq_true] at h
      rcases h with h | h
      · obtain ⟨field, hfield⟩ := ihl h (a.scope inherited)
        exact ⟨field, .inr (.inl hfield)⟩
      · obtain ⟨field, hfield⟩ := ihr h (a.scope inherited)
        exact ⟨field, .inr (.inr hfield)⟩

end SearchQuery.Tree
