import SearchQuery.Proofs.Cleanup.Checks
import SearchQuery.Proofs.Query.Width

/-!
# Tidying up makes no text longer

No check of a group makes its text longer, so tidying up does not either. Where there are
parentheses around a leaf that needs none, `Tree.dropsParens`, the text gets shorter.
`length_chars_cleanup` says both.
-/

namespace SearchQuery

namespace Attributes

theorem toNat_isNegated_merge (m n : Negation) :
    (m.merge n).isNegated.toNat ≤ m.isNegated.toNat + n.isNegated.toNat := by
  cases m <;> cases n <;> decide

theorem width_takeOver (a b : Attributes) : (a.takeOver b).width ≤ a.width + b.width := by
  have hsign : (b.sign.or a.sign).isSome.toNat ≤ b.sign.isSome.toNat + a.sign.isSome.toNat := by
    rw [Option.isSome_or]
    cases b.sign.isSome <;> cases a.sign.isSome <;> decide
  have hnegation := toNat_isNegated_merge a.negation b.negation
  have hproximity := modifierWidth_or b.proximity a.proximity
  have hboost := modifierWidth_or b.boost a.boost
  simp only [width_eq, takeOver]
  omega

theorem width_merge (a : Attributes) (n : Negation) :
    { a with negation := a.negation.merge n }.width ≤ a.width + 4 * n.isNegated.toNat := by
  have hnegation := toNat_isNegated_merge a.negation n
  simp only [width_eq]
  omega

/-- Settling which of two nodes is negated removes both negations or none. -/
theorem width_fold {a b : Attributes} (ha : a.negation.isNegated = true) :
    { a with negation := a.negation.merge b.negation }.width +
      { b with negation := .unspecified }.width + 8 * b.negation.isNegated.toNat =
        a.width + b.width := by
  simp only [width_eq]
  cases hn : a.negation with
  | negated =>
      cases b.negation <;> simp only [Negation.merge, Negation.isNegated, Bool.toNat_true,
        Bool.toNat_false]
      all_goals omega
  | _ => simp [hn, Negation.isNegated] at ha

end Attributes

namespace Tree

variable {isRoot : Bool} {t t' out l l' r r' : Tree} {id : NodeId} {a : Attributes} {g : Group}

section Checks

def dropsOwnParens : Tree → Bool
  | group _ a g (leaf _ b _) nil =>
      g.parens && a.field.isNone && (a.negation.isNegated || a.fitsOnto b)
  | _ => false

def dropsParens : Tree → Bool
  | nil => false
  | leaf .. => false
  | group id a g l r => (group id a g l r).dropsOwnParens || l.dropsParens || r.dropsParens

theorem parens_absorbedForm (isRoot : Bool) (negation : Negation) (g h : Group) :
    (absorbedForm isRoot negation g h).parens.toNat ≤ g.parens.toNat + h.parens.toNat := by
  rw [absorbedForm]
  cases g.parens <;> cases h.parens <;> simp [Bool.toNat_le]

/-- A change makes no text longer. A group that has lost its parentheses, or is about to lose them,
is no group that holds on to them. -/
theorem Changes.length_chars (h : Changes isRoot t t') :
    t'.chars.length ≤ t.chars.length ∧
      (t.dropsOwnParens = true → t'.chars.length < t.chars.length ∨ t'.dropsOwnParens = true) := by
  cases h with
  | @shift id a g r hr =>
      refine ⟨?_, fun hdrops => absurd hdrops Bool.false_ne_true⟩
      rw [length_chars_single, length_chars_group, sidesWidth]
      cases hnil : r.isNil with
      | true =>
          rw [chars_of_isNil hnil]
          simp
      | false =>
          simp only [Bool.false_eq_true, if_false]
          omega
  | @absorb id a g innerId inner innerForm l r =>
      refine ⟨?_, fun hdrops => absurd hdrops Bool.false_ne_true⟩
      have hsides : sidesWidth (absorbedForm isRoot (a.negation.merge inner.negation) g innerForm)
        l r = sidesWidth innerForm l r := rfl
      have hparens := parens_absorbedForm isRoot (a.negation.merge inner.negation) g innerForm
      have hwidth := a.width_merge inner.negation
      have hinner : 4 * inner.negation.isNegated.toNat ≤ inner.width := by
        rw [Attributes.width_eq]
        omega
      have hmark : { a with negation := a.negation.merge inner.negation }.fieldMark =
        a.fieldMark := rfl
      rw [length_chars_single, length_chars_group, length_chars_group, hmark, hsides]
      omega
  | @fold id a g leafId b l hfield hnegated hexplicit =>
      have hwidth := Attributes.width_fold (b := b) hnegated
      have hchars : l.chars { b with negation := .unspecified } = l.chars b :=
        chars_of_field_eq rfl l
      have hmark : { a with negation := a.negation.merge b.negation }.fieldMark = a.fieldMark := rfl
      rw [length_chars_single, length_chars_single, length_chars_leaf, length_chars_leaf, hchars,
        hmark]
      refine ⟨by omega, fun hdrops => ?_⟩
      cases hleaf : b.negation.isNegated with
      | true =>
          rw [hleaf, Bool.toNat_true] at hwidth
          exact .inl (by omega)
      | false =>
          refine .inr ?_
          have hkept : (a.negation.merge b.negation).isNegated = true := by
            rw [Negation.isNegated_merge, hnegated, hleaf]
            rfl
          simp only [dropsOwnParens, Bool.and_eq_true] at hdrops ⊢
          exact ⟨hdrops.1, by rw [hkept]; rfl⟩
  | @unwrap id a g leafId b l hfield hparens hkept =>
      rw [length_chars_single, length_chars_single, hparens, Bool.toNat_true]
      dsimp only [Bool.toNat_false]
      exact ⟨by omega, fun _ => .inl (by omega)⟩

theorem Moves.length_chars (h : Moves isRoot t t') :
    t'.chars.length ≤ t.chars.length ∧
      (t.dropsOwnParens = true → t'.chars.length < t.chars.length) := by
  cases h with
  | drop => exact ⟨Nat.zero_le _, fun hdrops => absurd hdrops Bool.false_ne_true⟩
  | @hoist id a g leafId b l hfield hgoes =>
      have hwidth := a.width_takeOver b
      have hchars : l.chars (a.takeOver b) = l.chars b := chars_of_field_eq rfl l
      rw [length_chars_single, length_chars_leaf, length_chars_leaf, hchars]
      refine ⟨by omega, fun hdrops => ?_⟩
      have hparens : g.parens = true := by
        simp only [dropsOwnParens, Bool.and_eq_true] at hdrops
        exact hdrops.1.1
      rw [hparens, Bool.toNat_true]
      omega

theorem dropsOwnParens_of_unchanged (h : t.check isRoot = .unchanged) :
    t.dropsOwnParens = false := by
  rw [← Bool.not_eq_true]
  intro hdrops
  rw [dropsOwnParens.eq_def] at hdrops
  split at hdrops
  · next id a g leafId b l =>
      simp only [Bool.and_eq_true, Option.isNone_iff_eq_none] at hdrops
      obtain ⟨⟨hparens, hfield⟩, hgoes⟩ := hdrops
      rw [check, checkOne, checkLeaf, hfield, hparens] at h
      simp only [Option.isSome_none, Bool.false_eq_true, if_false, if_true] at h
      split at h
      · cases h
      · split at h
        · cases h
        · next hkept =>
            rw [Bool.or_eq_true, not_or] at hkept
            rw [if_pos ((Bool.or_eq_true_iff.1 hgoes).resolve_left hkept.1)] at h
            cases h
  · cases hdrops

/-- Checks one after the other make no text longer, and a shorter one if parentheses have to go. -/
theorem Checked.length_chars (h : Checked isRoot t out) :
    out.chars.length ≤ t.chars.length ∧
      (t.dropsOwnParens = true → out.chars.length < t.chars.length) := by
  induction h with
  | unchanged hcheck =>
      have hkept := dropsOwnParens_of_unchanged hcheck
      exact ⟨Nat.le_refl _, fun hdrops => absurd (hkept.symm.trans hdrops) Bool.false_ne_true⟩
  | moved hcheck => exact (moves_of_check hcheck).length_chars
  | changed hcheck _ ih =>
      obtain ⟨hle, hstrict⟩ := (changes_of_check hcheck).length_chars
      refine ⟨Nat.le_trans ih.1 hle, fun hdrops => ?_⟩
      rcases hstrict hdrops with hlt | hstill
      · exact Nat.lt_of_le_of_lt ih.1 hlt
      · exact Nat.lt_of_lt_of_le (ih.2 hstill) hle

end Checks

theorem isNil_cleanup_of_isNil (h : t.isNil = true) (isRoot : Bool) :
    (t.cleanup isRoot).isNil = true := by
  rw [isNil_iff.1 h]
  rfl

/-- Tidying up makes no text longer, and a shorter one if there are parentheses around a leaf that
needs none. -/
theorem length_chars_cleanup (t : Tree) (isRoot : Bool) :
    (t.cleanup isRoot).chars.length ≤ t.chars.length ∧
      (t.dropsParens = true → (t.cleanup isRoot).chars.length < t.chars.length) := by
  induction t generalizing isRoot with
  | nil => exact ⟨Nat.le_refl _, fun hdrops => absurd hdrops Bool.false_ne_true⟩
  | leaf => exact ⟨Nat.le_refl _, fun hdrops => absurd hdrops Bool.false_ne_true⟩
  | group id a g l r ihl ihr =>
      obtain ⟨hl, hlstrict⟩ := ihl false
      obtain ⟨hr, hrstrict⟩ := ihr false
      obtain ⟨hle, hstrict⟩ :=
        (checked_settle isRoot id a g (l.cleanup false) (r.cleanup false)).length_chars
      have hsides := sidesWidth_add_le g (fun hnil => isNil_cleanup_of_isNil (t := l) hnil false)
        fun hnil => isNil_cleanup_of_isNil (t := r) hnil false
      rw [cleanup]
      rw [length_chars_group] at hle hstrict ⊢
      refine ⟨by omega, fun hdrops => ?_⟩
      simp only [dropsParens, Bool.or_eq_true] at hdrops
      rcases hdrops with (hown | hdrops) | hdrops
      -- the sides are a leaf and nothing, which are left as they are
      · have hown' : (group id a g (l.cleanup false) (r.cleanup false)).dropsOwnParens = true := by
          cases l <;> cases r <;> first | cases hown | exact hown
        have := hstrict hown'
        omega
      · have := hlstrict hdrops
        omega
      · have := hrstrict hdrops
        omega

end Tree

end SearchQuery
