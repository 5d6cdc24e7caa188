import SearchQuery.Pass.Inversion
import SearchQuery.Proofs.Query.Numbers
import SearchQuery.Proofs.Query.Occurrence

/-!
# Negating a tree

`Negates next t t' after` lists the forms that negation takes: somewhere on the way down through
plain groups with one clause a node takes a complement on or gives one up, or a new group that
complements comes to stand around what there is. `negates_negate` says that `negate` does nothing
else; what negation means and what it leaves alone follows case by case.

`invertNode` puts the negated tree beside a copy of the criteria, if there are any.
-/

namespace SearchQuery

def Attributes.Contradicts (a b : Attributes) : Prop :=
  a.field = b.field ∧ a.complements = !b.complements

namespace Attributes.Contradicts

theorem scope_eq {a b : Attributes} (h : a.Contradicts b) (inherited : Option String) :
    a.scope inherited = b.scope inherited :=
  scope_congr h.1 inherited

theorem drop_negation {a : Attributes} (h : a.negation.isNegated) :
    Contradicts { a with negation := .notNegated } a := by
  refine ⟨rfl, ?_⟩
  rw [complements, complements, h]
  cases decide (a.sign = some .mustNot) <;> rfl

theorem drop_sign {a : Attributes} (h : a.sign = some .mustNot) :
    Contradicts { a with sign := none } a := by
  simp [Contradicts, complements, h]

theorem add_negation {a : Attributes} (h : ¬ a.negation.isNegated) :
    Contradicts { a with negation := .negated } a := by
  refine ⟨rfl, ?_⟩
  rw [complements, complements, (Bool.not_eq_true _).mp h]
  cases decide (a.sign = some .mustNot) <;> rfl

end Attributes.Contradicts

namespace Tree

/-- The tree `t'` is `t` negated, with new nodes numbered from `next` up to `after`. -/
inductive Negates (next : NodeId) : Tree → Tree → NodeId → Prop
  | nil : Negates next nil nil next
  | leaf {id a a' l} (h : a'.Contradicts a) : Negates next (leaf id a l) (leaf id a' l) next
  | wrapped {id a a' l} (h : a'.Contradicts a) :
      Negates next (leaf id a l) (group next .plain ⟨.default, true⟩ (leaf id a' l) nil) (next + 1)
  | group {id a a' g g' l r} (h : a'.Contradicts a) (hoperator : g'.operator = g.operator) :
      Negates next (group id a g l r) (group id a' g' l r) next
  | left {id a g l l' after} (h : Negates next l l' after) :
      Negates next (group id a g l nil) (group id a g l' nil) after
  | right {id a g r r' after} (h : Negates next r r' after) :
      Negates next (group id a g nil r) (group id a g nil r') after
  | both {id a a' g l r} (h : a'.Contradicts .plain) :
      Negates next (group id a g l r)
        (group id a { g with operator := .default } (group next a' ⟨g.operator, true⟩ l r) nil)
        (next + 1)

theorem negates_negate (t : Tree) (next : NodeId) :
    Negates next t (t.negate next).1 (t.negate next).2 := by
  induction t generalizing next with
  | nil => exact .nil
  | leaf id a l =>
      rw [negate]
      split
      · next h => exact .leaf (.drop_negation h)
      · next h =>
          split
          · next hsign => exact .leaf (.drop_sign hsign)
          · exact .wrapped (.add_negation h)
  | group id a g l r ihl ihr =>
      rw [negate.eq_def]
      dsimp only
      split
      · next h => exact .group (.drop_negation h) rfl
      · next h =>
          split
          · next hsign => exact .group (.drop_sign hsign) rfl
          · split
            · exact .group (.add_negation h) rfl
            · split
              · exact .left (ihl next)
              · exact .right (ihr next)
              · exact .both (.add_negation (by decide))

namespace Negates

variable {next after : NodeId} {t t' : Tree}

theorem extends_ids (h : Negates next t t' after) : Extends t.ids t'.ids next after := by
  induction h with
  | nil => exact .refl _ _
  | leaf => exact .refl _ _
  | wrapped => exact (Extends.refl _ _).push
  | group => exact .refl _ _
  | left _ ih => simpa [ids] using ih.cons _
  | right _ ih => simpa [ids] using ih.cons _
  | both => simpa [ids] using (Extends.refl _ _).push.cons _

theorem reading (h : Negates next t t' after) (i : Interpretation) (inherited : Option String) :
    t'.reading i inherited = (t.reading i inherited).map (!·) := by
  induction h generalizing inherited with
  | nil => rfl
  | leaf h =>
      rw [reading_leaf, reading_leaf, Attributes.searched_congr h.1, h.2, Option.map_some,
        Bool.not_xor]
  | wrapped h =>
      rw [reading_group_nil, reading_leaf, reading_leaf, Attributes.scope_plain,
        Attributes.searched_congr h.1, h.2, Attributes.complements_plain, map_false_xor,
        Option.map_some, Bool.not_xor]
  | group h hoperator =>
      rw [reading_group, reading_group, h.scope_eq, h.2, hoperator, Option.map_map]
      congr 1
      funext b
      simp
  | left _ ih =>
      rw [reading_group_nil, reading_group_nil, ih, Option.map_map, Option.map_map]
      congr 1
      funext b
      simp
  | right _ ih =>
      rw [reading_nil_group, reading_nil_group, ih, Option.map_map, Option.map_map]
      congr 1
      funext b
      simp
  | both h =>
      rw [reading_group_nil, reading_group, reading_group, h.scope_eq, h.2,
        Attributes.scope_plain, map_xor_map_xor, Option.map_map]
      congr 1
      funext b
      simp

/-- The leaves of the negated tree ask what they asked, and each is complemented the other way. -/
theorem occurrences (h : Negates next t t' after) (p : Place) :
    List.Forall₂ (Occurrence.Agrees true) (t.occurrences p) (t'.occurrences p) := by
  induction h generalizing p with
  | nil => exact .nil
  | leaf h =>
      refine .cons ⟨?_, ?_⟩ .nil
      · rw [Occurrence.asked, Occurrence.asked, h.1, Attributes.searched_congr h.1]
      · simp [h.2]
  | wrapped h =>
      refine .cons ⟨?_, ?_⟩ .nil
      · simp [Occurrence.asked, h.1, Place.inside, Attributes.searched_congr h.1]
      · simp [Place.inside, h.2]
  | @group id a a' _ _ _ _ h =>
      have hinside : (p.inside id a').complemented = ((p.inside id a).complemented ^^ true) := by
        simp [Place.inside, h.2]
      have hscope : (p.inside id a').scope = (p.inside id a).scope := h.scope_eq p.scope
      exact List.rel_append (occurrences_agree hscope hinside _) (occurrences_agree hscope hinside _)
  | left _ ih =>
      simpa [occurrences_group] using ih _
  | right _ ih =>
      simpa [occurrences_group] using ih _
  | @both id a a' _ _ _ h =>
      have hinside : ((p.inside id a).inside next a').complemented =
          ((p.inside id a).complemented ^^ true) := by
        simp [Place.inside, h.2]
      have hscope : ((p.inside id a).inside next a').scope = (p.inside id a).scope := by
        rw [Place.inside, h.scope_eq, Attributes.scope_plain]
      rw [occurrences_group, occurrences_group, occurrences_group, occurrences_nil, List.append_nil]
      exact List.rel_append (occurrences_agree hscope hinside _) (occurrences_agree hscope hinside _)

end Negates

end Tree

end SearchQuery
