import SearchQuery.Pass.Cleanup
import SearchQuery.Proofs.Query.Writable

/-!
# Tidied queries can be written

What is left of a query that can be written, once it has been tidied up, can be written too,
`Tree.exists_spellsQuery_cleanup`. Parentheses are dropped around a leaf only, or at the root; a
group that keeps its negation or its modifiers without its parentheses therefore stands around a
leaf, `Tree.writable_settleLeaf`, and any other group without parentheses says nothing,
`Encloses`.
-/

namespace SearchQuery

namespace Attributes

variable {a b : Attributes}

theorem LexicalClosing.of_eq (h : a.LexicalClosing) (hproximity : b.proximity = a.proximity)
    (hboost : b.boost = a.boost) : b.LexicalClosing :=
  ⟨by rw [hproximity]; exact h.proximity, by rw [hboost]; exact h.boost⟩

theorem LexicalClosing.takeOver (ha : a.LexicalClosing) (hb : b.LexicalClosing) :
    (a.takeOver b).LexicalClosing := by
  refine ⟨fun value h => ?_, fun value h => ?_⟩
  · rcases Option.or_eq_some_iff.1 h with h | ⟨-, h⟩
    · exact hb.proximity value h
    · exact ha.proximity value h
  · rcases Option.or_eq_some_iff.1 h with h | ⟨-, h⟩
    · exact hb.boost value h
    · exact ha.boost value h

/-- Nothing but the negations of a group and its leaf is settled. -/
theorem lexical_foldNegation (ha : a.LexicalClosing) (hb : b.LexicalClosing) :
    ((a.foldNegation b).1.field = a.field ∧ (a.foldNegation b).1.LexicalClosing) ∧
      ((a.foldNegation b).2.field = b.field ∧ (a.foldNegation b).2.LexicalClosing) := by
  rw [foldNegation]
  split
  · exact ⟨⟨rfl, ha.of_eq rfl rfl⟩, rfl, hb.of_eq rfl rfl⟩
  · exact ⟨⟨rfl, ha⟩, rfl, hb⟩

end Attributes

namespace Tree

/-- Whether a group like this may stand around any clauses: without parentheses it has to say
nothing. -/
structure Encloses (a : Attributes) (g : Group) : Prop where
  closing : a.LexicalClosing
  field : a.LexicalField
  silent : g.parens = false → a.Silent

def Left (isRoot : Bool) (part : Part) (t : Tree) : Prop :=
  if isRoot then ∃ tokens, SpellsQuery t tokens else t = nil ∨ Writable part t

variable {isRoot : Bool} {part : Part} {id : NodeId} {a b : Attributes} {g : Group} {l r t : Tree}
  {leafId : NodeId} {question : Leaf}

theorem Writable.left_rest (h : Writable .rest t) (isRoot : Bool) : Left isRoot .rest t := by
  cases isRoot with
  | false => exact .inr h
  | true =>
      obtain ⟨tokens, htokens⟩ := h
      exact ⟨tokens, .clauses htokens⟩

theorem Writable.left (h : Writable .clause t) (isRoot : Bool) (hpart : part ≠ .body) :
    Left isRoot part t := by
  cases isRoot with
  | true => exact h.last.left_rest true
  | false =>
      cases part with
      | clause => exact .inr h
      | rest => exact .inr h.last
      | body => exact absurd rfl hpart

theorem Left.of_clause (h : Left isRoot .clause t) (hpart : part ≠ .body) :
    Left isRoot part t := by
  cases isRoot with
  | true => exact h
  | false =>
      rcases h with rfl | h
      · exact .inl rfl
      · exact h.left false hpart

/-- A group around clauses. Only the root may be without parentheses and yet no clause. -/
theorem Encloses.writable (h : Encloses a g) (hbody : Writable .body (.group id a g l r))
    (hparens : g.parens = true) : Writable .clause (.group id a g l r) :=
  writable_group hparens h.closing h.field hbody

theorem Encloses.left_single (h : Encloses a g) (ht : Writable .clause t) (isRoot : Bool) :
    Left isRoot .clause (.group id a g t .nil) := by
  have hwritable : Writable .clause (.group id a g t .nil) := by
    cases hparens : g.parens with
    | true => exact h.writable (writable_body (.inr ht) (.inl rfl)) hparens
    | false => exact writable_silent hparens (h.silent hparens) ht
  exact hwritable.left isRoot (by decide)

/-- A group that holds several clauses may be a rest, and a clause if it has parentheses. -/
theorem Encloses.left_pair (h : Encloses a g) (hl : Writable .clause l) (hr : Writable .rest r)
    (hpart : isRoot = false → g.parens = false → part = .rest) (hbody : part ≠ .body) :
    Left isRoot part (.group id a g l r) := by
  cases hparens : g.parens with
  | true =>
      exact (h.writable (writable_body (.inr hl) (.inr hr)) hparens).left isRoot hbody
  | false =>
      have hrest : Writable .rest (.group id a g l r) :=
        writable_link hparens (h.silent hparens) hl hr
      cases isRoot with
      | true => exact hrest.left_rest true
      | false =>
          rw [hpart rfl hparens]
          exact hrest.left_rest false

theorem writable_settleLeaf (ha : a.LexicalClosing) (hfield : a.LexicalField)
    (hnone : g.parens = false → a.field = none) (h : Writable .clause (.leaf leafId b question))
    (isRoot : Bool) (id : NodeId) :
    Writable .clause (settleLeaf isRoot id a g leafId b question) := by
  have hparens : g.parens = true → ∀ {outer inner : Attributes}, outer.LexicalClosing →
      outer.LexicalField → Writable .clause (.leaf leafId inner question) →
      Writable .clause (.group id outer g (.leaf leafId inner question) .nil) :=
    fun hparens _ _ houter hfield hinner =>
      writable_group hparens houter hfield (writable_body (.inr hinner) (.inl rfl))
  rw [settleLeaf]
  split
  · next hsome =>
      have htrue : g.parens = true := by
        rw [← Bool.not_eq_false]
        intro hfalse
        simp [hnone hfalse] at hsome
      exact hparens htrue ha hfield h
  · next hsome =>
      obtain ⟨⟨houterField, houter⟩, hinnerField, hinner⟩ :=
        Attributes.lexical_foldNegation ha (spells_of_writable_leaf h).1
      have hleaf := h.leaf_of_field_eq hinnerField hinner
      have houterNone : (a.foldNegation b).1.field = none :=
        houterField.trans (by simpa using hsome)
      generalize a.foldNegation b = folded at houter hinner hleaf houterNone hinnerField ⊢
      obtain ⟨outer, inner⟩ := folded
      dsimp only at houter hinner hleaf houterNone hinnerField ⊢
      split
      · exact writable_marked rfl houter houterNone hleaf
      · split
        · next hunfit =>
            have htrue : g.parens = true := by
              rw [Bool.and_eq_true] at hunfit
              exact hunfit.1
            exact hparens htrue houter (Attributes.lexicalField_of_none houterNone) hleaf
        · split
          · exact h.leaf_of_field_eq hinnerField (houter.takeOver hinner)
          · next hkept =>
              have hfalse : g.parens = false := by
                rw [← Bool.not_eq_true]
                intro htrue
                simp [htrue] at hkept
              exact writable_marked hfalse houter houterNone hleaf

/-- A group that has absorbed another one still may stand around any clauses, if the other one was
in parentheses or said nothing. -/
theorem Encloses.absorb (h : Encloses a g) {inner : Attributes} {innerForm : Group}
    (hinner : innerForm.parens = false → inner.negation.isNegated = false) :
    Encloses { a with negation := a.negation.merge inner.negation }
      (absorbedForm isRoot (a.negation.merge inner.negation) g innerForm) := by
  refine ⟨h.closing.of_eq rfl rfl, h.field.of_field_eq rfl, fun hparens => ?_⟩
  simp only [absorbedForm, Bool.or_eq_false_iff] at hparens
  have hsilent := h.silent hparens.1
  refine ⟨hsilent.field, hsilent.sign, ?_, hsilent.proximity, hsilent.boost⟩
  cases hform : innerForm.parens with
  | false =>
      dsimp only
      rw [Negation.isNegated_merge, hsilent.negation, hinner hform]
      rfl
  | true =>
      rw [hform, Bool.true_and, Bool.or_eq_false_iff] at hparens
      exact hparens.2.2

theorem left_settleOne_nil (h : Encloses a g) (isRoot : Bool) (id : NodeId) (hpart : part ≠ .body) :
    Left isRoot part (settleOne isRoot id a g .nil) := by
  cases isRoot with
  | false => exact .inl rfl
  | true =>
      cases hparens : g.parens with
      | true =>
          exact (h.writable (writable_body (.inl ⟨rfl, rfl⟩) (.inl rfl)) hparens).left true hpart
      | false => exact ⟨_, .nothing hparens (h.silent hparens)⟩

theorem left_settleOne (h : Encloses a g) (ht : Writable .clause t) (isRoot : Bool) (id : NodeId) :
    Left isRoot .clause (settleOne isRoot id a g t) := by
  induction t generalizing a g with
  | nil => exact left_settleOne_nil h isRoot id (by decide)
  | leaf leafId b question =>
      exact (writable_settleLeaf h.closing h.field (fun hparens => (h.silent hparens).field) ht
        isRoot id).left isRoot (by decide)
  | group innerId inner innerForm l r ihl ihr =>
      rw [settleOne.eq_def]
      dsimp only
      split
      · exact h.left_single ht isRoot
      · have habsorb : (innerForm.parens = false → inner.negation.isNegated = false) →
            Encloses { a with negation := a.negation.merge inner.negation }
              (absorbedForm isRoot (a.negation.merge inner.negation) g innerForm) := h.absorb
        obtain ⟨_, htokens⟩ := ht
        cases htokens with
        | group hparens _ _ hbody =>
            have hinner := habsorb (by simp [hparens])
            obtain ⟨hl, hr⟩ := slots_of_writable_body ⟨_, hbody⟩
            split
            · rcases hl with ⟨rfl, -⟩ | hl
              · exact left_settleOne_nil hinner isRoot id (by decide)
              · exact ihl hinner hl
            · next hnil =>
                rcases hl with ⟨-, rfl⟩ | hl
                · exact absurd rfl hnil
                · exact absurd rfl (hl.ne_nil (by decide))
            · next hlnil hrnil =>
                exact hinner.left_pair (hl.resolve_left fun hnil => hlnil hnil.1)
                  (hr.resolve_left hrnil) (fun hroot hform => by
                    simp [absorbedForm, hparens, hroot] at hform) (by decide)
        | @marked _ _ _ leafId b question _ hparens hclosing hfield hb hleaf =>
            have hnone : (absorbedForm isRoot (a.negation.merge inner.negation) g
                innerForm).parens = false → a.field = none := by
              intro hform
              simp only [absorbedForm, Bool.or_eq_false_iff] at hform
              exact (h.silent hform.1).field
            have hmerged : Attributes.LexicalClosing
                { a with negation := a.negation.merge inner.negation } := h.closing.of_eq rfl rfl
            have hleaf : Writable .clause (.leaf leafId b question) := writable_leaf hb ⟨_, hleaf⟩
            refine Writable.left ?_ isRoot (by decide)
            exact writable_settleLeaf hmerged (h.field.of_field_eq rfl) hnone hleaf isRoot id
        | silent hparens ha hl =>
            exact ihl (habsorb fun _ => ha.negation) ⟨_, hl⟩

theorem left_settleOne_of_left (h : Encloses a g) (ht : Left false .clause t) (isRoot : Bool)
    (id : NodeId) : Left isRoot .clause (settleOne isRoot id a g t) := by
  rcases ht with rfl | ht
  · exact left_settleOne_nil h isRoot id (by decide)
  · exact left_settleOne h ht isRoot id

/-- What is left of a group around the rest of a sequence. A link group is absorbed. -/
theorem left_settleOne_rest (h : Encloses a g) (ht : Writable .rest t)
    (hpart : isRoot = false → g.parens = false → part = .rest) (hbody : part ≠ .body)
    (id : NodeId) : Left isRoot part (settleOne isRoot id a g t) := by
  obtain ⟨_, htokens⟩ := ht
  cases htokens with
  | last ht => exact (left_settleOne h ⟨_, ht⟩ isRoot id).of_clause hbody
  | @link _ inner innerForm l r _ _ hparens ha hl hr =>
      have habsorb : Encloses { a with negation := a.negation.merge inner.negation }
          (absorbedForm isRoot (a.negation.merge inner.negation) g innerForm) :=
        h.absorb fun _ => ha.negation
      have hkept : (inner.field.isSome || inner.hasModifiers) = false := by
        rw [ha.field, Attributes.hasModifiers, ha.sign, ha.proximity, ha.boost]
        rfl
      rw [settleOne.eq_def]
      dsimp only
      rw [if_neg (by simp [hkept])]
      split
      · exact absurd rfl (Writable.ne_nil ⟨_, hr⟩ (by decide))
      · exact absurd rfl (Writable.ne_nil ⟨_, hl⟩ (by decide))
      · refine habsorb.left_pair ⟨_, hl⟩ ⟨_, hr⟩ (fun hroot hform => hpart hroot ?_) hbody
        simp only [absorbedForm, Bool.or_eq_false_iff] at hform
        exact hform.1

theorem left_settle (h : Encloses a g) (hl : Left false .clause l) (hr : Left false .rest r)
    (hpart : isRoot = false → g.parens = false → part = .rest) (hbody : part ≠ .body)
    (id : NodeId) : Left isRoot part (settle isRoot id a g l r) := by
  rw [settle.eq_def]
  split
  · exact (left_settleOne_of_left h hl isRoot id).of_clause hbody
  · rcases hr with rfl | hr
    · exact left_settleOne_nil h isRoot id hbody
    · exact left_settleOne_rest h hr hpart hbody id
  · next hlnil hrnil =>
      exact h.left_pair (hl.resolve_left hlnil) (hr.resolve_left hrnil) hpart hbody

theorem settle_nil (isRoot : Bool) (id : NodeId) (a : Attributes) (g : Group) (l : Tree) :
    settle isRoot id a g l .nil = settleOne isRoot id a g l := by
  cases l <;> rfl

def Part.Tidied : Part → Tree → Prop
  | .body, .group _ _ _ l r =>
      Left false .clause (l.cleanup false) ∧ Left false .rest (r.cleanup false)
  | .body, _ => True
  | part, t => ∀ isRoot, Left isRoot part (t.cleanup isRoot)

theorem tidied {tokens : List Token} (h : Spells part t tokens) : part.Tidied t := by
  induction h with
  | leaf ha h => exact fun isRoot => (writable_leaf ha ⟨_, h⟩).left isRoot (by decide)
  | group hparens ha hfield _ ih =>
      exact fun isRoot => left_settle ⟨ha, hfield, by simp [hparens]⟩ ih.1 ih.2
        (by simp [hparens]) (by decide) _
  | marked hparens ha hfield hb h =>
      intro isRoot
      refine Writable.left ?_ isRoot (by decide)
      exact writable_settleLeaf ha (Attributes.lexicalField_of_none hfield) (fun _ => hfield)
        (writable_leaf hb ⟨_, h⟩) isRoot _
  | silent hparens ha _ ih =>
      intro isRoot
      rw [cleanup, show nil.cleanup false = nil from rfl, settle_nil]
      exact left_settleOne_of_left
        ⟨ha.lexicalClosing, Attributes.lexicalField_of_none ha.field, fun _ => ha⟩ (ih false) isRoot
        _
  | last _ ih => exact fun isRoot => (ih isRoot).of_clause (by decide)
  | link hparens ha _ _ ihl ihr =>
      exact fun isRoot => left_settle
        ⟨ha.lexicalClosing, Attributes.lexicalField_of_none ha.field, fun _ => ha⟩ (ihl false)
        (ihr false) (fun _ _ => rfl) (by decide) _
  | empty => exact ⟨.inl rfl, .inl rfl⟩
  | single _ ih => exact ⟨ih false, .inl rfl⟩
  | pair _ _ ihl ihr => exact ⟨ihl false, ihr false⟩

theorem exists_spellsQuery_cleanup {tokens : List Token} (h : SpellsQuery t tokens) :
    ∃ tokens, SpellsQuery (t.cleanup true) tokens := by
  cases h with
  | nothing hparens ha => exact ⟨_, .nothing hparens ha⟩
  | clauses h => exact tidied h true

end Tree

end SearchQuery
