import SearchQuery.Proofs.Cleanup.Width
import SearchQuery.Proofs.Query.Rereading
import SearchQuery.Proofs.Query.Scattering
import SearchQuery.Proofs.Query.Writable

/-!
# Tidy queries that are read again

What is heard of a tidy tree is tidy, `Tree.all_isTidy_echo`, unless there are parentheses in it
around a leaf that needs none: the marks of a group that has lost its parentheses are heard as those
of its leaf, and then the group around it can do without its parentheses too.

The root of a query that is tidied up keeps parentheses only together with a negation, `RootForm`.
It is read again as a group in the root, which takes over from that group when it is tidied up, and
nothing changes of the text, `SpellsQuery.chars_cleanup_reread`.
-/

namespace SearchQuery.Tree

variable {isRoot isRoot' : Bool} {part : Part} {tokens : List Token} {t t' out l r : Tree}
  {id id' : NodeId} {a a' : Attributes} {g g' : Group}

section Checks

/-- Whether a tree stays a tree of its own when it is alone in a group: a group does if it has a
field or modifiers. -/
def staysApart : Tree → Bool
  | nil => false
  | leaf .. => true
  | group _ a _ _ _ => a.field.isSome || a.hasModifiers

theorem staysApart_of_check (h : (group id a g l nil).check isRoot = .unchanged) (hl : l ≠ nil) :
    l.staysApart = true := by
  cases l with
  | nil => exact absurd rfl hl
  | leaf => rfl
  | group _ inner =>
      rw [check, checkOne] at h
      split at h
      · next hinner => exact hinner
      · cases h

/-- A group around one that stays apart, or around a leaf of which this is known, is left as it
is. -/
theorem check_of_staysApart (hl : l.staysApart = true)
    (hleaf : ∀ {leafId b question}, l = leaf leafId b question →
      checkLeaf isRoot id a g leafId b question = .unchanged) :
    (group id a g l nil).check isRoot = .unchanged := by
  cases l with
  | nil => cases hl
  | leaf => exact hleaf rfl
  | group => exact if_pos hl

theorem checkLeaf_of_dropsOwnParens_eq_false {leafId : NodeId} {b : Attributes} {question : Leaf}
    (hparens : g.parens = true)
    (hown : (group id a g (leaf leafId b question) nil).dropsOwnParens = false) :
    checkLeaf false id a g leafId b question = .unchanged := by
  rw [checkLeaf]
  split
  · rfl
  · next hfield =>
      simp only [dropsOwnParens, hparens, Bool.true_and, Bool.and_eq_false_iff,
        Bool.or_eq_false_iff, Option.isNone_eq_false_iff] at hown
      obtain ⟨hnegation, hfits⟩ := hown.resolve_left hfield
      simp [hnegation, hfits]

/-- A group in the root that is read, around something that stays apart. -/
theorem IsTidy.plain_group (h : t.IsTidy false) (hstays : t.staysApart = true) (id : NodeId) :
    (group id .plain .plain t nil).IsTidy true :=
  ⟨h, trivial, check_of_staysApart hstays fun _ => rfl⟩

end Checks

section Echo

theorem EchoesText.echo_ne_nil (h : EchoesText t) (hnil : t.isNil = false) : t.echo ≠ nil := by
  intro heq
  have hecho := h.isNil
  rw [heq, hnil] at hecho
  cases hecho

theorem Spells.echo_ne_nil (h : Spells part t tokens) (hpart : part ≠ .body) : t.echo ≠ nil := by
  have hecho := all_echoesText h
  have hnil := h.isNil_eq_false hpart
  cases part with
  | clause => exact EchoesText.echo_ne_nil hecho hnil
  | rest => exact EchoesText.echo_ne_nil hecho hnil
  | body => exact absurd rfl hpart

theorem staysApart_echo (h : Spells .clause t tokens) (hstays : t.staysApart = true) :
    t.echo.staysApart = true := by
  cases h with
  | leaf => rfl
  | group hparens =>
      rw [echo_of_parens hparens]
      exact hstays
  | marked hparens =>
      rw [echo_of_marked hparens]
      rfl
  | silent hparens ha =>
      rw [staysApart, Attributes.hasModifiers, ha.field, ha.sign, ha.boost, ha.proximity] at hstays
      cases hstays

/-- Where a group is left as it is, so is a group around what is heard of its sides. -/
theorem check_echo (h : Spells .body (group id a g l r) tokens) (hl : l ≠ nil)
    (hcheck : (group id a g l r).check isRoot = .unchanged)
    (hleaf : r = nil → ∀ {leafId b question}, l.echo = leaf leafId b question →
      checkLeaf isRoot' id' a' g' leafId b question = .unchanged) :
    (group id' a' g' l.echo r.echo).check isRoot' = .unchanged := by
  cases h with
  | empty => exact absurd rfl hl
  | single hclause =>
      have hstays := staysApart_echo hclause (staysApart_of_check hcheck hl)
      exact check_of_staysApart hstays (hleaf rfl)
  | pair hclause hrest =>
      exact check_pair (hclause.echo_ne_nil (by decide)) (hrest.echo_ne_nil (by decide))

/-- What is heard of a tidy tree is tidy, unless there are parentheses in it around a leaf that
needs none. -/
theorem all_isTidy_echo (h : Spells part t tokens) :
    part.All (fun t => t.IsTidy false → t.echo.dropsParens = false → t.echo.IsTidy false) t := by
  induction h with
  | leaf => exact fun _ _ => trivial
  | @group id a g l r _ hparens _ _ hbody ih =>
      rintro ⟨hl, hr, hcheck⟩ hkept
      rw [echo_of_parens hparens] at hkept ⊢
      simp only [dropsParens, Bool.or_eq_false_iff] at hkept
      obtain ⟨⟨hown, hkeptl⟩, hkeptr⟩ := hkept
      refine ⟨ih.1 hl hkeptl, ih.2 hr hkeptr, ?_⟩
      refine check_echo hbody (left_ne_nil_of_check hcheck) hcheck ?_
      rintro rfl leafId b question hleaf
      rw [hleaf] at hown
      exact checkLeaf_of_dropsOwnParens_eq_false rfl hown
  | marked hparens =>
      intro _ _
      rw [echo_of_marked hparens]
      trivial
  | silent hparens ha _ ih =>
      rintro ⟨hl, -, -⟩
      rw [echo_of_silent ha hparens]
      exact ih hl
  | last _ ih => exact ih
  | link hparens ha hl hr ihl ihr =>
      rintro ⟨htidyl, htidyr, -⟩ hkept
      rw [echo_of_link hparens (hr.isNil_eq_false (by decide))] at hkept ⊢
      simp only [dropsParens, Bool.or_eq_false_iff] at hkept
      exact ⟨ihl htidyl hkept.1.2, ihr htidyr hkept.2,
        check_pair (hl.echo_ne_nil (by decide)) (hr.echo_ne_nil (by decide))⟩
  | empty => exact ⟨fun _ _ => trivial, fun _ _ => trivial⟩
  | single _ ih => exact ⟨ih, fun _ _ => trivial⟩
  | pair _ _ ihl ihr => exact ⟨ihl, ihr⟩

end Echo

section Root

/-- What is in the parentheses of the root while a query is tidied up: a leaf for which the
parentheses are about to go, or, with a negation of the root, something that is not absorbed. -/
def RootForm : Tree → Prop
  | group _ a g l r =>
      a.field = none ∧ a.hasModifiers = false ∧
        (g.parens = true → (∃ leafId b question, l = leaf leafId b question) ∧ r = nil ∨
          a.negation.isNegated = true ∧ l ≠ nil ∧ (r = nil → l.staysApart = true))
  | _ => True

theorem RootForm.changes (h : t.RootForm) (hsides : t.SidesTidy) (hchanges : Changes true t t') :
    t'.RootForm := by
  cases hchanges with
  | shift hr =>
      obtain ⟨hfield, hmodifiers, hparens⟩ := h
      refine ⟨hfield, hmodifiers, fun htrue => ?_⟩
      obtain ⟨-, hnil⟩ | ⟨-, hl, -⟩ := hparens htrue
      · exact absurd hnil hr
      · exact absurd rfl hl
  | @absorb id a g innerId inner innerForm l r hinner =>
      obtain ⟨hfield, hmodifiers, hparens⟩ := h
      refine ⟨hfield, hmodifiers, fun htrue => .inr ?_⟩
      have hfalse : g.parens = false := by
        rw [← Bool.not_eq_true]
        intro htrue
        obtain ⟨⟨_, _, _, hleaf⟩, -⟩ | ⟨-, -, hstays⟩ := hparens htrue
        · cases hleaf
        · exact absurd (hinner.symm.trans (hstays rfl)) Bool.false_ne_true
      -- the group that is absorbed is tidy
      obtain ⟨-, -, hcheck⟩ := hsides.1
      have hl := left_ne_nil_of_check hcheck
      refine ⟨?_, hl, ?_⟩
      · simp only [absorbedForm, hfalse, Bool.false_or, Bool.and_eq_true] at htrue
        simpa using htrue.2
      · rintro rfl
        exact staysApart_of_check hcheck hl
  | fold =>
      obtain ⟨hfield, hmodifiers, -⟩ := h
      exact ⟨hfield, hmodifiers, fun _ => .inl ⟨⟨_, _, _, rfl⟩, rfl⟩⟩
  | unwrap =>
      obtain ⟨hfield, hmodifiers, -⟩ := h
      exact ⟨hfield, hmodifiers, fun htrue => absurd htrue Bool.false_ne_true⟩

theorem Checked.rootForm (h : Checked true t out) (hform : t.RootForm) (hsides : t.SidesTidy) :
    out.RootForm := by
  induction h with
  | unchanged => exact hform
  | moved hcheck => cases moves_of_check hcheck <;> trivial
  | changed hcheck _ ih =>
      have hchanges := changes_of_check hcheck
      exact ih (hform.changes hsides hchanges) (hsides.changes hchanges)

theorem rootForm_cleanup (id : NodeId) (operator : Operator) (l r : Tree) :
    ((group id .plain ⟨operator, false⟩ l r).cleanup true).RootForm :=
  (checked_settle true id .plain ⟨operator, false⟩ (l.cleanup false) (r.cleanup false)).rootForm
    ⟨rfl, rfl, fun htrue => absurd htrue Bool.false_ne_true⟩
    ⟨isTidy_cleanup l false, isTidy_cleanup r false⟩

/-- The root in parentheses, once it is tidy, is a negation of something that is not absorbed. -/
theorem RootForm.negated (h : (group id a g l r).RootForm) (hparens : g.parens = true)
    (hcheck : (group id a g l r).check true = .unchanged) :
    a = { Attributes.plain with negation := .negated } ∧ l ≠ nil := by
  obtain ⟨hfield, hmodifiers, hinside⟩ := h
  obtain ⟨⟨⟨leafId, b, question, rfl⟩, rfl⟩⟩ | ⟨hnegated, hl, -⟩ := hinside hparens
  · rw [check, checkOne, checkLeaf, hfield, hparens, Bool.or_true] at hcheck
    simp only [Option.isSome_none, Bool.false_eq_true, if_false, if_true] at hcheck
    split at hcheck <;> cases hcheck
  · refine ⟨?_, hl⟩
    obtain ⟨field, negation, sign, boost, proximity⟩ := a
    simp only [Attributes.hasModifiers, Bool.or_eq_false_iff, Option.isSome_eq_false_iff,
      Option.isNone_iff_eq_none] at hmodifiers
    obtain ⟨⟨rfl, rfl⟩, rfl⟩ := hmodifiers
    obtain rfl : field = none := hfield
    cases negation with
    | negated => rfl
    | _ => cases hnegated

end Root

section Reread

theorem chars_plain_group (id : NodeId) (t : Tree) :
    (group id .plain .plain t nil).chars = t.chars :=
  (chars_of_silent Attributes.silent_plain rfl id t nil).trans (inner_group_nil id .plain .plain t)

theorem chars_reread (t : Tree) : t.reread.chars = t.echo.chars := by
  obtain h | ⟨_, _, _, _, _, hecho, h⟩ := reread_cases t
  · rw [h, chars_plain_group]
  · rw [h, hecho]
    rfl

theorem dropsParens_reread (t : Tree) : t.reread.dropsParens = t.echo.dropsParens := by
  obtain h | ⟨_, _, _, l, r, hecho, h⟩ := reread_cases t
  · rw [h]
    cases t.echo <;> simp [dropsParens, dropsOwnParens, Group.plain]
  · rw [h, hecho]
    cases l <;> cases r <;> rfl

theorem cleanup_around_negated {operator : Operator}
    (htidy : (group id { Attributes.plain with negation := .negated } ⟨operator, true⟩ l r).IsTidy
      false)
    (hcheck : (group 0 { Attributes.plain with negation := .negated } ⟨operator, true⟩ l r).check
      true = .unchanged) :
    (group 0 .plain .plain
      (group id { Attributes.plain with negation := .negated } ⟨operator, true⟩ l r) nil).cleanup
        true = group 0 { Attributes.plain with negation := .negated } ⟨operator, true⟩ l r := by
  have habsorbed : Checked true
      (group 0 .plain .plain
        (group id { Attributes.plain with negation := .negated } ⟨operator, true⟩ l r) nil)
      (group 0 { Attributes.plain with negation := .negated } ⟨operator, true⟩ l r) :=
    .changed rfl (.unchanged hcheck)
  rw [cleanup, htidy.cleanup_eq]
  exact (checked_settle ..).unique habsorbed

theorem chars_cleanup_negated (h : Spells .body (group id a g l r) tokens)
    (hparens : g.parens = true) (htidy : (group id a g l r).IsTidy true)
    (hform : (group id a g l r).RootForm) (hkept : (group id a g l r).echo.dropsParens = false) :
    ((group 0 .plain .plain (group id a g l r).echo nil).cleanup true).chars =
      (group id a g l r).echo.chars := by
  obtain ⟨hl, hr, hcheck⟩ := htidy
  obtain ⟨rfl, hnil⟩ := hform.negated hparens hcheck
  rw [echo_of_parens hparens] at hkept ⊢
  simp only [dropsParens, Bool.or_eq_false_iff] at hkept
  obtain ⟨⟨hown, hkeptl⟩, hkeptr⟩ := hkept
  obtain ⟨hechol, hechor⟩ := all_isTidy_echo h
  -- a leaf in a negated group would need no parentheses
  have hleaf : r = nil → ∀ {leafId b question}, l.echo ≠ leaf leafId b question := by
    rintro rfl leafId b question hleaf
    rw [hleaf] at hown
    cases hown
  have hunchanged : ∀ (isRoot : Bool) (id' : NodeId),
      (group id' { Attributes.plain with negation := .negated }
        ⟨if r.isNil then .default else g.operator, true⟩ l.echo r.echo).check isRoot = .unchanged :=
    fun _ _ => check_echo h hnil hcheck fun hr _ _ _ heq => absurd heq (hleaf hr)
  have hcleanup := cleanup_around_negated
    ⟨hechol hl hkeptl, hechor hr hkeptr, hunchanged false id⟩ (hunchanged true 0)
  -- the texts differ in nothing but the number of the group
  exact (congrArg chars hcleanup).trans rfl

/-- A tidy query that is read again and tidied up has the text that is heard of it, unless there are
parentheses around a leaf that needs none. -/
theorem SpellsQuery.chars_cleanup_reread (h : SpellsQuery t tokens) (htidy : t.IsTidy true)
    (hform : t.RootForm) (hkept : t.echo.dropsParens = false) :
    (t.reread.cleanup true).chars = t.echo.chars := by
  have hreread : t.reread.IsTidy true → (t.reread.cleanup true).chars = t.echo.chars := by
    intro hreread
    rw [hreread.cleanup_eq, chars_reread]
  cases h with
  | @nothing id a g hparens ha =>
      refine hreread ?_
      rw [reread, echo_of_silent ha hparens]
      exact ⟨trivial, trivial, rfl⟩
  | clauses h =>
      cases h with
      | last h =>
          have hroot := reread_of_clause h
          cases h with
          | leaf => exact hreread (hroot ▸ IsTidy.plain_group (t := leaf _ _ _) trivial rfl 0)
          | group hparens _ _ hbody =>
              rw [hroot]
              exact chars_cleanup_negated hbody hparens htidy hform hkept
          | marked hparens =>
              rw [echo_of_marked hparens] at hroot
              exact hreread (hroot ▸ IsTidy.plain_group (t := leaf _ _ _) trivial rfl 0)
          | silent hparens ha hl =>
              rw [echo_of_silent ha hparens] at hroot hkept
              have hstays := staysApart_of_check htidy.2.2 (Writable.ne_nil ⟨_, hl⟩ (by decide))
              exact hreread (hroot ▸
                (all_isTidy_echo hl htidy.1 hkept).plain_group (staysApart_echo hl hstays) 0)
      | link hparens ha hl hr =>
          rw [echo_of_link hparens (hr.isNil_eq_false (by decide))] at hkept
          simp only [dropsParens, Bool.or_eq_false_iff] at hkept
          obtain ⟨htidyl, htidyr, -⟩ := htidy
          refine hreread ?_
          rw [reread, echo_of_link hparens (hr.isNil_eq_false (by decide))]
          exact ⟨all_isTidy_echo hl htidyl hkept.1.2, all_isTidy_echo hr htidyr hkept.2,
            check_pair (hl.echo_ne_nil (by decide)) (hr.echo_ne_nil (by decide))⟩

end Reread

section Numbers

theorem unnumbered_settleLeaf (isRoot : Bool) (id : NodeId) (a : Attributes) (g : Group)
    (leafId : NodeId) (b : Attributes) (question : Leaf) :
    (settleLeaf isRoot id a g leafId b question).unnumbered =
      settleLeaf isRoot 0 a g 0 b question := by
  simp only [settleLeaf, apply_ite unnumbered]
  rfl

theorem unnumbered_settleOne (isRoot : Bool) (id : NodeId) (a : Attributes) (g : Group) (t : Tree) :
    (settleOne isRoot id a g t).unnumbered = settleOne isRoot 0 a g t.unnumbered := by
  induction t generalizing a g with
  | nil =>
      rw [unnumbered, settleOne, settleOne, apply_ite unnumbered]
      rfl
  | leaf => exact unnumbered_settleLeaf ..
  | group innerId inner innerForm l r ihl ihr =>
      rw [unnumbered, settleOne.eq_def, settleOne.eq_def]
      dsimp only
      rw [apply_ite unnumbered]
      congr 1
      cases r with
      | nil => exact ihl _ _
      | leaf => cases l <;> first | exact ihr _ _ | rfl
      | group => cases l <;> first | exact ihr _ _ | rfl

theorem unnumbered_settle (isRoot : Bool) (id : NodeId) (a : Attributes) (g : Group) (l r : Tree) :
    (settle isRoot id a g l r).unnumbered = settle isRoot 0 a g l.unnumbered r.unnumbered := by
  cases l <;> cases r <;> first | exact unnumbered_settleOne .. | rfl

theorem unnumbered_cleanup (t : Tree) (isRoot : Bool) :
    (t.cleanup isRoot).unnumbered = t.unnumbered.cleanup isRoot := by
  induction t generalizing isRoot with
  | nil => rfl
  | leaf => rfl
  | group id a g l r ihl ihr =>
      rw [cleanup, unnumbered_settle, ihl, ihr]
      rfl

theorem chars_cleanup_of_unnumbered_eq (h : t.unnumbered = t'.unnumbered) (isRoot : Bool) :
    (t.cleanup isRoot).chars = (t'.cleanup isRoot).chars := by
  rw [← chars_unnumbered, unnumbered_cleanup, h, ← unnumbered_cleanup, chars_unnumbered]

end Numbers

end SearchQuery.Tree
