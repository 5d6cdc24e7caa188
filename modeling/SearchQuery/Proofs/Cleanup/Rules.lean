import SearchQuery.Pass.Cleanup
import SearchQuery.Proofs.Query.Occurrence

/-!
# The rules of tidying up

`Tidies t t'` lists what tidying up does to a tree, rule by rule, and closes the rules under the
context they are used in. `tidies_cleanup` says that `cleanup` follows them. That tidying up keeps
the reading, the leaves with what they ask, and the order of the numbers is then a matter of each
rule on its own.
-/

namespace SearchQuery

namespace Attributes

variable {outer inner : Attributes}

theorem complements_of_hasModifiers_eq_false {a : Attributes} (h : a.hasModifiers = false) :
    a.complements = a.negation.isNegated := by
  have hsign : a.sign = none := by
    simp only [hasModifiers, Bool.or_eq_false_iff] at h
    simpa using h.1.1
  rw [complements, hsign]
  exact Bool.xor_false _

theorem complements_merge (a : Attributes) (n : Negation) :
    { a with negation := a.negation.merge n }.complements = (a.complements ^^ n.isNegated) := by
  rw [complements, complements, Negation.isNegated_merge, Bool.xor_right_comm]

theorem complements_takeOver (h : outer.sign.isNone || inner.sign.isNone) :
    (outer.takeOver inner).complements = (outer.complements ^^ inner.complements) := by
  rw [takeOver, complements, complements, complements, Negation.isNegated_merge]
  dsimp only
  rcases Bool.or_eq_true_iff.1 h with h | h
  · rw [Option.isNone_iff_eq_none.1 h, Option.or_none]
    simp
  · rw [Option.isNone_iff_eq_none.1 h, Option.none_or]
    simp only [reduceCtorEq, decide_false, Bool.xor_false]
    rw [Bool.xor_right_comm]

theorem sign_fits_of_fitsOnto (h : outer.fitsOnto inner) :
    outer.sign.isNone || inner.sign.isNone := by
  simp only [fitsOnto, Bool.and_eq_true] at h
  exact h.1.1

/-- What a group and its leaf say of negation together stays the same. -/
theorem complements_foldNegation (outer inner : Attributes) :
    ((outer.foldNegation inner).1.complements ^^ (outer.foldNegation inner).2.complements) =
      (outer.complements ^^ inner.complements) := by
  rw [foldNegation]
  split
  · rw [complements_merge, Bool.xor_assoc]
    congr 1
    rw [complements, complements]
    exact (Bool.xor_left_comm ..).trans (by simp [Negation.isNegated])
  · rfl

theorem field_foldNegation (outer inner : Attributes) :
    (outer.foldNegation inner).1.field = outer.field ∧
      (outer.foldNegation inner).2.field = inner.field := by
  rw [foldNegation]
  split <;> exact ⟨rfl, rfl⟩

end Attributes

namespace Tree

/-- The tree `t'` comes out of `t` by tidying up. -/
inductive Tidies : Tree → Tree → Prop
  | refl (t) : Tidies t t
  | trans {t t' t''} (h : Tidies t t') (h' : Tidies t' t'') : Tidies t t''
  | sides {id a g l l' r r'} (hl : Tidies l l') (hr : Tidies r r') :
      Tidies (group id a g l r) (group id a g l' r')
  /-- An empty group goes. -/
  | drop {id a g} : Tidies (group id a g nil nil) nil
  /-- A clause that is alone moves to the left. -/
  | shift {id a g r} : Tidies (group id a g nil r) (group id a g r nil)
  /-- A group takes over from a group without a field that is alone in it. -/
  | absorb {id a a' g g' innerId inner innerForm l r} (hfield : a'.field = a.field)
      (hinner : inner.field = none) (h : a'.complements = (a.complements ^^ inner.complements))
      (hoperator : g'.operator = innerForm.operator) :
      Tidies (group id a g (group innerId inner innerForm l r) nil) (group id a' g' l r)
  /-- A group and the leaf that is alone in it settle which of them says what. -/
  | share {id a a' g g' leafId b b' l} (hfield : a'.field = a.field) (hleaf : b'.field = b.field)
      (h : (a'.complements ^^ b'.complements) = (a.complements ^^ b.complements)) :
      Tidies (group id a g (leaf leafId b l) nil) (group id a' g' (leaf leafId b' l) nil)
  /-- A leaf takes the place of a group without a field. -/
  | hoist {id a g leafId b b' l} (hfield : a.field = none) (hleaf : b'.field = b.field)
      (h : b'.complements = (a.complements ^^ b.complements)) :
      Tidies (group id a g (leaf leafId b l) nil) (leaf leafId b' l)

theorem tidies_settleLeaf (isRoot : Bool) (id : NodeId) (a : Attributes) (g : Group)
    (leafId : NodeId) (b : Attributes) (l : Leaf) :
    Tidies (group id a g (leaf leafId b l) nil) (settleLeaf isRoot id a g leafId b l) := by
  rw [settleLeaf]
  split
  · exact .refl _
  · next hfield =>
      have hnone : a.field = none := by simpa using hfield
      have hcomplements := Attributes.complements_foldNegation a b
      obtain ⟨houter, hinner⟩ := Attributes.field_foldNegation a b
      generalize a.foldNegation b = folded at hcomplements houter hinner ⊢
      obtain ⟨outer, inner⟩ := folded
      dsimp only at hcomplements houter hinner ⊢
      split
      · exact .share houter hinner hcomplements
      · split
        · exact .share houter hinner hcomplements
        · next hfits =>
            split
            · next hgoes =>
                have hsign : outer.sign.isNone || inner.sign.isNone := by
                  by_cases hparens : g.parens
                  · exact Attributes.sign_fits_of_fitsOnto (by simpa [hparens] using hfits)
                  · simp [hparens, Group.isLink, Attributes.hasModifiers] at hgoes
                    simp [hgoes]
                exact .hoist hnone hinner
                  ((Attributes.complements_takeOver hsign).trans hcomplements)
            · exact .share houter hinner hcomplements

theorem tidies_settleOne (isRoot : Bool) (id : NodeId) (a : Attributes) (g : Group) (t : Tree) :
    Tidies (group id a g t nil) (settleOne isRoot id a g t) := by
  induction t generalizing a g with
  | nil =>
      rw [settleOne]
      split
      · exact .refl _
      · exact .drop
  | leaf leafId b l => exact tidies_settleLeaf isRoot id a g leafId b l
  | group innerId inner innerForm l r ihl ihr =>
      rw [settleOne.eq_def]
      dsimp only
      split
      · exact .refl _
      · next hplain =>
          rw [Bool.not_eq_true, Bool.or_eq_false_iff] at hplain
          have habsorb : Tidies (group id a g (group innerId inner innerForm l r) nil)
              (group id { a with negation := a.negation.merge inner.negation }
                (absorbedForm isRoot (a.negation.merge inner.negation) g innerForm) l r) := by
            refine .absorb rfl (by simpa using hplain.1) ?_ rfl
            rw [Attributes.complements_merge,
              Attributes.complements_of_hasModifiers_eq_false hplain.2]
          split
          · exact habsorb.trans (ihl _ _)
          · exact habsorb.trans (Tidies.shift.trans (ihr _ _))
          · exact habsorb

theorem tidies_settle (isRoot : Bool) (id : NodeId) (a : Attributes) (g : Group) (l r : Tree) :
    Tidies (group id a g l r) (settle isRoot id a g l r) := by
  rw [settle.eq_def]
  split
  · exact tidies_settleOne isRoot id a g _
  · exact Tidies.shift.trans (tidies_settleOne isRoot id a g _)
  · exact .refl _

theorem tidies_cleanup (t : Tree) (isRoot : Bool) : Tidies t (t.cleanup isRoot) := by
  induction t generalizing isRoot with
  | nil => exact .refl _
  | leaf => exact .refl _
  | group id a g l r ihl ihr =>
      exact (Tidies.sides (ihl false) (ihr false)).trans (tidies_settle isRoot id a g _ _)

namespace Tidies

variable {t t' : Tree}

theorem reading (h : Tidies t t') (i : Interpretation) (inherited : Option String) :
    t'.reading i inherited = t.reading i inherited := by
  induction h generalizing inherited with
  | refl => rfl
  | trans _ _ ih ih' => rw [ih', ih]
  | sides _ _ ihl ihr => rw [reading_group, reading_group, ihl, ihr]
  | drop => rfl
  | shift => rw [reading_group_nil, reading_nil_group]
  | absorb hfield hinner h hoperator =>
      rw [reading_group_nil, reading_group, reading_group, Attributes.scope_congr hfield,
        Attributes.scope_of_field_eq_none hinner, hoperator, h, map_xor_map_xor]
  | share hfield hleaf h =>
      rw [reading_group_nil, reading_group_nil, reading_leaf, reading_leaf,
        Attributes.scope_congr hfield, Attributes.searched_congr hleaf, Option.map_some,
        Option.map_some, ← Bool.xor_assoc, ← Bool.xor_assoc, h]
  | hoist hfield hleaf h =>
      rw [reading_group_nil, reading_leaf, reading_leaf, Attributes.scope_of_field_eq_none hfield,
        Attributes.searched_congr hleaf, Option.map_some, h, Bool.xor_assoc]

/-- The leaves are the same ones in the same order, ask the same and are complemented as before. -/
theorem occurrences (h : Tidies t t') (p : Place) :
    List.Forall₂ (Occurrence.Agrees false) (t.occurrences p) (t'.occurrences p) := by
  induction h generalizing p with
  | refl => exact occurrences_agree rfl (Bool.xor_false _).symm _
  | trans _ _ ih ih' => exact Occurrence.Agrees.forall₂_trans (ih p) (ih' p)
  | sides _ _ ihl ihr => exact List.rel_append (ihl _) (ihr _)
  | drop => exact .nil
  | @shift id a g r =>
      rw [occurrences_group, occurrences_group, occurrences_nil, List.nil_append, List.append_nil]
      exact occurrences_agree rfl (Bool.xor_false _).symm r
  | @absorb id a a' _ _ innerId inner _ _ _ hfield hinner h _ =>
      have hscope : (p.inside id a').scope = ((p.inside id a).inside innerId inner).scope := by
        simp only [Place.inside, Attributes.scope_congr hfield,
          Attributes.scope_of_field_eq_none hinner]
      have hcomplemented : (p.inside id a').complemented =
          (((p.inside id a).inside innerId inner).complemented ^^ false) := by
        simp only [Place.inside, h, Bool.xor_assoc, Bool.xor_false]
      rw [occurrences_group, occurrences_nil, List.append_nil]
      exact List.rel_append (occurrences_agree hscope hcomplemented _)
        (occurrences_agree hscope hcomplemented _)
  | share hfield hleaf h =>
      refine .cons ⟨?_, ?_⟩ .nil
      · simp only [Occurrence.asked, Place.inside, Attributes.scope_congr hfield,
          Attributes.searched_congr hleaf, hleaf]
      · simp only [Place.inside, Bool.xor_assoc, h, Bool.xor_false]
  | hoist hfield hleaf h =>
      refine .cons ⟨?_, ?_⟩ .nil
      · simp only [Occurrence.asked, Place.inside, Attributes.scope_of_field_eq_none hfield,
          Attributes.searched_congr hleaf, hleaf]
      · simp only [Place.inside, Bool.xor_assoc, h, Bool.xor_false]

end Tidies

/-- Leaves that agree without exception ask the same, taken together. -/
theorem map_asked_eq {os os' : List Occurrence} (h : List.Forall₂ (Occurrence.Agrees false) os os') :
    os'.map (·.asked) = os.map (·.asked) := by
  induction h with
  | nil => rfl
  | cons hagree _ ih => rw [List.map_cons, List.map_cons, hagree.asked, ih]

theorem id?_settleLeaf_root (id : NodeId) (a : Attributes) (g : Group) (leafId : NodeId)
    (b : Attributes) (l : Leaf) : (settleLeaf true id a g leafId b l).id? = some id := by
  rw [settleLeaf]
  cases hparens : g.parens <;> split <;> simp [id?]

theorem id?_settleOne_root (id : NodeId) (a : Attributes) (g : Group) (t : Tree) :
    (settleOne true id a g t).id? = some id := by
  induction t generalizing a g with
  | nil => rfl
  | leaf leafId b l => exact id?_settleLeaf_root id a g leafId b l
  | group innerId inner innerForm l r ihl ihr =>
      rw [settleOne.eq_def]
      dsimp only
      split
      · rfl
      · split
        · exact ihl _ _
        · exact ihr _ _
        · rfl

theorem id?_cleanup_root (id : NodeId) (a : Attributes) (g : Group) (l r : Tree) :
    ((group id a g l r).cleanup true).id? = some id := by
  rw [cleanup, settle.eq_def]
  split
  · exact id?_settleOne_root id a g _
  · exact id?_settleOne_root id a g _
  · rfl

end Tree

end SearchQuery
