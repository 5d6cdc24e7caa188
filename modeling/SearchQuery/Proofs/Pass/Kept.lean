import SearchQuery.Pass
import SearchQuery.Proofs.Store.Forest
import SearchQuery.Proofs.Store.Rewriting
import SearchQuery.Proofs.Validation.Tables

/-!
# What changes of a store leave alone

Links and marks are no field of a node and no note. So tidying up and inverting keep the field of every
node that there is, in the query or not, and all notes, on any store, `keepsFields_cleanup` and
`keepsFields_invert`. Removal keeps the notes, `annotations_removal`.
-/

namespace SearchQuery

namespace Store

variable {s s' s'' : Store} {id : NodeId}

theorem attrs_eq_elim_label? (s : Store) (id : NodeId) :
    s.attrs id = (s.label? id).elim .plain (·.1) := by
  rw [attrs, label?]
  cases s.node? id with
  | none => rfl
  | some n =>
      obtain ⟨a, content, p⟩ := n
      cases content <;> rfl

/-- Every node that there was has its field, and all notes are the same. -/
structure KeepsFields (s s' : Store) : Prop where
  next_le : s.next ≤ s'.next
  annotations_eq : s'.annotations = s.annotations
  field_eq : ∀ x < s.next, (s'.attrs x).field = (s.attrs x).field

namespace KeepsFields

theorem refl (s : Store) : KeepsFields s s :=
  ⟨Nat.le_refl _, rfl, fun _ _ => rfl⟩

theorem trans (h : KeepsFields s s') (h' : KeepsFields s' s'') : KeepsFields s s'' :=
  ⟨Nat.le_trans h.next_le h'.next_le, h'.annotations_eq.trans h.annotations_eq,
    fun x hx => (h'.field_eq x (Nat.lt_of_lt_of_le hx h.next_le)).trans (h.field_eq x hx)⟩

theorem of_sameLabels (h : SameLabels s s') : KeepsFields s s' := by
  refine ⟨Nat.le_of_eq h.next_eq.symm, h.annotations_eq, fun x _ => ?_⟩
  rw [attrs_eq_elim_label?, h.label?_eq, ← attrs_eq_elim_label?]

theorem setSlot (s : Store) (side : Tree.Side) (id : NodeId) (child : Option NodeId) :
    KeepsFields s (s.setSlot side id child) :=
  .of_sameLabels (.setSlot ..)

theorem replaceSelf (s : Store) (id r : NodeId) : KeepsFields s (s.replaceSelf id r) :=
  .of_sameLabels (.replaceSelf ..)

theorem removeSelf (s : Store) (id : NodeId) : KeepsFields s (s.removeSelf id) :=
  .of_sameLabels (.removeSelf ..)

theorem wrap (s : Store) (id wrapper : NodeId) : KeepsFields s (s.wrap id wrapper) :=
  (replaceSelf s id wrapper).trans (setSlot ..)

theorem modifyAttrs {f : Attributes → Attributes} (hf : ∀ a, (f a).field = a.field) (s : Store)
    (id : NodeId) : KeepsFields s (s.modifyAttrs id f) := by
  refine ⟨Nat.le_of_eq (Relabels.modifyAttrs s id f).next_eq.symm, rfl, fun x _ => ?_⟩
  rw [attrs, Store.modifyAttrs, node?_modify, attrs]
  split
  · cases s.node? x with
    | none => rfl
    | some n => exact hf n.attrs
  · rfl

theorem modifyForm (s : Store) (id : NodeId) (f : Group → Group) :
    KeepsFields s (s.modifyForm id f) := by
  refine ⟨Nat.le_of_eq (Relabels.modifyForm s id f).next_eq.symm, rfl, fun x _ => ?_⟩
  rw [attrs, Store.modifyForm, node?_modify, attrs]
  split
  · cases s.node? x with
    | none => rfl
    | some n =>
        obtain ⟨a, content, p⟩ := n
        cases content <;> rfl
  · rfl

theorem extend {t : Tree} (h : Extends s s' t) (hnotes : s'.annotations = s.annotations) :
    KeepsFields s s' := by
  refine ⟨h.le_next, hnotes, fun x hx => ?_⟩
  rw [attrs, h.node?_eq x hx, attrs]

theorem copy (s : Store) (t : Tree) : KeepsFields s (s.copy t) :=
  extend (extends_copy s t) (annotations_copy s t)

theorem addGroup (s : Store) (a : Attributes) (g : Group) :
    KeepsFields s (s.add a (.group g none none)) :=
  extend (extends_add_group s a g) rfl

end KeepsFields

/-! ## Tidying up -/

def StepKeepsFields (s : Store) : Settling → Prop
  | .settled => True
  | .changed s' => KeepsFields s s'
  | .moved _ s' => KeepsFields s s'

theorem keepsFields_absorb (s : Store) (id : NodeId) (negation : Negation) (form : Group)
    (left right : Option NodeId) : KeepsFields s (s.absorb id negation form left right) :=
  ((((KeepsFields.setSlot ..).trans (.setSlot ..)).trans (.setSlot ..)).trans
    (.modifyAttrs (f := ({ · with negation := negation })) (fun _ => rfl) ..)).trans (.modifyForm ..)

theorem keepsFields_collapse (s : Store) (id child : NodeId) :
    KeepsFields s (s.collapse id child) := by
  have houter := KeepsFields.modifyAttrs
    (f := ({ · with sign := none, boost := none, proximity := none })) (fun _ => rfl) s id
  have hinner (s' : Store) := KeepsFields.modifyAttrs (f := (s.attrs id).takeOver) (fun _ => rfl) s' child
  exact (houter.trans (hinner _)).trans (.replaceSelf ..)

theorem keeps_settleLeaf (s : Store) (id : NodeId) (a : Attributes) (g : Group) (child : NodeId)
    (inner : Attributes) : s.StepKeepsFields (s.settleLeaf id a g child inner) := by
  rw [settleLeaf]
  split
  · trivial
  · split
    · exact (KeepsFields.modifyAttrs (f := ({ · with negation := .unspecified }))
        (fun _ => rfl) ..).trans (.modifyAttrs
          (f := ({ · with negation := a.negation.merge inner.negation })) (fun _ => rfl) ..)
    · split
      · split
        · exact .modifyForm ..
        · split
          · exact keepsFields_collapse ..
          · trivial
      · split
        · exact keepsFields_collapse ..
        · trivial

theorem keeps_settleOne (s : Store) (id : NodeId) (a : Attributes) (g : Group) (child : NodeId) :
    s.StepKeepsFields (s.settleOne id a g child) := by
  rw [settleOne]
  split
  · split
    · trivial
    · exact keepsFields_absorb ..
  · exact keeps_settleLeaf ..
  · trivial

theorem keeps_settleStep (s : Store) (id : NodeId) : s.StepKeepsFields (s.settleStep id) := by
  rw [settleStep]
  split
  · split
    · split
      · trivial
      · exact .removeSelf ..
    · exact .setSlot ..
    · exact keeps_settleOne ..
    · trivial
  · trivial

theorem keepsFields_settleTo (s : Store) (steps : Nat) (id : NodeId) :
    KeepsFields s (s.settleTo steps id).2 := by
  induction steps generalizing s with
  | zero => exact .refl s
  | succ steps ih =>
      have hstep := keeps_settleStep s id
      rw [settleTo]
      split
      · exact .refl s
      · next s' heq =>
          rw [heq] at hstep
          exact hstep.trans (ih s')
      · next heq =>
          rw [heq] at hstep
          exact hstep

theorem keepsFields_cleanup (s : Store) (id : NodeId) :
    KeepsFields s (Rewriter.cleanup.visit id s).2 :=
  Rewriter.keeps_visitTo .refl (fun h h' => h.trans h') (fun _ s => .refl s)
    (fun _ s => keepsFields_settleTo s _ _) _ id s

/-! ## Complements -/

theorem keepsFields_negateTo (s : Store) (depth : Nat) (id : NodeId) :
    KeepsFields s (s.negateTo depth id).2 := by
  induction depth generalizing s id with
  | zero => exact .refl s
  | succ depth ih =>
      have hmark (negation : Negation) (s : Store) :
          KeepsFields s (s.modifyAttrs id ({ · with negation := negation })) :=
        .modifyAttrs (f := ({ · with negation := negation })) (fun _ => rfl) ..
      rw [negateTo]
      dsimp only
      split
      · exact hmark ..
      · split
        · exact .modifyAttrs (f := ({ · with sign := none })) (fun _ => rfl) ..
        · split
          · exact ((KeepsFields.addGroup ..).trans (.wrap ..)).trans (hmark ..)
          · split
            · exact (KeepsFields.modifyForm ..).trans (hmark ..)
            · split
              · exact .refl s
              · exact ih ..
              · exact ih ..
              · exact ((((KeepsFields.modifyForm ..).trans (.addGroup ..)).trans (.setSlot ..)).trans
                  (.setSlot ..)).trans (.setSlot ..)
          · exact .refl s

theorem keepsFields_implantCriteria (s : Store) (root : Tree) :
    KeepsFields s (s.implantCriteria root).2 := by
  rw [implantCriteria]
  split
  · exact .copy ..
  · dsimp only [implant]
    cases root.id?.map fun _ => s.next with
    | none => exact .copy ..
    | some top => exact (KeepsFields.copy ..).trans (.modifyForm ..)

theorem keepsFields_invertNode (s : Store) (alternate : Option Tree) (id : NodeId) :
    KeepsFields s (s.invertNode alternate id).2 := by
  have hnegate := keepsFields_negateTo s s.next id
  rw [invertNode]
  cases alternate with
  | none => exact hnegate
  | some root =>
      exact ((((hnegate.trans (keepsFields_implantCriteria ..)).trans (.addGroup ..)).trans
        (.replaceSelf ..)).trans (.setSlot ..)).trans (.setSlot ..)

theorem keepsFields_invertTo (kept : List String) (alternate : Option Tree) (depth : Nat)
    (inherited : Option String) (id : NodeId) (s : Store) :
    KeepsFields s (invertTo kept alternate depth inherited id s).2 := by
  induction depth generalizing inherited id s with
  | zero => exact .refl s
  | succ depth ih =>
      rw [invertTo]
      split
      · exact .refl s
      · exact keepsFields_invertNode ..
      · refine foldl_keeps (p := fun s' => KeepsFields s s') (fun s' clause _ h => h.trans ?_) (.refl s)
        split
        · exact ih ..
        · split
          · exact .refl s'
          · exact keepsFields_invertNode ..

theorem keepsFields_invert (s : Store) (kept : List String) (alternate : Option Tree)
    (id : NodeId) : KeepsFields s (s.invert kept alternate id).2 :=
  keepsFields_invertTo ..

/-! ## Removal -/

theorem annotations_drop (s : Store) (id : NodeId) :
    (s.drop id).2.annotations = s.annotations := by
  have hremove : (s.removeSelf id).annotations = s.annotations :=
    (SameLabels.removeSelf ..).annotations_eq
  rw [drop]
  split
  · exact hremove
  · exact ((SameLabels.setSlot ..).annotations_eq.trans (SameLabels.setSlot ..).annotations_eq).trans
      hremove

theorem annotations_removal (unwanted : String → Bool) (s : Store) (id : NodeId) :
    ((Rewriter.removal unwanted).visit id s).2.annotations = s.annotations := by
  refine Rewriter.keeps_visitTo (r := Rewriter.removal unwanted)
    (R := fun s s' => s'.annotations = s.annotations) (fun _ => rfl)
    (fun h h' => h'.trans h) (fun id s => ?_) (fun _ _ => rfl) _ id s
  rw [Rewriter.removal]
  dsimp only
  split
  · exact annotations_drop s id
  · rfl

end Store

end SearchQuery
