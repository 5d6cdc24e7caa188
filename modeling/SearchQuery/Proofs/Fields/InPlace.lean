import SearchQuery.Pass.Fields
import SearchQuery.Proofs.Store.Query
import SearchQuery.Proofs.Store.Rewriting

/-!
# Resolving fields in a store

The walk that resolves fields leaves all links alone. So it comes by the nodes that are below the one
it starts at in the order of the tree there, `Rewriter.visit_fields`, and where no node comes twice what
becomes of each is told by the surroundings that there are when its turn comes, `Session.fieldOutcome`.
-/

namespace SearchQuery

namespace Store

variable {s s' : Store} {id : NodeId} {depth : Nat}

theorem ids_viewTo_succ (s : Store) (depth : Nat) (id : NodeId) :
    (s.viewTo (depth + 1) id).ids =
      if id < s.next then
        id :: ((s.left? id).elim [] (fun c => (s.viewTo depth c).ids) ++
          (s.right? id).elim [] fun c => (s.viewTo depth c).ids)
      else [] := by
  rw [viewTo, left?, right?]
  cases hn : s.node? id with
  | none => exact (if_neg (Nat.not_lt.2 (Array.getElem?_eq_none_iff.1 hn))).symm
  | some n =>
      refine Eq.trans ?_ (if_pos (lt_size_of_node? hn)).symm
      obtain ⟨a, content, p⟩ := n
      cases content with
      | leaf f => rfl
      | group g l r => cases l <;> cases r <;> rfl

theorem ids_viewTo_congr (hslot : ∀ side x, s'.slot? side x = s.slot? side x)
    (hnext : s'.next = s.next) (depth : Nat) (id : NodeId) :
    (s'.viewTo depth id).ids = (s.viewTo depth id).ids := by
  have hleft (x : NodeId) : s'.left? x = s.left? x := hslot .left x
  have hright (x : NodeId) : s'.right? x = s.right? x := hslot .right x
  induction depth generalizing id with
  | zero => rfl
  | succ depth ih => simp only [ids_viewTo_succ, hleft, hright, hnext, ih]

end Store

namespace Session

variable {resolvers : List FieldResolver} {s : Session} {ids : List NodeId} {id x : NodeId}

def resolveFields (resolvers : List FieldResolver) (ids : List NodeId) (s : Session) : Session :=
  ids.foldl (fun s id => s.resolveField resolvers id) s

/-- The name that is found for a field when the turn of a node comes, in the surroundings that the
nodes before it leave. -/
def resolution? (resolvers : List FieldResolver) (ids : List NodeId) (s : Session) (id : NodeId) :
    String → Option String :=
  let before := s.resolveFields resolvers (ids.takeWhile (· ≠ id))
  firstResolution resolvers before.context.toSurroundings

def fieldOutcome (resolvers : List FieldResolver) (ids : List NodeId) (s : Session) (id : NodeId) :
    FieldOutcome :=
  .of (s.resolution? resolvers ids id) (s.store.attrs id)

theorem resolveFields_cons (id : NodeId) (rest : List NodeId) (s : Session) :
    s.resolveFields resolvers (id :: rest) =
      (s.resolveField resolvers id).resolveFields resolvers rest :=
  rfl

theorem resolveFields_append (before after : List NodeId) (s : Session) :
    s.resolveFields resolvers (before ++ after) =
      (s.resolveFields resolvers before).resolveFields resolvers after :=
  List.foldl_append

theorem relabels_resolveField (resolvers : List FieldResolver) (id : NodeId) (s : Session) :
    Store.Relabels s.store (s.resolveField resolvers id).store id :=
  have h := Store.Relabels.modifyAttrs s.store id
    fun _ => (s.fieldOutcome resolvers [] id).apply (s.store.attrs id)
  ⟨h.parent?_eq, h.slot?_eq, h.label?_eq, h.next_eq, h.root_eq⟩

theorem attrs_resolveField_self (resolvers : List FieldResolver) (id : NodeId) (s : Session) :
    (s.resolveField resolvers id).store.attrs id =
      (s.fieldOutcome resolvers [] id).apply (s.store.attrs id) := by
  have hnode : (s.resolveField resolvers id).store.node? id = (s.store.node? id).map fun n =>
      { n with attrs := (s.fieldOutcome resolvers [] id).apply (s.store.attrs id) } :=
    (Store.node?_modify ..).trans (if_pos rfl)
  rw [Store.attrs, hnode]
  cases hn : s.store.node? id with
  | some n => rfl
  | none =>
      have hattrs : s.store.attrs id = .plain := by rw [Store.attrs, hn]; rfl
      rw [fieldOutcome, hattrs]
      rfl

theorem resolveField_of_le (h : s.store.next ≤ id) : s.resolveField resolvers id = s := by
  have hnode : s.store.node? id = none := Array.getElem?_eq_none_iff.2 h
  have hattrs : s.store.attrs id = .plain := by rw [Store.attrs, hnode]; rfl
  have hstore : s.store.modifyAttrs id (fun _ => .plain) = s.store := by
    refine Store.ext_node? (fun x => ?_) rfl rfl
    rw [Store.modifyAttrs, Store.node?_modify]
    split
    · next heq => rw [← heq, hnode]; rfl
    · rfl
  have hresolved : s.resolveField resolvers id =
      { s with store := s.store.modifyAttrs id fun _ => .plain } := by
    rw [resolveField, hattrs]
    rfl
  rw [hresolved, hstore]

theorem attrs_resolveField_of_ne (resolvers : List FieldResolver) (s : Session) (h : x ≠ id) :
    (s.resolveField resolvers id).store.attrs x = s.store.attrs x := by
  have hnode : (s.resolveField resolvers id).store.node? x = s.store.node? x :=
    (Store.node?_modify ..).trans (if_neg (Ne.symm h))
  rw [Store.attrs, hnode, Store.attrs]

theorem slot?_resolveFields (resolvers : List FieldResolver) (ids : List NodeId) (s : Session)
    (side : Tree.Side) (x : NodeId) :
    (s.resolveFields resolvers ids).store.slot? side x = s.store.slot? side x := by
  induction ids generalizing s with
  | nil => rfl
  | cons id rest ih =>
      rw [resolveFields_cons, ih]
      exact (relabels_resolveField resolvers id s).slot?_eq side x

theorem next_resolveFields (resolvers : List FieldResolver) (ids : List NodeId) (s : Session) :
    (s.resolveFields resolvers ids).store.next = s.store.next := by
  induction ids generalizing s with
  | nil => rfl
  | cons id rest ih =>
      rw [resolveFields_cons, ih]
      exact (relabels_resolveField resolvers id s).next_eq

theorem root_resolveFields (resolvers : List FieldResolver) (ids : List NodeId) (s : Session) :
    (s.resolveFields resolvers ids).store.root = s.store.root := by
  induction ids generalizing s with
  | nil => rfl
  | cons id rest ih => exact ih _

/-- Nothing but the fields that are missed is recorded. -/
theorem context_resolveFields (resolvers : List FieldResolver) (ids : List NodeId) (s : Session) :
    (s.resolveFields resolvers ids).context = { s.context with
      validation.unresolvedFields :=
        (s.resolveFields resolvers ids).context.validation.unresolvedFields } := by
  induction ids generalizing s with
  | nil => rfl
  | cons id rest ih => exact ih (s.resolveField resolvers id)

theorem isGroup_resolveField (resolvers : List FieldResolver) (id : NodeId) (s : Session)
    (x : NodeId) : (s.resolveField resolvers id).store.isGroup x = s.store.isGroup x := by
  rw [Store.isGroup, Store.isGroup]
  refine (congrArg (Option.any _) (Store.node?_modify ..)).trans ?_
  split
  · exact Option.any_map
  · rfl

/-- New names for fields leave a query a query. -/
theorem isQuery_resolveFields (h : s.store.IsQuery) (resolvers : List FieldResolver)
    (ids : List NodeId) : (s.resolveFields resolvers ids).store.IsQuery := by
  induction ids generalizing s with
  | nil => exact h
  | cons id rest ih =>
      exact ih ⟨(relabels_resolveField resolvers id s).wellFormed h.wellFormed,
        (isGroup_resolveField resolvers id s s.store.root).trans h.isGroup_root⟩

theorem attrs_resolveFields_of_notMem (h : id ∉ ids) (s : Session) :
    (s.resolveFields resolvers ids).store.attrs id = s.store.attrs id := by
  induction ids generalizing s with
  | nil => rfl
  | cons x rest ih =>
      rw [List.mem_cons, not_or] at h
      rw [resolveFields_cons, ih h.2, attrs_resolveField_of_ne resolvers s h.1]

theorem fieldOutcome_cons_self (resolvers : List FieldResolver) (id : NodeId) (rest : List NodeId)
    (s : Session) : s.fieldOutcome resolvers (id :: rest) id = s.fieldOutcome resolvers [] id := by
  simp [fieldOutcome, resolution?]

theorem fieldOutcome_cons_of_ne (h : id ≠ x) (resolvers : List FieldResolver) (rest : List NodeId)
    (s : Session) : s.fieldOutcome resolvers (x :: rest) id =
      (s.resolveField resolvers x).fieldOutcome resolvers rest id := by
  rw [fieldOutcome, fieldOutcome, resolution?, resolution?,
    List.takeWhile_cons_of_pos (by simpa using h.symm), resolveFields_cons,
    attrs_resolveField_of_ne resolvers s h]

/-- Each node comes once, and it gets the name that is found for its field then. -/
theorem attrs_resolveFields (hnodup : ids.Nodup) (hid : id ∈ ids) (s : Session) :
    (s.resolveFields resolvers ids).store.attrs id =
      (s.fieldOutcome resolvers ids id).apply (s.store.attrs id) := by
  induction ids generalizing s with
  | nil => cases hid
  | cons x rest ih =>
      rw [List.nodup_cons] at hnodup
      rw [resolveFields_cons]
      rcases List.mem_cons.1 hid with rfl | hid
      · rw [attrs_resolveFields_of_notMem hnodup.1, attrs_resolveField_self, fieldOutcome_cons_self]
      · have hne : id ≠ x := ne_of_mem_of_not_mem hid hnodup.1
        rw [ih hnodup.2 hid, attrs_resolveField_of_ne resolvers s hne, fieldOutcome_cons_of_ne hne]

/-- What each node adds to something that resolving changes is found in the end, with what was there. -/
theorem resolveFields_iff {p : Session → Prop} {q : NodeId → FieldOutcome → Prop}
    (hstep : ∀ (s : Session) (id : NodeId),
      p (s.resolveField resolvers id) ↔ p s ∨ q id (s.fieldOutcome resolvers [] id))
    (hnodup : ids.Nodup) (s : Session) : p (s.resolveFields resolvers ids) ↔
      p s ∨ ∃ id ∈ ids, q id (s.fieldOutcome resolvers ids id) := by
  induction ids generalizing s with
  | nil => simp [resolveFields]
  | cons x rest ih =>
      rw [List.nodup_cons] at hnodup
      rw [resolveFields_cons, ih hnodup.2, hstep, or_assoc, List.exists_mem_cons_iff,
        fieldOutcome_cons_self]
      refine or_congr_right (or_congr_right (exists_congr fun id => and_congr_right fun hid => ?_))
      rw [fieldOutcome_cons_of_ne (ne_of_mem_of_not_mem hid hnodup.1)]

end Session

namespace Rewriter

open Session

variable {resolvers : List FieldResolver} {s : Session} {id : NodeId}

theorem visitTo_fields (resolvers : List FieldResolver) (depth : Nat) (id : NodeId) (s : Session) :
    (Rewriter.fields resolvers).visitTo depth id s =
      (id, s.resolveFields resolvers (s.store.viewTo depth id).ids) := by
  induction depth generalizing id s with
  | zero => rfl
  | succ depth ih =>
      -- what is in a slot comes after the nodes before it
      have hside : ∀ (side : Tree.Side) (before : List NodeId),
          let s₁ := s.resolveFields resolvers before
          (s₁.store.slot? side id).elim s₁
              (fun child => ((Rewriter.fields resolvers).visitTo depth child s₁).2) =
            s.resolveFields resolvers (before ++
              (s.store.slot? side id).elim [] fun child => (s.store.viewTo depth child).ids) := by
        intro side before s₁
        rw [slot?_resolveFields, resolveFields_append]
        cases s.store.slot? side id with
        | none => rfl
        | some child =>
            rw [Option.elim_some, ih, Option.elim_some]
            refine congrArg (fun ids => s₁.resolveFields resolvers ids) ?_
            exact Store.ids_viewTo_congr (slot?_resolveFields resolvers before s)
              (next_resolveFields resolvers before s) depth child
      have hwalk : (Rewriter.fields resolvers).visitTo (depth + 1) id s = _ :=
        visitTo_of_enter_none rfl
      have hleft := hside .left [id]
      have hright := hside .right
        ([id] ++ (s.store.slot? .left id).elim [] fun child => (s.store.viewTo depth child).ids)
      dsimp only at hleft hright
      rw [← hleft] at hright
      refine hwalk.trans (congrArg (Prod.mk id) (hright.trans ?_))
      rw [Store.ids_viewTo_succ]
      split
      · rw [List.singleton_append, List.cons_append]
        rfl
      · next hlt =>
          have hnode : s.store.node? id = none := Array.getElem?_eq_none_iff.2 (Nat.not_lt.1 hlt)
          simp only [Store.slot?, hnode, Option.bind_none, Option.elim_none, List.append_nil]
          exact resolveField_of_le (Nat.not_lt.1 hlt)

/-- The walk comes by the nodes below one in the order of the tree. -/
theorem visit_fields (resolvers : List FieldResolver) (id : NodeId) (s : Session) :
    (Rewriter.fields resolvers).visit id s =
      (id, s.resolveFields resolvers (s.store.view id).ids) :=
  visitTo_fields resolvers s.store.next id s

end Rewriter

end SearchQuery
