import SearchQuery.Proofs.Fragments.Calls
import SearchQuery.Proofs.Pass.Runs
import SearchQuery.Proofs.Query.Subtrees
import SearchQuery.Proofs.Validation.Tables

/-!
# The operations that are assigned

Assigning operations looks at all nodes of a tree but those that a group takes for its field,
`Tree.untaken`. What is recorded is what each of these nodes has to say, `operationEvents_eq`, and
they are the nodes that are left, `subtrees_assignOperations`. So afterwards an operation is noted on
a node exactly if the node is left and asks for it, `get?_operationType_iff`.
-/

namespace SearchQuery

namespace Tree

variable {t u : Tree} {id : NodeId} {operation : String}

/-- The operation that a node asks for: the one that its field names, or, for a term without a field,
the one that is its text. -/
def asked? : Tree → Option String
  | leaf _ a (.term t) =>
      if a.fieldName?.isSome then operation? a else some t.unescaped |>.filter (· ≠ "")
  | group _ a _ _ _ => operation? a
  | _ => none

def takesFirst (a : Attributes) (first : Tree) : Bool :=
  (operation? a).isSome && first.operand?.isSome

/-- The tree `u` is the first clause of a group of `t`, which takes it for the field of its
operation. -/
def IsTaken (t u : Tree) : Prop :=
  ∃ id a g r, group id a g u r ∈ t.subtrees ∧ takesFirst a u

/-- The trees at all nodes that no group takes for its field, each before those inside it. -/
def untaken : Tree → List Tree
  | nil => []
  | leaf id a l => [leaf id a l]
  | group id a g l r =>
      group id a g l r :: ((if takesFirst a l then [] else l.untaken) ++ r.untaken)

/-- What is to be recorded about a node itself. -/
def ownEvents : Tree → List OperationEvent
  | leaf id a (.term t) => operationTermEvents id a t
  | group id a _ l _ =>
      match operation? a, l.operand? with
      | some operation, some _ => [.assigned id operation]
      | some operation, none => [.fieldMissing (some operation), .assigned id operation]
      | none, _ => []
  | _ => []

theorem eq_leaf_of_operand? {field : String} (h : t.operand? = some field) :
    ∃ id a term, t = leaf id a (.term term) := by
  cases t with
  | leaf id a l =>
      cases l with
      | term term => exact ⟨id, a, term, rfl⟩
      | _ => cases h
  | _ => cases h

/-- What is recorded about a tree is what its nodes have to say, but for those that are taken. -/
theorem operationEvents_eq (t : Tree) : t.operationEvents = t.untaken.flatMap ownEvents := by
  induction t with
  | nil => rfl
  | leaf id a l => cases l <;> simp [operationEvents, untaken, ownEvents]
  | group id a g l r ihl ihr =>
      rw [operationEvents, untaken, List.flatMap_cons, List.flatMap_append, ownEvents, takesFirst,
        ← ihr]
      cases operation? a <;> cases l.operand? <;> simp [ihl]

theorem subtrees_assignOperations (t : Tree) :
    t.assignOperations.subtrees = t.untaken.map assignOperations := by
  induction t with
  | nil => rfl
  | leaf id a l => cases l <;> rfl
  | group id a g l r ihl ihr =>
      rw [untaken, List.map_cons, List.map_append, assignOperations, takesFirst, ← ihr]
      cases operation? a <;> cases l.operand? <;> simp [ihl, subtrees]

theorem mem_subtrees_of_mem_untaken (h : u ∈ t.untaken) : u ∈ t.subtrees := by
  induction t with
  | nil => cases h
  | leaf => exact h
  | group id a g l r ihl ihr =>
      rw [untaken, List.mem_cons, List.mem_append] at h
      rw [mem_subtrees_group]
      rcases h with rfl | h | h
      · exact .inl rfl
      · split at h
        · cases h
        · exact .inr (.inl (ihl h))
      · exact .inr (.inr (ihr h))

theorem mem_untaken_of_not_isTaken (h : u ∈ t.subtrees) (hfree : ¬ t.IsTaken u) :
    u ∈ t.untaken := by
  induction t with
  | nil => cases h
  | leaf => exact h
  | group id a g l r ihl ihr =>
      rw [untaken, List.mem_cons, List.mem_append]
      rcases mem_subtrees_group.1 h with rfl | h | h
      · exact .inl rfl
      · have hl : ¬ l.IsTaken u := fun ⟨i, b, f, rest, hmem, htakes⟩ =>
          hfree ⟨i, b, f, rest, mem_subtrees_of_left hmem, htakes⟩
        refine .inr (.inl ?_)
        split
        · next htakes =>
            -- what is taken is a term, so nothing is inside it
            obtain ⟨field, hfield⟩ := Option.isSome_iff_exists.1 (Bool.and_eq_true_iff.1 htakes).2
            obtain ⟨i, b, term, rfl⟩ := eq_leaf_of_operand? hfield
            obtain rfl := List.mem_singleton.1 h
            exact absurd ⟨id, a, g, r, List.mem_cons_self, htakes⟩ hfree
        · exact ihl h hl
      · have hr : ¬ r.IsTaken u := fun ⟨i, b, f, rest, hmem, htakes⟩ =>
          hfree ⟨i, b, f, rest, mem_subtrees_of_right hmem, htakes⟩
        exact .inr (.inr (ihr h hr))

/-- A node that is looked at is not taken, as no number occurs twice. -/
theorem not_isTaken_of_mem_untaken (hnodup : t.ids.Nodup) (h : u ∈ t.untaken) :
    ¬ t.IsTaken u := by
  rintro ⟨i, b, f, rest, hmem, htakes⟩
  obtain ⟨field, hfield⟩ := Option.isSome_iff_exists.1 (Bool.and_eq_true_iff.1 htakes).2
  obtain ⟨j, c, term, rfl⟩ := eq_leaf_of_operand? hfield
  induction t with
  | nil => cases h
  | leaf => cases List.mem_singleton.1 hmem
  | group id a g l r ihl ihr =>
      rw [ids, List.nodup_cons, List.nodup_append] at hnodup
      obtain ⟨-, hndl, hndr, hdisjoint⟩ := hnodup
      have hbelow : ∀ {v : Tree}, group i b f (leaf j c (.term term)) rest ∈ v.subtrees → j ∈ v.ids :=
        fun hv => mem_ids_of_mem_subtrees (mem_subtrees_trans
          (mem_subtrees_of_left List.mem_cons_self) hv) rfl
      have hid : ∀ {v : Tree}, leaf j c (.term term) ∈ v.untaken → j ∈ v.ids :=
        fun hv => mem_ids_of_mem_subtrees (mem_subtrees_of_mem_untaken hv) rfl
      rw [untaken, List.mem_cons, List.mem_append] at h
      rcases mem_subtrees_group.1 hmem with heq | hmem | hmem
      · cases heq
        rw [if_pos htakes] at h
        rcases h with heq | h | h
        · cases heq
        · cases h
        · exact hdisjoint j List.mem_cons_self j (hid h) rfl
      · rcases h with heq | h | h
        · cases heq
        · split at h
          · cases h
          · exact ihl hndl h hmem
        · exact hdisjoint j (hbelow hmem) j (hid h) rfl
      · rcases h with heq | h | h
        · cases heq
        · split at h
          · cases h
          · exact hdisjoint j (hid h) j (hbelow hmem) rfl
        · exact ihr hndr h hmem

theorem mem_untaken_iff (hnodup : t.ids.Nodup) :
    u ∈ t.untaken ↔ u ∈ t.subtrees ∧ ¬ t.IsTaken u :=
  ⟨fun h => ⟨mem_subtrees_of_mem_untaken h, not_isTaken_of_mem_untaken hnodup h⟩,
    fun h => mem_untaken_of_not_isTaken h.1 h.2⟩

/-- All that can be recorded about a node: that it asks for an operation, with or without a field, or
that it names nothing at all. -/
theorem ownEvents_cases (u : Tree) :
    (u.asked? = none ∧ (u.ownEvents = [] ∨ u.ownEvents = [.fieldMissing none])) ∨
      ∃ id operation, u.id? = some id ∧ u.asked? = some operation ∧
        (u.ownEvents = [.assigned id operation] ∨
          u.ownEvents = [.fieldMissing (some operation), .assigned id operation]) := by
  cases u with
  | nil => exact .inl ⟨rfl, .inl rfl⟩
  | leaf id a l =>
      cases l with
      | term term =>
          rw [asked?, operation?, ownEvents, operationTermEvents]
          cases a.fieldName? with
          | none =>
              by_cases hempty : term.unescaped = ""
              · exact .inl ⟨by simp [hempty], .inr (if_pos hempty)⟩
              · exact .inr ⟨id, term.unescaped, rfl, by simp [hempty], .inl (if_neg hempty)⟩
          | some field =>
              cases hreserved : isReserved field with
              | true => exact .inl ⟨by simp [hreserved], .inl (if_pos hreserved)⟩
              | false =>
                  refine .inr ⟨id, field, rfl, by simp [hreserved], ?_⟩
                  by_cases hempty : term.unescaped = ""
                  · exact .inr (by simp [hreserved, hempty])
                  · exact .inl (by simp [hreserved, hempty])
      | _ => exact .inl ⟨rfl, .inl rfl⟩
  | group id a g l r =>
      rw [asked?, ownEvents]
      cases operation? a with
      | none => exact .inl ⟨rfl, .inl rfl⟩
      | some operation =>
          refine .inr ⟨id, operation, rfl, rfl, ?_⟩
          cases l.operand? with
          | none => exact .inr rfl
          | some field => exact .inl rfl

theorem assigned_mem_ownEvents_iff :
    .assigned id operation ∈ u.ownEvents ↔ u.id? = some id ∧ u.asked? = some operation := by
  obtain ⟨hasked, h | h⟩ | ⟨i, asked, hid, hasked, h | h⟩ := ownEvents_cases u
  · simp [h, hasked]
  · simp [h, hasked]
  · simp [h, hid, hasked, eq_comm]
  · simp [h, hid, hasked, eq_comm]

theorem asked?_of_fieldMissing_mem (h : .fieldMissing (some operation) ∈ u.ownEvents) :
    u.asked? = some operation := by
  obtain ⟨-, hevents | hevents⟩ | ⟨_, asked, -, hasked, hevents | hevents⟩ := ownEvents_cases u
  · simp [hevents] at h
  · simp [hevents] at h
  · simp [hevents] at h
  · simp_all

theorem assigned_mem_operationEvents_iff (hnodup : t.ids.Nodup) :
    .assigned id operation ∈ t.operationEvents ↔
      ∃ u ∈ t.subtrees, ¬ t.IsTaken u ∧ u.id? = some id ∧ u.asked? = some operation := by
  simp only [operationEvents_eq, List.mem_flatMap, mem_untaken_iff hnodup,
    assigned_mem_ownEvents_iff, and_assoc]

theorem exists_asked_of_fieldMissing (hnodup : t.ids.Nodup)
    (h : .fieldMissing (some operation) ∈ t.operationEvents) :
    ∃ u ∈ t.subtrees, ¬ t.IsTaken u ∧ u.asked? = some operation := by
  rw [operationEvents_eq, List.mem_flatMap] at h
  obtain ⟨u, hu, hmissing⟩ := h
  obtain ⟨hmem, hfree⟩ := (mem_untaken_iff hnodup).1 hu
  exact ⟨u, hmem, hfree, asked?_of_fieldMissing_mem hmissing⟩

theorem eq_of_assigned_mem (hnodup : t.ids.Nodup) {operation' : String}
    (h : .assigned id operation ∈ t.operationEvents)
    (h' : .assigned id operation' ∈ t.operationEvents) : operation = operation' := by
  obtain ⟨u, hu, -, hid, hasked⟩ := (assigned_mem_operationEvents_iff hnodup).1 h
  obtain ⟨v, hv, -, hid', hasked'⟩ := (assigned_mem_operationEvents_iff hnodup).1 h'
  obtain rfl := (find_eq_of_mem_subtrees hnodup hu hid).symm.trans
    (find_eq_of_mem_subtrees hnodup hv hid')
  exact Option.some.inj (hasked.symm.trans hasked')

end Tree

section Notes

variable {t : Tree} {id : NodeId} {operation : String} {notes : Annotations}
  {events : List OperationEvent}

theorem OperationEvent.get?_note_assigned (notes : Annotations) (i id : NodeId) (operation : String) :
    (note notes (.assigned i operation)).get? .operationType id =
      if i = id then some operation else notes.get? .operationType id := by
  split
  · next heq => exact heq ▸ Annotations.get?_set_same ..
  · next hne => exact Annotations.get?_set_of_ne (fun heq => hne heq.2.symm) ..

theorem OperationEvent.assigned_mem_of_get?
    (h : (events.foldl note notes).get? .operationType id = some operation) :
    notes.get? .operationType id = some operation ∨ .assigned id operation ∈ events := by
  refine foldl_keeps (p := fun notes' : Annotations => ∀ operation,
    notes'.get? .operationType id = some operation →
      notes.get? .operationType id = some operation ∨ .assigned id operation ∈ events)
    (fun notes' event hevent ih operation h => ?_) (fun _ => .inl) operation h
  cases event with
  | fieldMissing => exact ih operation h
  | assigned i assigned =>
      rw [get?_note_assigned] at h
      split at h
      · next heq => exact .inr (heq ▸ Option.some.inj h ▸ hevent)
      · exact ih operation h

theorem OperationEvent.exists_get?_of_assigned_mem (h : .assigned id operation ∈ events) :
    ∃ noted, (events.foldl note notes).get? .operationType id = some noted := by
  have hstep (notes : Annotations) (event : OperationEvent) :
      ((note notes event).get? .operationType id).isSome ↔
        (notes.get? .operationType id).isSome ∨ ∃ operation, event = .assigned id operation := by
    cases event with
    | fieldMissing => simp [note]
    | assigned i assigned =>
        rw [get?_note_assigned]
        by_cases heq : i = id <;> simp [heq]
  rw [← Option.isSome_iff_exists]
  exact (foldl_iff (p := fun notes : Annotations => (notes.get? .operationType id).isSome) hstep
    events notes).2 (.inr ⟨_, h, operation, rfl⟩)

/-- An operation is noted on a node exactly if it has been assigned to it. -/
theorem Tree.get?_operationType_iff (hnodup : t.ids.Nodup) :
    (t.operationEvents.foldl OperationEvent.note .empty).get? .operationType id = some operation ↔
      ∃ u ∈ t.subtrees, ¬ t.IsTaken u ∧ u.id? = some id ∧ u.asked? = some operation := by
  rw [← assigned_mem_operationEvents_iff hnodup]
  constructor
  · exact fun h => (OperationEvent.assigned_mem_of_get? h).resolve_left (by rintro ⟨⟩)
  · intro h
    obtain ⟨noted, hnoted⟩ : ∃ noted, (t.operationEvents.foldl OperationEvent.note
        .empty).get? .operationType id = some noted := OperationEvent.exists_get?_of_assigned_mem h
    have hassigned := (OperationEvent.assigned_mem_of_get? hnoted).resolve_left (by rintro ⟨⟩)
    rwa [eq_of_assigned_mem hnodup h hassigned]

end Notes

end SearchQuery
