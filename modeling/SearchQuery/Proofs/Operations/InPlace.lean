import SearchQuery.Pass
import SearchQuery.Proofs.Store.Query
import SearchQuery.Proofs.Store.Rewriting

/-!
# Taking operations out of fields in a store

At each node the walk takes the operation out of the field, takes out the clause that names the field of
a group, and records what there is to record. From any node of a query on this comes to what
`Tree.assignOperations` makes of the tree there, with what `Tree.operationEvents` lists recorded in that
order, `assigns_operations`.
-/

namespace SearchQuery

open Store

namespace Tree

theorem id?_assignOperations (t : Tree) : t.assignOperations.id? = t.id? := by
  cases t with
  | nil => rfl
  | leaf id a l => cases l <;> rfl
  | group id a g l r =>
      rw [assignOperations]
      split <;> rfl

end Tree

namespace Session

variable {s : Session} {id c : NodeId} {a : Attributes} {g : Group} {l r t : Tree} {f : Leaf}

theorem foldl_observe (events : List OperationEvent) (s : Session) :
    events.foldl observe s =
      { store := { s.store with
          annotations := events.foldl OperationEvent.note s.store.annotations }
        context := { s.context with
          validation := events.foldl OperationEvent.record s.context.validation } } := by
  induction events generalizing s with
  | nil => rfl
  | cons e events ih => rw [List.foldl_cons, ih]; rfl

theorem puts_takeOperand (h : Puts s.store s.store id (.group id a g l r)) (hc : l.id? = some c)
    (field : String) : Puts s.store (s.takeOperand id c field).store id
      (.group id (Tree.takeOperand a l.attrs field) g .nil r) := by
  have hattrs : s.store.attrs c = l.attrs := by
    rw [← h.after.attrs_view (h.mem_left hc), h.view_left hc]
  rw [takeOperand, hattrs]
  exact ((h.modifyAttrs_left hc ({ · with boost := none, proximity := none })).modifyAttrs rfl
    (Tree.takeOperand · l.attrs field)).clear_left

theorem annotations_takeOperand (s : Session) (id c : NodeId) (field : String) :
    (s.takeOperand id c field).store.annotations = s.store.annotations :=
  (SameLabels.setSlot ..).annotations_eq

/-- The clause in the store names what the clause in the tree names. -/
theorem operand?_eq (h : Puts s.store s.store id (.group id a g l r)) :
    s.operand? l.id? = l.operand?.bind fun field => l.id?.map fun c => (c, field) := by
  cases l with
  | nil => rfl
  | leaf c b f =>
      have hnode := h.after.node?_of_leaf (h.mem_left rfl) (h.view_left rfl)
      cases f with
      | term t =>
          by_cases hempty : t.unescaped = "" <;>
            simp [operand?, Tree.id?, Tree.operand?, hnode, hempty, Option.filter]
      | _ => simp [operand?, Tree.id?, Tree.operand?, hnode]
  | group c b f l r =>
      have hnode := h.after.node?_of_group (h.mem_left rfl) (h.view_left rfl)
      simp [operand?, Tree.id?, Tree.operand?, hnode]

/-- What is done and recorded at a node. -/
structure Enters (s : Session) (id : NodeId) (t : Tree) (events : List OperationEvent)
    (s' : Session) : Prop where
  puts : Puts s.store s'.store id t
  annotations_eq : s'.store.annotations = events.foldl OperationEvent.note s.store.annotations
  context_eq : s'.context = { s.context with
    validation := events.foldl OperationEvent.record s.context.validation }

theorem enters_foldl (s' : Session) (h : Puts s.store s'.store id t)
    (hnotes : s'.store.annotations = s.store.annotations) (hcontext : s'.context = s.context)
    (events : List OperationEvent) : Enters s id t events (events.foldl observe s') := by
  rw [foldl_observe]
  refine ⟨h.of_nodes_eq rfl rfl, ?_, ?_⟩
  · rw [hnotes]
  · rw [hcontext]

theorem Enters.trans {s' s'' : Session} {u : Tree} {before after : List OperationEvent}
    (h : Enters s id t before s') (hputs : Puts s.store s''.store id u)
    (hnotes : s''.store.annotations = after.foldl OperationEvent.note s'.store.annotations)
    (hcontext : s''.context = { s'.context with
      validation := after.foldl OperationEvent.record s'.context.validation }) :
    Enters s id u (before ++ after) s'' := by
  refine ⟨hputs, ?_, ?_⟩
  · rw [hnotes, h.annotations_eq, List.foldl_append]
  · rw [hcontext, h.context_eq, List.foldl_append]

theorem enters_leaf (h : Puts s.store s.store id (.leaf id a f)) :
    Enters s id (Tree.leaf id a f).assignOperations (Tree.leaf id a f).operationEvents
      (s.assignOperation id) := by
  have hnode := h.after.node?_of_leaf (h.mem_top rfl) (h.view_top rfl)
  cases f with
  | term t =>
      have hassign : s.assignOperation id = (Tree.operationTermEvents id a t).foldl observe
          { s with store := s.store.modifyAttrs id fun a => Tree.operationTermAttrs a t } := by
        simp only [assignOperation, hnode]
      have hputs := h.modifyAttrs rfl fun a => Tree.operationTermAttrs a t
      rw [hassign]
      exact enters_foldl
        { s with store := s.store.modifyAttrs id fun a => Tree.operationTermAttrs a t } hputs rfl rfl _
  | _ =>
      have hassign : s.assignOperation id = s := by simp only [assignOperation, hnode]
      rw [hassign]
      exact enters_foldl s h rfl rfl []

theorem enters_group (h : Puts s.store s.store id (.group id a g l r)) :
    match Tree.operation? a, l.operand? with
    | some operation, some field => Enters s id (.group id (Tree.takeOperand a l.attrs field) g .nil r)
        [.assigned id operation] (s.assignOperation id)
    | some operation, none => Enters s id (.group id a g l r)
        [.fieldMissing (some operation), .assigned id operation] (s.assignOperation id)
    | none, _ => Enters s id (.group id a g l r) [] (s.assignOperation id) := by
  have hnode := h.node?_top
  have hoperand := operand?_eq h
  cases hoperation : Tree.operation? a with
  | none =>
      have hassign : s.assignOperation id = s := by simp only [assignOperation, hnode, hoperation]
      rw [hassign]
      exact enters_foldl s h rfl rfl []
  | some operation =>
      cases hfield : l.operand? with
      | none =>
          rw [hfield] at hoperand
          have hassign : s.assignOperation id =
              [OperationEvent.fieldMissing (some operation), .assigned id operation].foldl observe s := by
            simp only [assignOperation, hnode, hoperation, hoperand]
            rfl
          rw [hassign]
          exact enters_foldl s h rfl rfl _
      | some field =>
          obtain ⟨c, hc⟩ : ∃ c, l.id? = some c := by
            cases l with
            | nil => cases hfield
            | leaf c => exact ⟨c, rfl⟩
            | group c => exact ⟨c, rfl⟩
          rw [hfield, hc] at hoperand
          have hassign : s.assignOperation id =
              [OperationEvent.assigned id operation].foldl observe (s.takeOperand id c field) := by
            simp only [assignOperation, hnode, hoperation, hc, hoperand]
            rfl
          rw [hassign]
          exact enters_foldl _ (puts_takeOperand h hc field) (annotations_takeOperand ..) rfl _

end Session

namespace Rewriter

open Session

variable {s : Session} {id : NodeId} {t : Tree}

def Assigns (id : NodeId) (t : Tree) (s : Session) (out : NodeId × Session) : Prop :=
  Enters s id t.assignOperations t.operationEvents out.2 ∧ out.1 = id

theorem notes_of_visited {s' : Session} (h : Visited Assigns t s s') :
    s'.store.annotations = t.operationEvents.foldl OperationEvent.note s.store.annotations ∧
      s'.context = { s.context with
        validation := t.operationEvents.foldl OperationEvent.record s.context.validation } := by
  rcases h with ⟨rfl, rfl⟩ | ⟨c, top, -, henters, -⟩
  · exact ⟨rfl, rfl⟩
  · exact ⟨henters.annotations_eq, henters.context_eq⟩

theorem tells_operations (hs : s.store.Rooted) (hid : id ∈ s.store.tree.ids)
    (hview : s.store.view id = t) : Rewriter.operations.Tells Assigns id t s := by
  have hself := Puts.of_view hs hid hview
  have htop : t.id? = some id := hview ▸ hs.id?_view hid
  have henter : Rewriter.operations.enter id s = (none, s.assignOperation id) := rfl
  cases t with
  | nil => cases htop
  | leaf x a f =>
      cases htop
      have henters := enters_leaf hself
      cases f <;> exact .leaf henter henters.puts ⟨henters, rfl⟩
  | group x a g l r =>
      cases htop
      have henters := enters_group hself
      have hlength : l.ids.length + r.ids.length < (Tree.group id a g l r).ids.length := by
        rw [Tree.ids, List.length_cons, List.length_append]
        exact Nat.lt_succ_self _
      -- what is in the slots by then is visited, and recorded after the group
      have hslots : ∀ {b : Attributes} {l : Tree} {events : List OperationEvent} {s₁ s₂ : Session},
          Enters s id (.group id b g l r) events (s.assignOperation id) →
          Visited Assigns l (s.assignOperation id) s₁ → Visited Assigns r s₁ s₂ →
          Enters s id (.group id b g l.assignOperations r.assignOperations)
            (events ++ (l.operationEvents ++ r.operationEvents)) s₂ := by
        intro b l events s₁ s₂ henters hleft hright
        have h₁ := hleft.left Rewriter.operations.store henters.puts (fun hnil => by rw [hnil]; rfl)
          fun c out _ h => h.1.puts
        have h₂ := hright.right Rewriter.operations.store h₁ (fun hnil => by rw [hnil]; rfl)
          fun c out _ h => h.1.puts
        obtain ⟨hleftNotes, hleftUnresolved⟩ := notes_of_visited hleft
        obtain ⟨hrightNotes, hrightUnresolved⟩ := notes_of_visited hright
        rw [← List.append_assoc]
        exact (henters.trans h₁ hleftNotes hleftUnresolved).trans h₂ hrightNotes hrightUnresolved
      cases hoperation : Tree.operation? a with
      | none =>
          rw [hoperation] at henters
          refine .group henter henters.puts hlength fun s₁ s₂ hleft hright => ⟨?_, rfl⟩
          rw [Tree.assignOperations, Tree.operationEvents, hoperation]
          exact hslots henters hleft hright
      | some operation =>
          rw [hoperation] at henters
          cases hoperand : l.operand? with
          | none =>
              rw [hoperand] at henters
              refine .group henter henters.puts hlength fun s₁ s₂ hleft hright => ⟨?_, rfl⟩
              rw [Tree.assignOperations, Tree.operationEvents, hoperation, hoperand]
              exact hslots henters hleft hright
          | some field =>
              rw [hoperand] at henters
              refine .group henter henters.puts (Nat.lt_of_le_of_lt ?_ hlength)
                fun s₁ s₂ hleft hright => ⟨?_, rfl⟩
              · exact Nat.add_le_add_right (Nat.zero_le _) _
              · rw [Tree.assignOperations, Tree.operationEvents, hoperation, hoperand]
                exact hslots henters hleft hright

theorem assigns_operations (hs : s.store.Rooted) (hid : id ∈ s.store.tree.ids) :
    Assigns id (s.store.view id) s (Rewriter.operations.visit id s) :=
  visit_of_tells (fun h => ⟨_, h.1.puts⟩) (fun hs hid hview => tells_operations hs hid hview) hs hid

end Rewriter

/-- Started at the root, assigning operations leaves the tree that they are taken out of, with notes
of what has been assigned. -/
theorem Pass.exists_run_operations {s : Session} (h : s.store.IsQuery) :
    ∃ s', operations.run s.store.root s = (.ok s.store.root, s') ∧
      s'.store.root = s.store.root ∧ s'.store.tree = s.store.tree.assignOperations ∧
      s'.store.annotations =
        s.store.tree.operationEvents.foldl OperationEvent.note s.store.annotations ∧
      s'.context = { s.context with
        validation :=
          s.store.tree.operationEvents.foldl OperationEvent.record s.context.validation } := by
  obtain ⟨henters, hsame⟩ := Rewriter.assigns_operations h.rooted h.root_mem
  have hroot := henters.puts.id?_eq_root
  rw [Tree.id?_assignOperations, h.id?_view h.root_mem] at hroot
  exact ⟨_, congrArg (fun top => (Except.ok top, _)) hsame, (Option.some.inj hroot).symm,
    henters.puts.tree_eq_of_root, henters.annotations_eq, henters.context_eq⟩

end SearchQuery
