import SearchQuery.Proofs.Fragments.Calls
import SearchQuery.Proofs.Pass.Kept
import SearchQuery.Proofs.Pass.Runs
import SearchQuery.Proofs.Validation.Verdict

/-!
# The flags of unresolved fields

A run of the pass that resolves fields sets the flag of a node whose field it misses, and no pass
takes a flag away. So after any runs a node is flagged if it was to begin with, or if one of them has
missed the field that it had then, `Session.isFlagged_iff_of_steps`.
-/

namespace SearchQuery

namespace FieldOutcome

variable {resolve : String → Option String} {a : Attributes} {field : String}

theorem of_eq_unresolved_iff : of resolve a = .unresolved field ↔
    a.fieldName? = some field ∧ isReserved field = false ∧ resolve field = none := by
  rw [of.eq_def]
  split
  · next hname => simp [hname]
  · next name hname =>
      rw [hname, Option.some.injEq]
      split
      · next hreserved =>
          refine iff_of_false FieldOutcome.noConfusion ?_
          rintro ⟨rfl, hnot, -⟩
          exact Bool.noConfusion (hreserved.symm.trans hnot)
      · next hreserved =>
          rw [Bool.not_eq_true] at hreserved
          split
          · next hresolve =>
              refine iff_of_false FieldOutcome.noConfusion ?_
              rintro ⟨rfl, -, hnone⟩
              exact Option.some_ne_none _ (hresolve.symm.trans hnone)
          · next hresolve =>
              rw [unresolved.injEq]
              refine ⟨?_, And.left⟩
              rintro rfl
              exact ⟨rfl, hreserved, hresolve⟩

theorem of_eq_resolved {name : String} (hfield : a.fieldName? = some field)
    (hreserved : isReserved field = false) (h : resolve field = some name) :
    of resolve a = .resolved field name := by
  rw [of.eq_def, hfield]
  dsimp only
  rw [hreserved, h]
  rfl

end FieldOutcome

namespace Annotations

variable {α : Type} [IsNote α]

def flag? (notes : Annotations) (id : NodeId) : Option Bool :=
  notes.get? .fieldUnresolved id

theorem flag?_set {key : NoteKey α} (h : key.name ≠ NoteKey.fieldUnresolved.name)
    (notes : Annotations) (id : NodeId) (value : α) : (notes.set key id value).flag? = notes.flag? :=
  funext fun _ => get?_set_of_ne (fun heq => h heq.1.symm) notes value

theorem flag?_setIfAbsent {key : NoteKey α} (h : key.name ≠ NoteKey.fieldUnresolved.name)
    (notes : Annotations) (id : NodeId) (value : α) :
    (notes.setIfAbsent key id value).flag? = notes.flag? := by
  rw [setIfAbsent]
  split
  · rfl
  · exact flag?_set h notes id value

end Annotations

namespace Tree

theorem flag?_expand (e : Expansion) (chain : List String) (t : Tree) (s : Splicing) :
    (t.expand e chain s).2.notes.flag? = s.notes.flag? := by
  fun_induction expand e chain t s with
  | case2 _ _ _ _ _ _ _ _ _ hl _ _ hr ihl ihr =>
      rw [hr] at ihr
      rw [hl] at ihl
      exact ihr.trans ihl
  | case8 _ s _ _ _ name _ _ _ _ _ _ _ _ copied _ _ notes ih =>
      refine ih.trans ?_
      cases hid : copied.id? with
      | none => simp only [notes, hid, Option.elim_none]; rfl
      | some id =>
          simp only [notes, hid, Option.elim_some]
          exact Annotations.flag?_set (by decide) s.notes id name
  | _ => rfl

theorem flag?_noteAliases (r : AliasResolver) (t : Tree) (notes : Annotations) :
    (t.noteAliases r notes).flag? = notes.flag? := by
  have hnote (r : AliasResolver) (id : NodeId) (a : Attributes) (notes : Annotations) :
      (r.note id a notes).flag? = notes.flag? := by
    rw [AliasResolver.note]
    split
    · exact Annotations.flag?_setIfAbsent (by decide) ..
    · rfl
  induction t generalizing r notes with
  | nil => rfl
  | leaf id a l => exact hnote r id a notes
  | group id a g l r ihl ihr => rw [noteAliases, ihr, ihl, hnote]

theorem flag?_operationEvents (t : Tree) (notes : Annotations) :
    (t.operationEvents.foldl OperationEvent.note notes).flag? = notes.flag? := by
  refine foldl_keeps (p := fun notes' : Annotations => notes'.flag? = notes.flag?)
    (fun notes' event _ h => ?_) rfl
  cases event with
  | assigned id operation => exact (Annotations.flag?_set (by decide) notes' id operation).trans h
  | fieldMissing => exact h

end Tree

namespace Session

def IsFlagged (s : Session) (id : NodeId) : Prop :=
  s.store.annotations.flag? id = some true

instance (s : Session) (id : NodeId) : Decidable (s.IsFlagged id) :=
  inferInstanceAs (Decidable (_ = _))

variable {resolvers : List FieldResolver} {ids : List NodeId} {s s' : Session} {id node : NodeId}

theorem isFlagged_resolveFields (hnodup : ids.Nodup) (s : Session) :
    (s.resolveFields resolvers ids).IsFlagged node ↔ s.IsFlagged node ∨
      ∃ id ∈ ids, id = node ∧ ∃ field, s.fieldOutcome resolvers ids id = .unresolved field := by
  refine resolveFields_iff (p := fun s => s.IsFlagged node)
    (q := fun id outcome => id = node ∧ ∃ field, outcome = .unresolved field)
    (fun s id => ?_) hnodup s
  have hnotes : (s.resolveField resolvers id).store.annotations =
      (s.fieldOutcome resolvers [] id).note id s.store.annotations := rfl
  rw [IsFlagged, hnotes, IsFlagged]
  cases s.fieldOutcome resolvers [] id with
  | skipped => simp [FieldOutcome.note]
  | resolved field name =>
      rw [FieldOutcome.note]
      split
      · simp
      · rw [Annotations.flag?_setIfAbsent (by decide)]
        simp
  | unresolved field =>
      by_cases hid : id = node
      · subst hid
        simp [FieldOutcome.note, Annotations.flag?, Annotations.get?_set_same]
      · have hother : (s.store.annotations.set .fieldUnresolved id true).flag? node =
            s.store.annotations.flag? node :=
          Annotations.get?_set_of_ne (fun heq => hid heq.2.symm) _ true
        simp [FieldOutcome.note, hother, hid]

theorem mem_unresolvedFields_resolveFields (hnodup : ids.Nodup) (s : Session) (field : String) :
    field ∈ (s.resolveFields resolvers ids).context.validation.unresolvedFields ↔
      field ∈ s.context.validation.unresolvedFields ∨
        ∃ id ∈ ids, s.fieldOutcome resolvers ids id = .unresolved field := by
  refine resolveFields_iff (p := fun s => field ∈ s.context.validation.unresolvedFields)
    (q := fun _ outcome => outcome = .unresolved field) (fun s id => ?_) hnodup s
  have hrecord : (s.resolveField resolvers id).context.validation.unresolvedFields =
      (s.fieldOutcome resolvers [] id).record s.context.validation.unresolvedFields := rfl
  rw [hrecord]
  cases s.fieldOutcome resolvers [] id with
  | skipped => simp [FieldOutcome.record]
  | resolved => simp [FieldOutcome.record]
  | unresolved missed => simp [FieldOutcome.record, or_comm, eq_comm]

/-- One run of the pass that resolves fields leads from the first session to the second, in whatever
context there is by then, and does not find a name for the field of the node when it comes by. -/
def Misses (s s' : Session) (node : NodeId) : Prop :=
  ∃ (own : Option FieldResolver) (id : NodeId) (context : Context) (field : String),
    id ∈ s.store.tree.ids ∧ s' = ((Pass.fields own).run id { s with context := context }).2 ∧
      node ∈ (s.store.view id).ids ∧ (s.store.attrs node).fieldName? = some field ∧
      isReserved field = false ∧
      resolution? (context.fields.toList ++ own.toList) (s.store.view id).ids
        { s with context := context } node field = none

/-- A pass leaves the flags alone, unless it is the one that resolves fields. -/
theorem flag?_run (p : Pass) (hp : p.kind ≠ .fields) (hs : s.store.IsQuery)
    (hid : id ∈ s.store.tree.ids) :
    (p.run id s).2.store.annotations.flag? = s.store.annotations.flag? := by
  cases p with
  | fragments table skip parse =>
      have hexpanded := expanded_expand (e := ⟨s.context.fragments.toList ++ table.toList, skip, parse⟩)
        hs.rooted hid fun heq => .inl (heq ▸ hs.isGroup_root)
      exact (congrArg (fun splicing => splicing.notes.flag?) hexpanded.splicing_eq).trans
        (Tree.flag?_expand ..)
  | aliases own =>
      rw [Pass.run]
      split
      · rfl
      · next r _ =>
          have hnotes := (Store.renamed_resolveAliases hs.rooted hid r).annotations_eq
          exact (congrArg Annotations.flag? hnotes).trans (Tree.flag?_noteAliases ..)
  | fields => exact absurd rfl hp
  | operations =>
      have hnotes := (Rewriter.assigns_operations hs.rooted hid).1.annotations_eq
      exact (congrArg Annotations.flag? hnotes).trans (Tree.flag?_operationEvents ..)
  | inversion kept =>
      rw [Pass.run, Pass.runInversion]
      split
      · rfl
      · split
        · rfl
        · exact congrArg Annotations.flag? (Store.keepsFields_invert ..).annotations_eq
  | removal unwanted => exact congrArg Annotations.flag? (Store.annotations_removal ..)
  | cleanup => exact congrArg Annotations.flag? (Store.keepsFields_cleanup ..).annotations_eq
  | validation own => rfl

theorem isFlagged_run_fields (own : Option FieldResolver) (hs : s.store.IsQuery)
    (hid : id ∈ s.store.tree.ids) :
    ((Pass.fields own).run id s).2.IsFlagged node ↔ s.IsFlagged node ∨
      (node ∈ (s.store.view id).ids ∧ ∃ field,
        s.fieldOutcome (s.context.fields.toList ++ own.toList) (s.store.view id).ids node =
          .unresolved field) := by
  have hnodup : (s.store.view id).ids.Nodup :=
    hs.nodup_ids_tree.sublist (hs.view_eq_find hid ▸ Tree.ids_find_sublist id s.store.tree)
  rw [Pass.run, Rewriter.visit_fields]
  refine (isFlagged_resolveFields hnodup s).trans (or_congr_right ⟨?_, ?_⟩)
  · rintro ⟨node, hnode, rfl, hmissed⟩
    exact ⟨hnode, hmissed⟩
  · rintro ⟨hnode, hmissed⟩
    exact ⟨node, hnode, rfl, hmissed⟩

theorem Misses.step (h : s.Misses s' node) : s.Step s' := by
  obtain ⟨own, id, context, field, hid, heq, -⟩ := h
  exact ⟨.fields own, id, context, hid, heq⟩

theorem Misses.isFlagged (h : s.Misses s' node) (hs : s.store.IsQuery) : s'.IsFlagged node := by
  obtain ⟨own, id, context, field, hid, rfl, hnode, hmissed⟩ := h
  exact (isFlagged_run_fields own (s := { s with context := context }) hs hid).2
    (.inr ⟨hnode, field, FieldOutcome.of_eq_unresolved_iff.2 hmissed⟩)

theorem Step.isFlagged_iff (h : s.Step s') (hs : s.store.IsQuery) :
    s'.IsFlagged node ↔ s.IsFlagged node ∨ s.Misses s' node := by
  obtain ⟨p, id, context, hid, heq⟩ := h
  by_cases hp : p.kind = .fields
  · obtain ⟨own, rfl⟩ : ∃ own, p = .fields own := by
      cases p with
      | fields own => exact ⟨own, rfl⟩
      | _ => cases hp
    have hrun : s'.IsFlagged node ↔ _ :=
      heq ▸ isFlagged_run_fields own (s := { s with context := context }) hs hid
    refine ⟨fun hflagged => (hrun.1 hflagged).imp_right ?_,
      fun h => h.elim (fun hflagged => hrun.2 (.inl hflagged)) fun hmissed => hmissed.isFlagged hs⟩
    rintro ⟨hnode, field, houtcome⟩
    exact ⟨own, id, context, field, hid, heq, hnode, FieldOutcome.of_eq_unresolved_iff.1 houtcome⟩
  · have hsame : s'.IsFlagged node ↔ s.IsFlagged node := by
      rw [IsFlagged, heq, flag?_run p hp (s := { s with context := context }) hs hid]
      rfl
    exact ⟨fun hflagged => .inl (hsame.1 hflagged),
      fun h => h.elim hsame.2 fun hmissed => hmissed.isFlagged hs⟩

/-- One of the runs that lead from the first session to the second has missed the field of the node. -/
def MissedBetween (s s' : Session) (node : NodeId) : Prop :=
  ∃ t t', Relation.ReflTransGen Step s t ∧ t.Misses t' node ∧ Relation.ReflTransGen Step t' s'

/-- After any runs those nodes are flagged that were to begin with or that one of the runs has
missed. -/
theorem isFlagged_iff_of_steps (h : Relation.ReflTransGen Step s s') (hs : s.store.IsQuery) :
    s'.IsFlagged node ↔ s.IsFlagged node ∨ s.MissedBetween s' node := by
  have hkept {t t' : Session} (h : Relation.ReflTransGen Step t t') (hquery : t.store.IsQuery)
      (ht : t.IsFlagged node) : t'.IsFlagged node := by
    induction h with
    | refl => exact ht
    | tail hsteps hstep ih =>
        exact (hstep.isFlagged_iff (isQuery_of_steps hsteps hquery)).2 (.inl ih)
  constructor
  · induction h with
    | refl => exact .inl
    | @tail t t' hsteps hstep ih =>
        intro hflagged
        rcases (hstep.isFlagged_iff (isQuery_of_steps hsteps hs)).1 hflagged with hbefore | hmissed
        · refine (ih hbefore).imp_right ?_
          rintro ⟨u, u', hu, hmissed, hu'⟩
          exact ⟨u, u', hu, hmissed, hu'.tail hstep⟩
        · exact .inr ⟨t, t', hsteps, hmissed, .refl⟩
  · rintro (hflagged | ⟨t, t', hbefore, hmissed, hafter⟩)
    · exact hkept h hs hflagged
    · have ht := isQuery_of_steps hbefore hs
      exact hkept hafter (hmissed.step.isQuery ht) (hmissed.isFlagged ht)

end Session

namespace Pass

variable {s : Session} {id : NodeId} {field : String}

/-- What a run from the root does, where `outcome` says what happens at each node. -/
structure ResolvesFields (outcome : NodeId → FieldOutcome) (s s' : Session) : Prop where
  isQuery : s'.store.IsQuery
  ids_eq : s'.store.tree.ids = s.store.tree.ids
  attrs_eq : ∀ id ∈ s.store.tree.ids,
    s'.store.attrs id = (outcome id).apply (s.store.attrs id)
  isFlagged_iff : ∀ id ∈ s.store.tree.ids, (s'.IsFlagged id ↔ s.IsFlagged id ∨
    ∃ field, outcome id = .unresolved field)
  mem_unresolvedFields_iff : ∀ field, field ∈ s'.context.validation.unresolvedFields ↔
    field ∈ s.context.validation.unresolvedFields ∨
      ∃ id ∈ s.store.tree.ids, outcome id = .unresolved field
  context_eq : s'.context = { s.context with
    validation.unresolvedFields := s'.context.validation.unresolvedFields }

theorem exists_run_fields (h : s.store.IsQuery) (own : Option FieldResolver) :
    ∃ s', (fields own).run s.store.root s = (.ok s.store.root, s') ∧
      ResolvesFields
        (s.fieldOutcome (s.context.fields.toList ++ own.toList) s.store.tree.ids) s s' := by
  let resolvers := s.context.fields.toList ++ own.toList
  let s' := s.resolveFields resolvers s.store.tree.ids
  have hnodup := h.nodup_ids_tree
  have hrun : (fields own).run s.store.root s = (.ok s.store.root, s') := by
    rw [run, Rewriter.visit_fields]
    rfl
  refine ⟨s', hrun, Session.isQuery_resolveFields h .., ?_,
    fun id hid => Session.attrs_resolveFields hnodup hid s, fun id hid => ?_,
    Session.mem_unresolvedFields_resolveFields hnodup s, Session.context_resolveFields ..⟩
  · rw [Store.tree, Session.root_resolveFields]
    exact (congrArg (fun depth => (s'.store.viewTo depth _).ids)
      (Session.next_resolveFields resolvers _ s)).trans
        (Store.ids_viewTo_congr (Session.slot?_resolveFields resolvers _ s)
          (Session.next_resolveFields resolvers _ s) _ _)
  · rw [show s' = ((fields own).run s.store.root s).2 from (congrArg Prod.snd hrun).symm]
    exact (Session.isFlagged_run_fields own h h.root_mem).trans (or_congr_right (and_iff_right hid))

/-- A check reports what is on record as unresolved and the fields of all flagged nodes. -/
theorem mem_unresolvedFields_run_validation (h : s.store.IsQuery)
    (policy : Option ValidationOptions) :
    field ∈ ((validation policy).run s.store.root s).2.context.validation.unresolvedFields ↔
      field ∈ s.context.validation.unresolvedFields ∨
        ∃ id ∈ s.store.tree.ids, s.IsFlagged id ∧ (s.store.attrs id).fieldName? = some field := by
  let found := s.store.tree.findings (setting s)
  have hrun : ((validation policy).run s.store.root s).2.context.validation.unresolvedFields =
      s.context.validation.unresolvedFields.union found.unresolved :=
    (ValidationResult.adds_validate ..).unresolvedFields
  rw [hrun, NameSet.mem_union, or_comm, Findings.mem_unresolved_findings]
  refine or_congr_right ?_
  have hflagged (x : NodeId) : (setting s).isUnresolved x ↔ s.IsFlagged x := decide_eq_true_iff
  have hnodes := Tree.exists_path_iff_exists_node (t := s.store.tree)
    (p := fun x a => (setting s).isUnresolved x ∧ a.fieldName? = some field)
  rw [hnodes]
  constructor
  · rintro ⟨x, a, hnode, hunresolved, hname⟩
    obtain ⟨hx, rfl⟩ := h.mem_nodes_tree.1 hnode
    exact ⟨x, hx, (hflagged x).1 hunresolved, hname⟩
  · rintro ⟨x, hx, hisFlagged, hname⟩
    exact ⟨x, _, h.mem_nodes_tree.2 ⟨hx, rfl⟩, (hflagged x).2 hisFlagged, hname⟩

namespace ResolvesFields

variable {outcome : NodeId → FieldOutcome} {s' : Session} (h : ResolvesFields outcome s s')
  (hid : id ∈ s.store.tree.ids)

include h hid

theorem of_resolved {name : String} (hfound : outcome id = .resolved field name) :
    (s'.store.attrs id).field = some name ∧ (s'.IsFlagged id ↔ s.IsFlagged id) := by
  constructor
  · rw [h.attrs_eq id hid, hfound]
    rfl
  · refine (h.isFlagged_iff id hid).trans (or_iff_left ?_)
    rintro ⟨other, hother⟩
    exact nomatch hfound.symm.trans hother

theorem of_unresolved (hnot : outcome id = .unresolved field) :
    s'.store.attrs id = s.store.attrs id ∧ s'.IsFlagged id ∧
      field ∈ s'.context.validation.unresolvedFields := by
  refine ⟨?_, (h.isFlagged_iff id hid).2 (.inr ⟨field, hnot⟩),
    (h.mem_unresolvedFields_iff field).2 (.inr ⟨id, hid, hnot⟩)⟩
  rw [h.attrs_eq id hid, hnot]
  rfl

omit hid

/-- What is reported after a run is on record from before, or missed now, or the name of a node that
was flagged before. -/
theorem mem_unresolvedFields_check (policy : Option ValidationOptions)
    (hname : ∀ id field, outcome id = .unresolved field →
      (s.store.attrs id).fieldName? = some field) :
    field ∈ ((validation policy).run s'.store.root s').2.context.validation.unresolvedFields ↔
      field ∈ s.context.validation.unresolvedFields ∨
      (∃ id ∈ s.store.tree.ids, outcome id = .unresolved field) ∨
      ∃ id ∈ s.store.tree.ids, s.IsFlagged id ∧ (s'.store.attrs id).fieldName? = some field := by
  rw [mem_unresolvedFields_run_validation h.isQuery, h.mem_unresolvedFields_iff, h.ids_eq, or_assoc]
  refine or_congr_right ⟨?_, Or.imp_right ?_⟩
  · rintro (hmissed | ⟨id, hid, hflag, hfield⟩)
    · exact .inl hmissed
    · rcases (h.isFlagged_iff id hid).1 hflag with hbefore | ⟨other, hnot⟩
      · exact .inr ⟨id, hid, hbefore, hfield⟩
      · rw [(h.of_unresolved hid hnot).1, hname id other hnot, Option.some_inj] at hfield
        exact .inl ⟨id, hid, hfield ▸ hnot⟩
  · rintro ⟨id, hid, hbefore, hfield⟩
    exact ⟨id, hid, (h.isFlagged_iff id hid).2 (.inl hbefore), hfield⟩

end ResolvesFields

/-- After any runs of passes, the pass that resolves fields gives each field the name that the first
resolver finds for it, and it flags and records those for which none does. But flags outlast the
name that they were set for: a node with a name that was found is flagged if and only if it was to
begin with, or a run before this one has missed the field that it had then; and the check that
follows reports the new name of such a node too, as well as all that is on record. -/
theorem fields_after_runs {s₀ t : Session} (h₀ : s₀.store.IsQuery)
    (hruns : Relation.ReflTransGen Session.Step s₀ t) (hstore : s.store = t.store)
    (own : Option FieldResolver) (policy : Option ValidationOptions) :
    let resolve := s.resolution? (s.context.fields.toList ++ own.toList) s.store.tree.ids
    ∃ s', (fields own).run s.store.root s = (.ok s.store.root, s') ∧ s'.store.IsQuery ∧
      s'.store.tree.ids = s.store.tree.ids ∧
      (∀ id ∈ s.store.tree.ids, ∀ field, (s.store.attrs id).fieldName? = some field →
        isReserved field = false →
        match resolve id field with
        | some name => (s'.store.attrs id).field = some name ∧
            (s'.IsFlagged id ↔ s₀.IsFlagged id ∨ s₀.MissedBetween t id)
        | none => s'.store.attrs id = s.store.attrs id ∧ s'.IsFlagged id ∧
            field ∈ s'.context.validation.unresolvedFields) ∧
      ∀ field,
        field ∈ ((validation policy).run s'.store.root s').2.context.validation.unresolvedFields ↔
          field ∈ s.context.validation.unresolvedFields ∨
          (∃ id ∈ s.store.tree.ids, (s.store.attrs id).fieldName? = some field ∧
            isReserved field = false ∧ resolve id field = none) ∨
          ∃ id ∈ s.store.tree.ids, (s₀.IsFlagged id ∨ s₀.MissedBetween t id) ∧
            (s'.store.attrs id).fieldName? = some field := by
  intro resolve
  have hs : s.store.IsQuery := hstore ▸ Session.isQuery_of_steps hruns h₀
  obtain ⟨s', hrun, h⟩ := exists_run_fields hs own
  have hbefore (id : NodeId) : s.IsFlagged id ↔ s₀.IsFlagged id ∨ s₀.MissedBetween t id := by
    rw [Session.IsFlagged, hstore]
    exact Session.isFlagged_iff_of_steps hruns h₀
  simp only [← hbefore]
  refine ⟨s', hrun, h.isQuery, h.ids_eq, fun id hid field hfield hreserved => ?_, fun field => ?_⟩
  · split
    · next name hresolve =>
        exact h.of_resolved hid (FieldOutcome.of_eq_resolved hfield hreserved hresolve)
    · next hresolve =>
        exact h.of_unresolved hid (FieldOutcome.of_eq_unresolved_iff.2 ⟨hfield, hreserved, hresolve⟩)
  · simp only [← FieldOutcome.of_eq_unresolved_iff]
    exact h.mem_unresolvedFields_check policy fun _ _ hnot =>
      (FieldOutcome.of_eq_unresolved_iff.1 hnot).1

/-- Of the query `a:1 c:2` a first run misses `a` and a second one misses `c`, after which both are
flagged, though `a` is `b` by then. -/
theorem fields_after_runs_of_two_resolvers :
    let named (field : String) : Attributes := { Attributes.plain with field := some field }
    let only (field name : String) : FieldResolver := fun x _ =>
      if x = field then .resolved name else .notFound
    let s₀ : Session := ⟨.ofTree (.group 0 .plain .plain
      (.leaf 1 (named "a") (.term ⟨"1", .bare⟩))
      (.leaf 2 (named "c") (.term ⟨"2", .bare⟩))), .empty⟩
    let t := ((fields (some (only "c" "c"))).run s₀.store.root s₀).2
    let s := t.takeValidation.2
    ∃ s', (fields (some (only "a" "b"))).run s.store.root s = (.ok s.store.root, s') ∧
      (s'.store.attrs 1).field = some "b" ∧ s'.IsFlagged 1 ∧
      (s'.store.attrs 2).field = some "c" ∧ s'.IsFlagged 2 ∧
      "c" ∈ s'.context.validation.unresolvedFields := by
  intro named only s₀ t s
  have hs₀ : s₀.store.IsQuery := ⟨Store.wellFormed_ofTree rfl (by decide), by decide⟩
  have hids : s₀.store.tree.ids = [0, 1, 2] :=
    congrArg Tree.ids (Store.tree_ofTree rfl (by decide))
  have hattrs : s₀.store.attrs 1 = named "a" ∧ s₀.store.attrs 2 = named "c" := by decide +kernel
  have hstep : s₀.Step t := ⟨fields (some (only "c" "c")), _, s₀.context, hs₀.root_mem, rfl⟩
  have hmissed : s₀.MissedBetween t 1 := by
    refine ⟨s₀, t, .refl, ⟨some (only "c" "c"), s₀.store.root, s₀.context, "a", hs₀.root_mem, rfl,
      ?_, by rw [hattrs.1]; rfl, by decide, rfl⟩, .refl⟩
    rw [show (s₀.store.view s₀.store.root).ids = _ from hids]
    decide
  -- the first run leaves all names as they are
  obtain ⟨t', hfirst, hresolves⟩ := exists_run_fields hs₀ (some (only "c" "c"))
  rw [show t' = t from (congrArg Prod.snd hfirst).symm] at hresolves
  have hnone : t.context.fields = none := congrArg Context.fields hresolves.context_eq
  clear_value t
  have hmem : ∀ id ∈ [0, 1, 2], id ∈ s.store.tree.ids := fun id hid =>
    hresolves.ids_eq.trans hids ▸ hid
  have hattrs₁ : s.store.attrs 1 = named "a" := by
    refine (hresolves.attrs_eq 1 (by rw [hids]; decide)).trans ?_
    rw [Session.fieldOutcome, hattrs.1]
    rfl
  have hattrs₂ : s.store.attrs 2 = named "c" := by
    refine (hresolves.attrs_eq 2 (by rw [hids]; decide)).trans ?_
    rw [Session.fieldOutcome, hattrs.2]
    rfl
  obtain ⟨s', hrun, -, -, hnodes, -⟩ :=
    fields_after_runs hs₀ (.single hstep) (s := s) rfl (some (only "a" "b")) none
  rw [show s.context.fields = none from hnone] at hnodes
  obtain ⟨hname, hflag⟩ : (s'.store.attrs 1).field = some "b" ∧
      (s'.IsFlagged 1 ↔ s₀.IsFlagged 1 ∨ s₀.MissedBetween t 1) :=
    hnodes 1 (hmem 1 (by decide)) "a" (by rw [hattrs₁]; rfl) (by decide)
  obtain ⟨hsame, hflag', hrecord⟩ : s'.store.attrs 2 = s.store.attrs 2 ∧ s'.IsFlagged 2 ∧
      "c" ∈ s'.context.validation.unresolvedFields :=
    hnodes 2 (hmem 2 (by decide)) "c" (by rw [hattrs₂]; rfl) (by decide)
  refine ⟨s', hrun, hname, hflag.2 (.inr hmissed), ?_, hflag', hrecord⟩
  rw [hsame, hattrs₂]

/-- Of the query `a:1` a first run misses `a`. A second one finds that name for it, with nothing on
record any more, but the flag is still there and a check reports `a`. -/
theorem flag_outlasts_resolution :
    let a : Attributes := { Attributes.plain with field := some "a" }
    let s₀ : Session :=
      ⟨.ofTree (.group 0 .plain .plain (.leaf 1 a (.term ⟨"1", .bare⟩)) .nil), .empty⟩
    let missed := ((fields none).run s₀.store.root s₀).2.takeValidation.2
    let resolver : FieldResolver := fun field _ => if field = "a" then .resolved "a" else .notFound
    let resolved := ((fields (some resolver)).run missed.store.root missed).2
    let checked := ((validation none).run resolved.store.root resolved).2
    (resolved.store.attrs 1).field = some "a" ∧ resolved.IsFlagged 1 ∧
      resolved.context.validation.unresolvedFields = .empty ∧
      checked.context.validation.unresolvedFields = .ofList ["a"] := by
  intro a s₀ missed resolver resolved checked
  exact ⟨by decide +kernel, by decide +kernel, by decide +kernel, by decide +kernel⟩

end Pass

end SearchQuery
