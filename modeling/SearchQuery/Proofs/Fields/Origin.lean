import SearchQuery.Proofs.Aliases.Nesting
import SearchQuery.Proofs.Cleanup.Survival
import SearchQuery.Proofs.Fields.Flags

/-!
# The first name of a field

Two passes give fields new names, and both note the name that a node had before on it, unless there
is such a note already. What a pass does to the field and the note of one node is a `Renaming`, and a
renaming of a whole tree comes by each of its nodes once, `Tree.Renames.here`. Tidying up and
inverting leave fields and notes alone, also those of nodes that they leave out. So after any runs
of these passes from the root the note says which field a node had in the beginning, and it is there
if and only if one of them has changed the field, `Store.note_after_runs`.
-/

namespace SearchQuery

/-- What becomes of the field of a node and of the note on the field that it had first: nothing, or
the node gets another field, and the one before it is noted where nothing was. -/
inductive Renaming : (field : Option String) → (note : Option Note) → (field' : Option String) →
    (note' : Option Note) → Prop
  | kept {field note} : Renaming field note field note
  | renamed {name field' note} (h : field' ≠ some name) :
      Renaming (some name) note field' (note.or (some (.text name)))

namespace Renaming

variable {field field' : Option String} {note note' : Option Note}

/-- Where the field changes, the one before is noted if nothing was. -/
theorem field_cases (h : Renaming field note field' note') :
    (field' = field ∧ note' = note) ∨
      (field' ≠ field ∧ ∃ name, field = some name ∧ note' = note.or (some (.text name))) := by
  cases h with
  | kept => exact .inl ⟨rfl, rfl⟩
  | renamed hne => exact .inr ⟨hne, _, rfl, rfl⟩

theorem note_of_some {value : Note} (h : Renaming field (some value) field' note') :
    note' = some value := by
  cases h <;> rfl

end Renaming

namespace Annotations

def origin? (notes : Annotations) (id : NodeId) : Option Note :=
  notes.note? NoteKey.writtenField.name id

variable {notes : Annotations} {id x : NodeId}

theorem origin?_setIfAbsent (notes : Annotations) (id : NodeId) (name : String) (x : NodeId) :
    (notes.setIfAbsent .writtenField id name).origin? x =
      if x = id then (notes.origin? id).or (some (.text name)) else notes.origin? x := by
  rw [setIfAbsent, origin?, origin?]
  cases hnote : notes.note? NoteKey.writtenField.name id with
  | some note =>
      rw [Option.isSome_some, if_pos rfl]
      split
      · next heq => rw [heq, hnote]; rfl
      · rfl
  | none =>
      rw [Option.isSome_none, if_neg Bool.false_ne_true, set, note?_file, origin?]
      simp only [true_and]
      rfl

theorem origin?_set {α : Type} [IsNote α] {key : NoteKey α}
    (h : key.name ≠ NoteKey.writtenField.name) (value : α) :
    (notes.set key id value).origin? x = notes.origin? x := by
  rw [origin?, set, note?_file, if_neg fun heq => h heq.1.symm]
  rfl

end Annotations

theorem FieldOutcome.fieldName?_of_resolved {resolve : String → Option String} {a : Attributes}
    {field name : String} (h : of resolve a = .resolved field name) :
    a.fieldName? = some field := by
  rw [of.eq_def] at h
  split at h
  · cases h
  · next own hown =>
      split at h
      · cases h
      · split at h
        · cases h
          exact hown
        · cases h

namespace Tree

variable {t t' : Tree} {notes notes' : Annotations} {id x : NodeId} {a a' : Attributes}

/-- What a renaming does when it comes by a node. -/
structure Marks (id : NodeId) (a : Attributes) (notes : Annotations) (a' : Attributes)
    (notes' : Annotations) : Prop where
  here : Renaming a.field (notes.origin? id) a'.field (notes'.origin? id)
  elsewhere : ∀ x ≠ id, notes'.origin? x = notes.origin? x

/-- A renaming comes by the nodes of a tree from the top, on the left before the right. -/
inductive Renames : Tree → Annotations → Tree → Annotations → Prop
  | nil {n} : Renames nil n nil n
  | leaf {i b b' l n n'} (h : Marks i b n b' n') : Renames (leaf i b l) n (leaf i b' l) n'
  | group {i b b' g l l' r r' n above left n'} (h : Marks i b n b' above)
      (hl : Renames l above l' left) (hr : Renames r left r' n') :
      Renames (group i b g l r) n (group i b' g l' r') n'

theorem Marks.refl (id : NodeId) (a : Attributes) (notes : Annotations) :
    Marks id a notes a notes :=
  ⟨.kept, fun _ _ => rfl⟩

theorem Marks.of_setIfAbsent {name field : String} (hfield : a.field = some field)
    (hname : name ≠ field) :
    Marks id a notes { a with field := some name } (notes.setIfAbsent .writtenField id field) := by
  refine ⟨?_, fun x hx => ?_⟩
  · rw [Annotations.origin?_setIfAbsent, if_pos rfl, hfield]
    exact .renamed fun heq => hname (Option.some.inj heq)
  · rw [Annotations.origin?_setIfAbsent, if_neg hx]

theorem marks_alias (r : AliasResolver) (id : NodeId) (a : Attributes) (notes : Annotations) :
    Marks id a notes (r.apply a) (r.note id a notes) := by
  rw [AliasResolver.apply, AliasResolver.note]
  cases hname : r.rename? a with
  | none => exact .refl id a notes
  | some name =>
      simp only [AliasResolver.rename?, Option.bind_eq_bind, Option.bind_eq_some_iff] at hname
      obtain ⟨field, hfield, ⟨other, inner⟩, -, hother⟩ := hname
      obtain ⟨hne, hother⟩ := Option.ite_none_left_eq_some.1 hother
      obtain rfl := Option.some.inj hother
      have hfield := Attributes.field_of_fieldName? hfield
      rw [hfield]
      exact .of_setIfAbsent hfield hne

theorem marks_field (resolve : String → Option String) (id : NodeId) (a : Attributes)
    (notes : Annotations) :
    Marks id a notes ((FieldOutcome.of resolve a).apply a)
      ((FieldOutcome.of resolve a).note id notes) := by
  cases houtcome : FieldOutcome.of resolve a with
  | skipped => exact .refl id a notes
  | unresolved field =>
      have hnotes (x : NodeId) : (notes.set .fieldUnresolved id true).origin? x = notes.origin? x :=
        Annotations.origin?_set (by decide) true
      refine ⟨?_, fun x _ => hnotes x⟩
      rw [FieldOutcome.note, hnotes]
      exact .kept
  | resolved field name =>
      have hfield := Attributes.field_of_fieldName? (FieldOutcome.fieldName?_of_resolved houtcome)
      rw [FieldOutcome.note]
      split
      · next hsame =>
          have hkept : (FieldOutcome.resolved field name).apply a = a := by
            rw [FieldOutcome.apply, hsame, ← hfield]
          exact hkept ▸ .refl id a notes
      · next hname => exact .of_setIfAbsent hfield hname

theorem renames_resolveAliases (r : AliasResolver) (t : Tree) (notes : Annotations) :
    Renames t notes (t.resolveAliases r) (t.noteAliases r notes) := by
  induction t generalizing r notes with
  | nil => exact .nil
  | leaf id a l => exact .leaf (marks_alias r id a notes)
  | group id a g left right ihl ihr =>
      exact .group (marks_alias r id a notes) (ihl (r.scope a) _) (ihr (r.scope a) _)

namespace Renames

theorem ids_eq (h : Renames t notes t' notes') : t'.ids = t.ids := by
  induction h with
  | nil => rfl
  | leaf => rfl
  | group _ _ _ ihl ihr => rw [ids, ids, ihl, ihr]

theorem elsewhere (h : Renames t notes t' notes') (hx : x ∉ t.ids) :
    notes'.origin? x = notes.origin? x := by
  induction h with
  | nil => rfl
  | leaf h => exact h.elsewhere x fun heq => hx (List.mem_singleton.2 heq)
  | group h _ _ ihl ihr =>
      rw [ids, List.mem_cons, List.mem_append, not_or, not_or] at hx
      exact ((ihr hx.2.2).trans (ihl hx.2.1)).trans (h.elsewhere x hx.1)

/-- Where no number occurs twice a renaming comes by each node once. -/
theorem here (h : Renames t notes t' notes') (hnodup : t.ids.Nodup) (hmem : (x, a') ∈ t'.nodes) :
    ∃ a, (x, a) ∈ t.nodes ∧
      Renaming a.field (notes.origin? x) a'.field (notes'.origin? x) := by
  induction h with
  | nil => cases hmem
  | leaf h =>
      obtain ⟨rfl, rfl⟩ := Prod.mk.inj (List.mem_singleton.1 hmem)
      exact ⟨_, List.mem_cons_self, h.here⟩
  | @group id b b' _ l _ r _ _ _ _ _ h hl hr ihl ihr =>
      rw [ids, List.nodup_cons, List.mem_append, not_or, List.nodup_append'] at hnodup
      obtain ⟨⟨hnl, hnr⟩, hndl, hndr, hdisjoint⟩ := hnodup
      have hids {u : Tree} (hu : (x, a') ∈ u.nodes) : x ∈ u.ids := by
        rw [← map_fst_nodes]
        exact List.mem_map_of_mem hu
      rw [nodes, List.mem_cons, List.mem_append] at hmem
      rcases hmem with heq | hmem | hmem
      · obtain ⟨rfl, rfl⟩ := Prod.mk.inj heq
        refine ⟨b, List.mem_cons_self, ?_⟩
        rw [hr.elsewhere hnr, hl.elsewhere hnl]
        exact h.here
      · have hx : x ∈ l.ids := hl.ids_eq ▸ hids hmem
        obtain ⟨c, hc, hrenaming⟩ := ihl hndl hmem
        refine ⟨c, List.mem_cons_of_mem _ (List.mem_append_left _ hc), ?_⟩
        rw [hr.elsewhere (hdisjoint hx), ← h.elsewhere x (fun heq => hnl (heq ▸ hx))]
        exact hrenaming
      · have hx : x ∈ r.ids := hr.ids_eq ▸ hids hmem
        obtain ⟨c, hc, hrenaming⟩ := ihr hndr hmem
        refine ⟨c, List.mem_cons_of_mem _ (List.mem_append_right _ hc), ?_⟩
        rw [← h.elsewhere x (fun heq => hnr (heq ▸ hx)),
          ← hl.elsewhere (fun hxl => hdisjoint hxl hx)]
        exact hrenaming

end Renames

end Tree

namespace Store

variable {s s' : Store} {id : NodeId}

def origin? (s : Store) (id : NodeId) : Option Note :=
  s.annotations.origin? id

/-- What becomes of the nodes in the table, in the tree or out of it. -/
structure Renames (s s' : Store) : Prop where
  next_le : s.next ≤ s'.next
  here : ∀ id < s.next,
    Renaming (s.attrs id).field (s.origin? id) (s'.attrs id).field (s'.origin? id)

theorem Renames.refl (s : Store) : s.Renames s :=
  ⟨Nat.le_refl _, fun _ _ => .kept⟩

/-- The nodes of the query are renamed as its tree says, and all others keep their fields. -/
theorem IsQuery.renames (h : s.IsQuery) (h' : s'.IsQuery) (hnext : s'.next = s.next)
    (htree : Tree.Renames s.tree s.annotations s'.tree s'.annotations)
    (houtside : ∀ id ∉ s.tree.ids, s'.attrs id = s.attrs id) : s.Renames s' := by
  refine ⟨Nat.le_of_eq hnext.symm, fun id _ => ?_⟩
  by_cases hid : id ∈ s.tree.ids
  · have hid' : id ∈ s'.tree.ids := htree.ids_eq ▸ hid
    obtain ⟨a, ha, hrenaming⟩ := htree.here h.nodup_ids_tree (h'.mem_nodes_tree.2 ⟨hid', rfl⟩)
    exact (h.mem_nodes_tree.1 ha).2 ▸ hrenaming
  · rw [houtside id hid, show s'.origin? id = s.origin? id from htree.elsewhere hid]
    exact .kept

theorem IsQuery.renames_resolveAliases (h : s.IsQuery) (r : AliasResolver) :
    s.Renames (s.resolveAliases r s.root) := by
  have hrenamed := renamed_resolveAliases h.rooted h.root_mem r
  have hquery := h.of_puts hrenamed.puts fun _ =>
    (Tree.isGroup_resolveAliases r _).trans h.isGroup_tree
  refine h.renames hquery hrenamed.next_eq ?_ fun id hid => ?_
  · rw [hrenamed.puts.tree_eq_of_root, hrenamed.annotations_eq]
    exact Tree.renames_resolveAliases r _ _
  · rw [attrs, hrenamed.node?_eq id hid, attrs]

/-- What leaves fields and notes alone renames nothing. -/
theorem KeepsFields.renames (h : KeepsFields s s') : s.Renames s' := by
  refine ⟨h.next_le, fun id hid => ?_⟩
  have hnote : s'.origin? id = s.origin? id :=
    congrArg (·.origin? id) h.annotations_eq
  rw [h.field_eq id hid, hnote]
  exact .kept

end Store

namespace Session

variable {resolvers : List FieldResolver} {ids : List NodeId} {s : Session} {id x : NodeId}

theorem origin?_resolveField_of_ne (resolvers : List FieldResolver) (s : Session) (h : x ≠ id) :
    (s.resolveField resolvers id).store.origin? x = s.store.origin? x :=
  (Tree.marks_field _ id (s.store.attrs id) s.store.annotations).elsewhere x h

theorem origin?_resolveFields_of_notMem (h : x ∉ ids) (s : Session) :
    (s.resolveFields resolvers ids).store.origin? x = s.store.origin? x := by
  induction ids generalizing s with
  | nil => rfl
  | cons id rest ih =>
      rw [List.mem_cons, not_or] at h
      rw [resolveFields_cons, ih h.2, origin?_resolveField_of_ne resolvers s h.1]

theorem renaming_resolveFields (hnodup : ids.Nodup) (s : Session) (x : NodeId) :
    Renaming (s.store.attrs x).field (s.store.origin? x)
      ((s.resolveFields resolvers ids).store.attrs x).field
      ((s.resolveFields resolvers ids).store.origin? x) := by
  induction ids generalizing s with
  | nil => exact .kept
  | cons id rest ih =>
      rw [List.nodup_cons] at hnodup
      rw [resolveFields_cons]
      by_cases hid : x = id
      · subst hid
        rw [attrs_resolveFields_of_notMem hnodup.1, origin?_resolveFields_of_notMem hnodup.1,
          attrs_resolveField_self]
        exact (Tree.marks_field _ x (s.store.attrs x) s.store.annotations).here
      · have hrest := ih hnodup.2 (s.resolveField resolvers id)
        rwa [attrs_resolveField_of_ne resolvers s hid, origin?_resolveField_of_ne resolvers s hid]
          at hrest

end Session

namespace Pass

variable {s : Session}

/-- The kinds of passes that give fields new names, tidy up and invert. -/
def renamingKinds : List PassKind :=
  [.aliases, .fields, .cleanup, .inversion]

theorem renames_run_aliases (h : s.store.IsQuery) (own : Option AliasResolver) :
    s.store.Renames ((aliases own).run s.store.root s).2.store := by
  rw [run]
  split
  · exact .refl s.store
  · next r _ => exact h.renames_resolveAliases r

theorem renames_run_fields (h : s.store.IsQuery) (own : Option FieldResolver) :
    s.store.Renames ((fields own).run s.store.root s).2.store := by
  rw [run, Rewriter.visit_fields]
  exact ⟨Nat.le_of_eq (Session.next_resolveFields ..).symm,
    fun id _ => Session.renaming_resolveFields h.nodup_ids_tree s id⟩

theorem renames_run_inversion (s : Session) (kept : List String) :
    s.store.Renames ((inversion kept).run s.store.root s).2.store := by
  rw [run, runInversion]
  split
  · exact .refl s.store
  · split
    · exact .refl s.store
    · exact (Store.keepsFields_invert ..).renames

theorem renames_run {p : Pass} (hp : p.kind ∈ renamingKinds) (h : s.store.IsQuery) :
    s.store.Renames (p.run s.store.root s).2.store := by
  cases p with
  | aliases own => exact renames_run_aliases h own
  | fields own => exact renames_run_fields h own
  | cleanup => exact (Store.keepsFields_cleanup ..).renames
  | inversion kept => exact renames_run_inversion s kept
  | _ => simp [kind, renamingKinds] at hp

end Pass

namespace Store

variable {s : Store} {id : NodeId} {run : Pass × Context} {runs : List (Pass × Context)}

/-- What a run of a pass from the root leaves behind, in the context that there is by then. It may
fail. -/
def afterRun (s : Store) (run : Pass × Context) : Store :=
  (run.1.run s.root ⟨s, run.2⟩).2.store

def afterRuns (s : Store) (runs : List (Pass × Context)) : Store :=
  runs.foldl afterRun s

def ChangesField (id : NodeId) : Store → List (Pass × Context) → Prop
  | _, [] => False
  | s, run :: rest =>
      ((s.afterRun run).attrs id).field ≠ (s.attrs id).field ∨ (s.afterRun run).ChangesField id rest

instance decidableChangesField (id : NodeId) :
    (s : Store) → (runs : List (Pass × Context)) → Decidable (s.ChangesField id runs)
  | _, [] => .isFalse fun h => h
  | s, run :: rest =>
      have := decidableChangesField id (s.afterRun run) rest
      inferInstanceAs (Decidable (_ ∨ _))

theorem IsQuery.afterRun (h : s.IsQuery) (run : Pass × Context) : (s.afterRun run).IsQuery :=
  (Pass.leavesQuery_run run.1 (s := ⟨s, run.2⟩) h h.root_mem).isQuery

theorem renames_afterRun (h : s.IsQuery) (hrun : run.1.kind ∈ Pass.renamingKinds) :
    s.Renames (s.afterRun run) :=
  Pass.renames_run (s := ⟨s, run.2⟩) hrun h

theorem origin?_afterRuns_of_some (h : s.IsQuery)
    (hruns : ∀ run ∈ runs, run.1.kind ∈ Pass.renamingKinds) (hid : id < s.next) {note : Note} (hnote : s.origin? id = some note) :
    (s.afterRuns runs).origin? id = some note := by
  induction runs generalizing s with
  | nil => exact hnote
  | cons run rest ih =>
      rw [List.forall_mem_cons] at hruns
      have hstep := renames_afterRun h hruns.1
      have hhere := hstep.here id hid
      rw [hnote] at hhere
      exact ih (h.afterRun run) hruns.2 (Nat.lt_of_lt_of_le hid hstep.next_le) hhere.note_of_some

/-- Passes that give fields new names, tidy up and invert are run any number of times from the root,
in whatever context, some of them failing. Where nothing is noted on a node in the beginning, nothing
is in the end if no run has changed its field, and otherwise the field that it had in the
beginning. -/
theorem note_after_runs (h : s.IsQuery) (hruns : ∀ run ∈ runs, run.1.kind ∈ Pass.renamingKinds)
    (hid : id ∈ s.tree.ids) (hnone : s.origin? id = none) :
    (¬ s.ChangesField id runs → (s.afterRuns runs).origin? id = none) ∧
      (s.ChangesField id runs → ∃ field, (s.attrs id).field = some field ∧
        (s.afterRuns runs).origin? id = some (.text field)) := by
  replace hid := h.lt_next_of_mem hid
  induction runs generalizing s with
  | nil => exact ⟨fun _ => hnone, False.elim⟩
  | cons run rest ih =>
      rw [List.forall_mem_cons] at hruns
      have hstep := renames_afterRun h hruns.1
      have hlt := Nat.lt_of_lt_of_le hid hstep.next_le
      obtain ⟨hfield, hnote⟩ | ⟨hfield, name, hname, hnote⟩ := (hstep.here id hid).field_cases
      · obtain ⟨hnot, hchanges⟩ := ih (h.afterRun run) hruns.2 (hnote.trans hnone) hlt
        exact ⟨fun hsame => hnot fun hrest => hsame (.inr hrest),
          fun hsome => hfield ▸ hchanges (hsome.resolve_left fun hne => hne hfield)⟩
      · rw [hnone] at hnote
        refine ⟨fun hsame => absurd (.inl hfield) hsame, fun _ => ⟨name, hname, ?_⟩⟩
        exact origin?_afterRuns_of_some (h.afterRun run) hruns.2 hlt hnote

/-- In the query `a:1 c:2` an alias makes `b` of `a`, a resolver makes `d` of `b`, and then the query
is tidied up and inverted. The first leaf was on `a`, and nothing is noted on the second. -/
theorem note_after_runs_of_two_renamings :
    let named (field : String) : Attributes := { Attributes.plain with field := some field }
    let s : Store := .ofTree (.group 0 .plain .plain
      (.leaf 1 (named "a") (.term ⟨"1", .bare⟩)) (.leaf 2 (named "c") (.term ⟨"2", .bare⟩)))
    let resolver : FieldResolver := fun field _ => if field = "b" then .resolved "d" else .notFound
    let runs : List (Pass × Context) :=
      [Pass.aliases (some (.ofMap (.plain "a" "b" .empty))), .fields (some resolver), .cleanup,
        .inversion []].map fun p => (p, .empty)
    ((s.afterRuns runs).attrs 1).field = some "d" ∧
      (s.afterRuns runs).origin? 1 = some (.text "a") ∧ (s.afterRuns runs).origin? 2 = none := by
  intro named s resolver runs
  have hs : s.IsQuery := ⟨wellFormed_ofTree rfl (by decide), by decide⟩
  have hruns : ∀ run ∈ runs, run.1.kind ∈ Pass.renamingKinds := by decide
  obtain ⟨-, hfirst⟩ := note_after_runs hs hruns (show 1 ∈ s.tree.ids by decide +kernel) rfl
  obtain ⟨hsecond, -⟩ := note_after_runs hs hruns (show 2 ∈ s.tree.ids by decide +kernel) rfl
  obtain ⟨field, hfield, hnote⟩ := hfirst (by decide +kernel)
  have ha : field = "a" := Option.some.inj (hfield.symm.trans (by decide +kernel))
  exact ⟨by decide +kernel, ha ▸ hnote, hsecond (by decide +kernel)⟩

end Store

end SearchQuery
