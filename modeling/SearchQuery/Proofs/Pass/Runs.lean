import SearchQuery.Pipeline
import SearchQuery.Proofs.Aliases.InPlace
import SearchQuery.Proofs.Cleanup.InPlace
import SearchQuery.Proofs.Fields.InPlace
import SearchQuery.Proofs.Fragments.InPlace
import SearchQuery.Proofs.Operations.InPlace
import SearchQuery.Proofs.Pass.Groups
import SearchQuery.Proofs.Removal.InPlace
import SearchQuery.Proofs.Store.Query

/-!
# Runs of passes

A run of a pass from any node of a query leaves a query behind, whether it fails or not, and from
the root it comes back with the new root, `Pass.leavesQuery_run`. So does any number of runs, and
in a pipeline each pass starts at the root that the query then has.
-/

namespace SearchQuery

namespace Pass

variable {s : Session} {id : NodeId}

/-- The outcome of a run from a node: a query, and its root if the node was the root and the run
did not fail. -/
structure LeavesQuery (s : Session) (id : NodeId) (outcome : Except QueryError NodeId × Session) :
    Prop where
  isQuery : outcome.2.store.IsQuery
  eq_root : id = s.store.root → ∀ top, outcome.1 = .ok top → top = outcome.2.store.root

theorem LeavesQuery.refl (h : s.store.IsQuery) {result : Except QueryError NodeId}
    (hresult : ∀ top, result = .ok top → top = id) : LeavesQuery s id (result, s) :=
  ⟨h, fun heq top htop => (hresult top htop).trans heq⟩

theorem LeavesQuery.of_puts (h : s.store.IsQuery) {s' : Session} {top : NodeId} {new : Tree}
    (hputs : Store.Puts s.store s'.store id new) (hgroup : id = s.store.root → new.isGroup)
    (htop : id = s.store.root → ∀ c, new.id? = some c → top = c) :
    LeavesQuery s id (.ok top, s') := by
  refine ⟨h.of_puts hputs hgroup, ?_⟩
  rintro rfl top' hok
  obtain rfl := Except.ok.inj hok
  exact htop rfl _ hputs.id?_eq_root

theorem LeavesQuery.of_yields (h : s.store.IsQuery) {out : NodeId × Store} {new : Tree}
    (hyields : s.store.Yields id new out) (hgroup : id = s.store.root → new.isGroup) :
    LeavesQuery s id (.ok out.1, { s with store := out.2 }) :=
  .of_puts h hyields.puts hgroup fun _ => hyields.top

theorem leavesQuery_inversion (h : s.store.IsQuery) (hid : id ∈ s.store.tree.ids)
    (kept : List String) : LeavesQuery s id (runInversion kept id s) := by
  rw [runInversion]
  split
  · exact .refl h (by simp)
  · split
    · exact .refl h (by simp)
    · next hgroup =>
        have hgroup : s.store.isGroup id := by simpa using hgroup
        have hmakes := Store.makes_invert h.rooted hid hgroup kept s.context.alternate
        refine .of_puts h hmakes.puts (fun _ => ?_) fun _ c hc =>
          Option.some.inj (hmakes.top.symm.trans hc)
        exact Tree.isGroup_invert ((h.isGroup_view hid).trans hgroup) ..

theorem leavesQuery_validation (h : s.store.IsQuery) (own : Option ValidationOptions) :
    LeavesQuery s id (runValidation own id s) := by
  rw [runValidation]
  generalize s.context.validation.validate _ _ _ = result
  refine ⟨h, fun heq top htop => ?_⟩
  dsimp only at htop ⊢
  split at htop
  · cases htop
  · exact (Except.ok.inj htop).symm.trans heq

theorem leavesQuery_fields (h : s.store.IsQuery) (resolvers : List FieldResolver) :
    LeavesQuery s id (succeed ((Rewriter.fields resolvers).visit id s)) := by
  rw [Rewriter.visit_fields]
  refine ⟨Session.isQuery_resolveFields h .., fun heq top htop => ?_⟩
  exact (Except.ok.inj htop).symm.trans (heq.trans (Session.root_resolveFields ..).symm)

theorem leavesQuery_run (p : Pass) (h : s.store.IsQuery) (hid : id ∈ s.store.tree.ids) :
    LeavesQuery s id (p.run id s) := by
  have htop := h.id?_view hid
  cases p with
  | fragments table skip parse =>
      have hexpanded := Session.expanded_expand (e := ⟨s.context.fragments.toList ++ table.toList,
        skip, parse⟩) h.rooted hid fun heq => .inl (heq ▸ h.isGroup_root)
      refine .of_puts h hexpanded.puts ?_ fun _ => hexpanded.top
      rintro rfl
      exact Tree.isGroup_expand h.isGroup_tree ..
  | aliases own =>
      rw [run]
      split
      · exact .refl h (by simp)
      · next r _ =>
          have hrenamed := Store.renamed_resolveAliases h.rooted hid r
          refine .of_puts h hrenamed.puts ?_ fun _ c hc => ?_
          · rintro rfl
            exact (Tree.isGroup_resolveAliases r _).trans h.isGroup_tree
          · exact Option.some.inj (((Tree.id?_resolveAliases r _).trans htop).symm.trans hc)
  | fields own => exact leavesQuery_fields h _
  | operations =>
      obtain ⟨henters, hsame⟩ := Rewriter.assigns_operations h.rooted hid
      refine .of_puts h henters.puts ?_ fun _ c hc => ?_
      · rintro rfl
        exact (Tree.isGroup_assignOperations _).trans h.isGroup_tree
      · exact hsame.trans
          (Option.some.inj (((Tree.id?_assignOperations _).trans htop).symm.trans hc))
  | inversion kept => exact leavesQuery_inversion h hid kept
  | removal unwanted =>
      refine .of_yields h (Rewriter.yields_removal unwanted h.rooted hid) ?_
      rintro rfl
      rw [Store.isRoot, decide_eq_true rfl]
      exact Tree.isGroup_removeFields h.isGroup_tree unwanted
  | cleanup =>
      refine .of_yields h (Rewriter.tidiesUp_cleanup h.rooted hid).1 ?_
      rintro rfl
      rw [Store.isRoot, decide_eq_true rfl]
      exact Tree.isGroup_cleanup h.isGroup_tree
  | validation own => exact leavesQuery_validation h own

end Pass

namespace Session

/-- One pass is run at a node of the query, in whatever context there is by then. It may fail. -/
def Step (s s' : Session) : Prop :=
  ∃ (p : Pass) (id : NodeId) (context : Context), id ∈ s.store.tree.ids ∧
    s' = (p.run id { s with context := context }).2

theorem Step.isQuery {s s' : Session} (h : s.Step s') (hs : s.store.IsQuery) :
    s'.store.IsQuery := by
  obtain ⟨p, id, context, hid, rfl⟩ := h
  exact (Pass.leavesQuery_run p (s := { s with context := context }) hs hid).isQuery

theorem isQuery_of_steps {s s' : Session} (h : Relation.ReflTransGen Step s s')
    (hs : s.store.IsQuery) : s'.store.IsQuery := by
  induction h with
  | refl => exact hs
  | tail _ hstep ih => exact hstep.isQuery ih

theorem snd_runAll_singleton (s : Session) (id : NodeId) (p : Pass) :
    (s.runAll id [p]).2 = (p.run id s).2 := by
  rw [runAll]
  rcases p.run id s with ⟨_ | _, s'⟩ <;> rfl

theorem runAll_append (s : Session) (id : NodeId) (before after : List Pass) :
    s.runAll id (before ++ after) =
      match s.runAll id before with
      | (.ok id, s) => s.runAll id after
      | (.error error, s) => (.error error, s) := by
  induction before generalizing s id with
  | nil => rfl
  | cons p rest ih =>
      rw [List.cons_append, runAll, runAll]
      split
      · exact ih _ _
      · rfl

/-- Passes one after the other from the root leave a query behind and come back, if none fails,
with its root. -/
theorem leavesQuery_runAll {s : Session} (hs : s.store.IsQuery) (passes : List Pass) :
    Pass.LeavesQuery s s.store.root (s.runAll s.store.root passes) := by
  induction passes generalizing s with
  | nil => exact .refl hs fun top htop => (Except.ok.inj htop).symm
  | cons p rest ih =>
      have hrun := Pass.leavesQuery_run p hs hs.root_mem
      rw [runAll]
      split
      · next top s' heq =>
          rw [heq] at hrun
          obtain rfl : top = s'.store.root := hrun.eq_root rfl top rfl
          have hrest := ih hrun.isQuery
          exact ⟨hrest.isQuery, fun _ => hrest.eq_root rfl⟩
      · next error s' heq =>
          rw [heq] at hrun
          exact ⟨hrun.isQuery, fun _ top htop => nomatch htop⟩

/-- However many passes have been run, each at some node of the query and some of them failing, the
store is a well-formed tree below a group. A pipeline that is run then leaves such a store behind
too, and when it succeeds it comes back with the root; wherever it is cut in two, the passes behind
the cut start at the root that the passes before it leave. -/
theorem runs_keep_query {s s' : Session} (hs : s.store.IsQuery)
    (hsteps : Relation.ReflTransGen Step s s') :
    s'.store.IsQuery ∧ ∀ p : Pipeline PassKind Stage, (p.run s').2.store.IsQuery ∧
      ∀ top t, p.run s' = (.ok top, t) → top = t.store.root ∧
        ∀ before after, p.passes = before ++ after →
          ∃ u : Session, s'.runAll s'.store.root before = (.ok u.store.root, u) ∧
            u.store.IsQuery ∧ u.runAll u.store.root after = (.ok top, t) := by
  have hs' := isQuery_of_steps hsteps hs
  refine ⟨hs', fun p => ⟨(leavesQuery_runAll hs' p.passes).isQuery, fun top t hrun => ?_⟩⟩
  have hpipeline := leavesQuery_runAll hs' p.passes
  rw [show s'.runAll s'.store.root p.passes = (.ok top, t) from hrun] at hpipeline
  refine ⟨hpipeline.eq_root rfl top rfl, fun before after hcut => ?_⟩
  have hbefore := leavesQuery_runAll hs' before
  rw [Pipeline.run, hcut, runAll_append] at hrun
  split at hrun
  · next middle u heq =>
      rw [heq] at hbefore
      obtain rfl : middle = u.store.root := hbefore.eq_root rfl middle rfl
      exact ⟨u, heq, hbefore.isQuery, hrun⟩
  · cases hrun

/-- In the query `NOT (NOT a) tenant:b` the leaf on the field is removed and then the whole
inverted; a pipeline tidies up, and tidies up again in a pipeline of its own. -/
theorem runs_keep_query_without_tenant :
    let negated : Attributes := { Attributes.plain with negation := .negated }
    let tenant : Attributes := { Attributes.plain with field := some "tenant" }
    let s : Session :=
      ⟨.ofTree (.group 0 .plain .plain
        (.group 1 negated ⟨.default, true⟩ (.leaf 2 negated (.term ⟨"a", .bare⟩)) .nil)
        (.leaf 3 tenant (.term ⟨"b", .bare⟩))), .empty⟩
    let removed := ((Pass.removal fun field => field = "tenant").run 3 s).2
    let inverted := ((Pass.inversion []).run removed.store.root removed).2
    let tidying : Pipeline PassKind Stage := ⟨[⟨0, .cleanup, .pass .cleanup⟩]⟩
    let p : Pipeline PassKind Stage :=
      ⟨[⟨0, .cleanup, .pass .cleanup⟩, ⟨1, .pipeline, tidying.toStage⟩]⟩
    inverted.store.IsQuery ∧ ∃ t, p.run inverted = (.ok t.store.root, t) := by
  intro negated tenant s removed inverted tidying p
  have hs : s.store.IsQuery := ⟨Store.wellFormed_ofTree rfl (by decide), by decide⟩
  have hremoval : s.Step removed := by
    refine ⟨.removal fun field => field = "tenant", 3, s.context, ?_, rfl⟩
    rw [show s.store.tree = _ from Store.tree_ofTree rfl (by decide)]
    decide
  have hquery := hremoval.isQuery hs
  clear_value removed
  have hinversion : removed.Step inverted :=
    ⟨.inversion [], removed.store.root, removed.context, hquery.root_mem, rfl⟩
  obtain ⟨hinverted, hpipelines⟩ := runs_keep_query hs (.tail (.single hremoval) hinversion)
  generalize inverted = u at hinverted hpipelines ⊢
  obtain ⟨-, hroot⟩ := hpipelines p
  have hcleanup : ∀ id (u : Session), ∃ top t, Pass.cleanup.run id u = (.ok top, t) :=
    fun id u => ⟨_, _, rfl⟩
  obtain ⟨middle, v, hfirst⟩ := hcleanup u.store.root u
  obtain ⟨top, t, hsecond⟩ := hcleanup middle v
  have hrun : p.run u = (.ok top, t) := by
    rw [Pipeline.run, show p.passes = [.cleanup, .cleanup] from rfl, runAll, hfirst]
    dsimp only
    rw [runAll, hsecond]
    rfl
  obtain ⟨rfl, -⟩ := hroot top t hrun
  exact ⟨hinverted, t, hrun⟩

end Session

end SearchQuery
