import Mathlib.Data.List.Nodup
import SearchQuery.Proofs.Pipeline.Schedule

/-!
# Edits of a builder

An edit drops some entries of a builder, keeps the others and adds at most one behind them. What it
keeps is listed by `BuilderEdit.stays`, each entry with the place it had, so the entry at a place
after the edit can be traced back to its place before. Where later entries run in the order that
their origins had, `Traces`, what is left of the new schedule without the entries added since is what
is left of the old one without those that were dropped, `Traces.filterMap_schedule`. No edit and no
sequence of them puts entries that stay in another order, `PipelineBuilder.edits_keep_order`.
-/

namespace SearchQuery

section

variable {κ σ : Type}

namespace PipelineEntry

variable (p : PipelineEntry κ σ → Bool) (entries : List (PipelineEntry κ σ))

theorem map_fst_filter_zipIdx :
    (entries.zipIdx.filter (p ·.1)).map (·.1) = entries.filter p := by
  conv_rhs => rw [← List.zipIdx_map_fst 0 entries, List.filter_map]
  rfl

theorem map_fst_eraseP_zipIdx :
    (entries.zipIdx.eraseP (p ·.1)).map (·.1) = entries.eraseP p := by
  conv_rhs => rw [← List.zipIdx_map_fst 0 entries, List.eraseP_map]
  rfl

end PipelineEntry

namespace PipelineBuilder

open PipelineEntry (Precedes)

/-- Entries of a later builder can be traced back to entries of an earlier one, which ran in the same
order. -/
structure Traces (b b' : PipelineBuilder κ σ)
    (origin? : PipelineEntry κ σ × Nat → Option (PipelineEntry κ σ × Nat)) : Prop where
  mem : ∀ {x y}, x ∈ b'.schedule → origin? x = some y → y ∈ b.schedule ∧ y.1 = x.1
  precedes : ∀ {x x' y y'}, x ∈ b'.schedule → x' ∈ b'.schedule → origin? x = some y →
    origin? x' = some y' → Precedes x x' → Precedes y y'

namespace Traces

variable {b b' b'' : PipelineBuilder κ σ}
  {origin? origin?' : PipelineEntry κ σ × Nat → Option (PipelineEntry κ σ × Nat)}

theorem refl (b : PipelineBuilder κ σ) : Traces b b some where
  mem hx h := by
    obtain rfl := Option.some.inj h
    exact ⟨hx, rfl⟩
  precedes _ _ h h' hprecedes := by
    obtain rfl := Option.some.inj h
    obtain rfl := Option.some.inj h'
    exact hprecedes

theorem trans (h : Traces b b' origin?) (h' : Traces b' b'' origin?') :
    Traces b b'' fun x => (origin?' x).bind origin? where
  mem hx hy := by
    obtain ⟨z, hz, hy⟩ := Option.bind_eq_some_iff.1 hy
    obtain ⟨hmem, heq⟩ := h'.mem hx hz
    obtain ⟨hmem', heq'⟩ := h.mem hmem hy
    exact ⟨hmem', heq'.trans heq⟩
  precedes hx hx' hy hy' hprecedes := by
    obtain ⟨z, hz, hy⟩ := Option.bind_eq_some_iff.1 hy
    obtain ⟨z', hz', hy'⟩ := Option.bind_eq_some_iff.1 hy'
    exact h.precedes (h'.mem hx hz).1 (h'.mem hx' hz').1 hy hy'
      (h'.precedes hx hx' hz hz' hprecedes)

theorem pairwise_filterMap_schedule (h : Traces b b' origin?) :
    (b'.schedule.filterMap origin?).Pairwise Precedes := by
  rw [List.pairwise_filterMap]
  exact b'.pairwise_schedule.imp_of_mem fun hx hx' hprecedes y hy y' hy' =>
    h.precedes hx hx' hy hy' hprecedes

theorem filterMap_schedule (h : Traces b b' origin?) (p : PipelineEntry κ σ × Nat → Bool)
    (hp : ∀ y ∈ b.schedule, p y ↔ ∃ x ∈ b'.schedule, origin? x = some y) :
    b'.schedule.filterMap origin? = b.schedule.filter p := by
  have hnodup : ∀ {l : List (PipelineEntry κ σ × Nat)}, l.Pairwise Precedes → l.Nodup := by
    refine fun hl => hl.imp fun {x y} hprecedes heq => ?_
    rw [heq] at hprecedes
    exact hprecedes.asymm hprecedes
  have hpairwise := h.pairwise_filterMap_schedule
  have hpairwise' := b.pairwise_schedule.sublist (List.filter_sublist (p := p))
  refine List.Perm.eq_of_pairwise (fun _ _ _ _ hxy hyx => absurd hyx hxy.asymm) hpairwise
    hpairwise' ((List.perm_ext_iff_of_nodup (hnodup hpairwise) (hnodup hpairwise')).2 fun y => ?_)
  rw [List.mem_filterMap, List.mem_filter]
  constructor
  · rintro ⟨x, hx, hy⟩
    have hmem := (h.mem hx hy).1
    exact ⟨hmem, (hp y hmem).2 ⟨x, hx, hy⟩⟩
  · rintro ⟨hmem, hy⟩
    exact (hp y hmem).1 hy

theorem sublist_schedule (h : Traces b b' origin?) :
    (b'.schedule.filterMap origin?).Sublist b.schedule := by
  classical
  rw [h.filterMap_schedule (fun y => ∃ x ∈ b'.schedule, origin? x = some y)
    fun y _ => decide_eq_true_iff]
  exact List.filter_sublist

end Traces

end PipelineBuilder

end

/-- What can be done to a builder. -/
inductive BuilderEdit (κ σ : Type)
  | add (kind : κ) (stage : σ) (priority : Int32)
  | remove (kind : κ)
  | replace (old kind : κ) (stage : σ) (priority : Option Int32)
  | addBefore (anchor kind : κ) (stage : σ)
  | addAfter (anchor kind : κ) (stage : σ)
  /-- Builds the pipeline and goes on from there. -/
  | rebuild

variable {κ σ : Type} [DecidableEq κ]

namespace BuilderEdit

def apply (b : PipelineBuilder κ σ) :
    BuilderEdit κ σ → Except (EditFault κ) (PipelineBuilder κ σ)
  | add kind stage priority => .ok (b.add kind stage priority)
  | remove kind => .ok (b.remove kind)
  | replace old kind stage priority => b.replace old kind stage priority
  | addBefore anchor kind stage => b.addBefore anchor kind stage
  | addAfter anchor kind stage => b.addAfter anchor kind stage
  | rebuild => .ok b.build.toBuilder

/-- The entries that stay, in the order they are listed in then, each with the place it was listed at
before. An edit that fails leaves all. -/
def stays (b : PipelineBuilder κ σ) : BuilderEdit κ σ → List (PipelineEntry κ σ × Nat)
  | add .. => b.entries.zipIdx
  | remove kind => b.entries.zipIdx.filter (·.1.kind ≠ kind)
  | replace old .. =>
      match b.priorityBefore old with
      | .ok _ => b.entries.zipIdx.eraseP (·.1.kind = old)
      | .error _ => b.entries.zipIdx
  | addBefore .. => b.entries.zipIdx
  | addAfter .. => b.entries.zipIdx
  | rebuild => b.schedule

def added? (b : PipelineBuilder κ σ) : BuilderEdit κ σ → Option (PipelineEntry κ σ)
  | add kind stage priority => some ⟨priority, kind, stage⟩
  | remove _ => none
  | replace old kind stage priority =>
      (b.priorityBefore old).toOption.map fun lower => ⟨priority.getD lower, kind, stage⟩
  | addBefore anchor kind stage => (b.priorityBefore anchor).toOption.map (⟨·, kind, stage⟩)
  | addAfter anchor kind stage => (b.priorityAfter anchor).toOption.map (⟨·, kind, stage⟩)
  | rebuild => none

/-- The entry before the edit that an entry of the builder after it is, with its place then. An entry
that the edit has added is none. -/
def origin? (b : PipelineBuilder κ σ) (edit : BuilderEdit κ σ) (x : PipelineEntry κ σ × Nat) :
    Option (PipelineEntry κ σ × Nat) :=
  (edit.stays b)[x.2]?

end BuilderEdit

namespace PipelineBuilder

open PipelineEntry (Precedes)

def edit (b : PipelineBuilder κ σ) (edit : BuilderEdit κ σ) : PipelineBuilder κ σ :=
  match edit.apply b with
  | .ok b' => b'
  | .error _ => b

def editAll (b : PipelineBuilder κ σ) : List (BuilderEdit κ σ) → PipelineBuilder κ σ
  | [] => b
  | edit :: rest => (b.edit edit).editAll rest

def originAll? (b : PipelineBuilder κ σ) :
    List (BuilderEdit κ σ) → PipelineEntry κ σ × Nat → Option (PipelineEntry κ σ × Nat)
  | [], x => some x
  | edit :: rest, x => ((b.edit edit).originAll? rest x).bind (edit.origin? b)

section Stays

variable (b : PipelineBuilder κ σ) (edit : BuilderEdit κ σ)

theorem entries_edit :
    (b.edit edit).entries = (edit.stays b).map (·.1) ++ (edit.added? b).toList := by
  have hall : b.entries.zipIdx.map (·.1) = b.entries := List.zipIdx_map_fst 0 b.entries
  cases edit with
  | add kind stage priority =>
      simp only [PipelineBuilder.edit, BuilderEdit.apply, add, BuilderEdit.stays,
        BuilderEdit.added?, hall, Option.toList_some]
  | remove kind =>
      simp only [PipelineBuilder.edit, BuilderEdit.apply, remove, BuilderEdit.stays,
        BuilderEdit.added?, Option.toList_none, List.append_nil]
      exact (PipelineEntry.map_fst_filter_zipIdx (·.kind ≠ kind) b.entries).symm
  | replace old kind stage priority =>
      simp only [PipelineBuilder.edit, BuilderEdit.apply, replace, BuilderEdit.stays,
        BuilderEdit.added?]
      cases b.priorityBefore old with
      | ok lower =>
          exact congrArg (· ++ _)
            (PipelineEntry.map_fst_eraseP_zipIdx (·.kind = old) b.entries).symm
      | error fault => exact hall.symm.trans (List.append_nil _).symm
  | addBefore anchor kind stage =>
      simp only [PipelineBuilder.edit, BuilderEdit.apply, addBefore, BuilderEdit.stays,
        BuilderEdit.added?, hall]
      cases b.priorityBefore anchor with
      | ok lower => rfl
      | error fault => exact (List.append_nil _).symm
  | addAfter anchor kind stage =>
      simp only [PipelineBuilder.edit, BuilderEdit.apply, addAfter, BuilderEdit.stays,
        BuilderEdit.added?, hall]
      cases b.priorityAfter anchor with
      | ok higher => rfl
      | error fault => exact (List.append_nil _).symm
  | rebuild =>
      simp only [PipelineBuilder.edit, BuilderEdit.apply, Pipeline.toBuilder, BuilderEdit.stays,
        BuilderEdit.added?, map_fst_schedule, Option.toList_none, List.append_nil]

variable {b edit} {x : PipelineEntry κ σ × Nat}

theorem mem_schedule_of_mem_stays (h : x ∈ edit.stays b) : x ∈ b.schedule := by
  rw [b.perm_schedule.mem_iff]
  cases edit with
  | remove kind => exact List.mem_of_mem_filter h
  | replace old kind stage priority =>
      rw [BuilderEdit.stays] at h
      split at h
      · exact List.mem_of_mem_eraseP h
      · exact h
  | rebuild => exact b.perm_schedule.mem_iff.1 h
  | add kind stage priority => exact h
  | addBefore anchor kind stage => exact h
  | addAfter anchor kind stage => exact h

variable (b edit) in
/-- Of entries with equal priorities, what was listed earlier is so afterwards. -/
theorem pairwise_stays : (edit.stays b).Pairwise fun x y =>
    x.1.priority = y.1.priority → x.2 < y.2 := by
  have hall : b.entries.zipIdx.Pairwise fun x y => x.1.priority = y.1.priority → x.2 < y.2 := by
    have hplaces : (b.entries.zipIdx.map (·.2)).Pairwise (· < ·) := by
      rw [List.zipIdx_map_snd]
      exact List.pairwise_lt_range'
    exact (List.pairwise_map.1 hplaces).imp fun {x y} (hlt : x.2 < y.2) _ => hlt
  cases edit with
  | remove kind => exact hall.sublist List.filter_sublist
  | replace old kind stage priority =>
      rw [BuilderEdit.stays]
      split
      · exact hall.sublist (List.eraseP_sublist ..)
      · exact hall
  | rebuild =>
      refine b.pairwise_schedule.imp fun h heq => ?_
      rcases h with hlt | ⟨-, hplace⟩
      · rw [heq] at hlt
        exact absurd hlt Int32.lt_irrefl
      · exact hplace
  | add kind stage priority => exact hall
  | addBefore anchor kind stage => exact hall
  | addAfter anchor kind stage => exact hall

end Stays

namespace Traces

theorem edit (b : PipelineBuilder κ σ) (edit : BuilderEdit κ σ) :
    Traces b (b.edit edit) (edit.origin? b) := by
  have hmem : ∀ {x y}, x ∈ (b.edit edit).schedule → edit.origin? b x = some y →
      y ∈ b.schedule ∧ y.1 = x.1 := by
    intro x y hx hy
    rw [BuilderEdit.origin?] at hy
    obtain ⟨hplace, -⟩ := List.getElem?_eq_some_iff.1 hy
    have hentry := mem_schedule_iff.1 hx
    rw [entries_edit, List.getElem?_append_left (by rwa [List.length_map]), List.getElem?_map, hy,
      Option.map_some, Option.some.injEq] at hentry
    exact ⟨mem_schedule_of_mem_stays (List.mem_of_getElem? hy), hentry⟩
  refine ⟨hmem, fun {x x' y y'} hx hx' hy hy' hprecedes => ?_⟩
  have hentry := (hmem hx hy).2
  have hentry' := (hmem hx' hy').2
  rw [Precedes, ← hentry, ← hentry'] at hprecedes
  rcases hprecedes with hlt | ⟨heq, hplace⟩
  · exact Or.inl hlt
  · obtain ⟨hx, rfl⟩ := List.getElem?_eq_some_iff.1 hy
    obtain ⟨hx', rfl⟩ := List.getElem?_eq_some_iff.1 hy'
    exact Or.inr ⟨heq, List.pairwise_iff_getElem.1 (pairwise_stays b edit) _ _ hx hx' hplace heq⟩

theorem editAll (b : PipelineBuilder κ σ) (edits : List (BuilderEdit κ σ)) :
    Traces b (b.editAll edits) (b.originAll? edits) := by
  induction edits generalizing b with
  | nil => exact refl b
  | cons edit rest ih => exact (Traces.edit b edit).trans (ih (b.edit edit))

end Traces

theorem mem_stays_iff {b : PipelineBuilder κ σ} {edit : BuilderEdit κ σ} {y : PipelineEntry κ σ × Nat}
    (hy : y ∈ b.schedule) : y.2 ∈ (edit.stays b).map (·.2) ↔
      ∃ x ∈ (b.edit edit).schedule, edit.origin? b x = some y := by
  constructor
  · intro h
    obtain ⟨z, hz, hplace⟩ := List.mem_map.1 h
    obtain rfl : z = y := by
      have hentry := mem_schedule_iff.1 (mem_schedule_of_mem_stays hz)
      rw [hplace, mem_schedule_iff.1 hy, Option.some.injEq] at hentry
      exact Prod.ext hentry.symm hplace
    obtain ⟨k, hk⟩ := List.mem_iff_getElem?.1 hz
    refine ⟨(z.1, k), mem_schedule_iff.2 ?_, hk⟩
    rw [entries_edit, List.getElem?_append_left, List.getElem?_map, hk, Option.map_some]
    rw [List.length_map]
    exact (List.getElem?_eq_some_iff.1 hk).1
  · rintro ⟨x, -, hx⟩
    exact List.mem_map_of_mem (List.mem_of_getElem? hx)

theorem schedule_edit (b : PipelineBuilder κ σ) (edit : BuilderEdit κ σ) :
    (b.edit edit).schedule.filterMap (edit.origin? b) =
      b.schedule.filter fun x => x.2 ∈ (edit.stays b).map (·.2) := by
  refine (Traces.edit b edit).filterMap_schedule _ fun y hy => ?_
  rw [decide_eq_true_iff]
  exact mem_stays_iff hy

/-- Building a pipeline again from its own builder gives the same pipeline: all entries stay. -/
theorem build_toBuilder_build (b : PipelineBuilder κ σ) : b.build.toBuilder.build = b.build := by
  have hschedule : (b.edit .rebuild).schedule.filterMap (BuilderEdit.rebuild.origin? b) =
      b.schedule := by
    rw [schedule_edit, List.filter_eq_self]
    exact fun x hx => decide_eq_true (List.mem_map_of_mem hx)
  have hentries : (b.edit .rebuild).schedule.map (·.1) = b.schedule.map (·.1) := by
    rw [← hschedule, List.map_filterMap, ← List.filterMap_eq_map]
    refine List.filterMap_congr fun x hx => ?_
    obtain ⟨y, hy⟩ : ∃ y, BuilderEdit.rebuild.origin? b x = some y := by
      refine ⟨_, List.getElem?_eq_getElem ?_⟩
      have hplace := (List.getElem?_eq_some_iff.1 (mem_schedule_iff.1 hx)).1
      rwa [entries_edit, List.length_append, List.length_map] at hplace
    rw [hy, Option.map_some, ((Traces.edit b .rebuild).mem hx hy).2]
    rfl
  rw [map_fst_schedule, map_fst_schedule] at hentries
  exact congrArg Pipeline.mk hentries

/-- Edits never put the entries that stay in another order. The schedule without its places is the
pipeline that is built. What an edit makes of a builder is what stays and then what it adds, and the
schedule without what it adds is the one before without what does not stay, each entry traced back to
the place it was listed at. After any sequence of edits the entries that are still there run in the
order they ran in, and building a pipeline again from its own builder gives the same pipeline. -/
theorem edits_keep_order (b : PipelineBuilder κ σ) :
    b.schedule.map (·.1) = b.build.entries ∧
    (∀ edit : BuilderEdit κ σ,
      (b.edit edit).entries = (edit.stays b).map (·.1) ++ (edit.added? b).toList ∧
      (b.edit edit).schedule.filterMap (edit.origin? b) =
        b.schedule.filter fun x => x.2 ∈ (edit.stays b).map (·.2)) ∧
    (∀ edits : List (BuilderEdit κ σ),
      ((b.editAll edits).schedule.filterMap (b.originAll? edits)).Sublist b.schedule) ∧
    b.build.toBuilder.build = b.build :=
  ⟨b.map_fst_schedule, fun edit => ⟨b.entries_edit edit, b.schedule_edit edit⟩,
    fun edits => (Traces.editAll b edits).sublist_schedule, b.build_toBuilder_build⟩

end PipelineBuilder

end SearchQuery
