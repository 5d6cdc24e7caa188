import SearchQuery.Proofs.Pipeline.Edits

/-!
# Stages beside and in the place of others

What an edit adds runs behind the entries of its own priority and of lower ones,
`PipelineBuilder.runsBefore_added_iff`. A stage added before another has a priority one lower, and so
it runs before it; where that one has the lowest priority of all, nothing is added. The same goes for a
stage added after another and the highest, `PipelineBuilder.anchored_stage_runs_beside_iff`. A stage put
in the place of another runs before everything of the other's priority, which is where the other ran
exactly if it was listed as the first of its priority, `PipelineBuilder.replaced_stage_stands_iff`.
-/

namespace SearchQuery

/-! Only at the ends of their range do priorities have no neighbour. -/

theorem toInt_sub_one {p : Int32} (h : p ≠ Int32.minValue) : (p - 1).toInt = p.toInt - 1 := by
  have hlow := p.le_toInt
  have hhigh := p.toInt_lt
  rw [ne_eq, ← Int32.toInt_inj, Int32.toInt_minValue] at h
  rw [Int32.toInt_sub, Int32.toInt_one]
  exact Int.bmod_eq_of_le (by omega) (by omega)

theorem toInt_add_one {p : Int32} (h : p ≠ Int32.maxValue) : (p + 1).toInt = p.toInt + 1 := by
  have hlow := p.le_toInt
  have hhigh := p.toInt_lt
  rw [ne_eq, ← Int32.toInt_inj, Int32.toInt_maxValue] at h
  rw [Int32.toInt_add, Int32.toInt_one]
  exact Int.bmod_eq_of_le (by omega) (by omega)

theorem sub_one_lt {p : Int32} (h : p ≠ Int32.minValue) : p - 1 < p := by
  rw [Int32.lt_iff_toInt_lt, toInt_sub_one h]
  omega

theorem le_add_one {p : Int32} (h : p ≠ Int32.maxValue) : p ≤ p + 1 := by
  rw [Int32.le_iff_toInt_le, toInt_add_one h]
  omega

theorem le_sub_one_iff {p q : Int32} (h : p ≠ Int32.minValue) : q ≤ p - 1 ↔ q < p := by
  rw [Int32.le_iff_toInt_le, Int32.lt_iff_toInt_lt, toInt_sub_one h]
  omega

namespace PipelineBuilder

open PipelineEntry (Precedes)

variable {κ σ : Type} [DecidableEq κ] {b : PipelineBuilder κ σ} {target kind : κ} {p : Int32}

def place? (b : PipelineBuilder κ σ) (kind : κ) : Option Nat :=
  b.entries.findIdx? (·.kind = kind)

theorem exists_place_eq_some (h : b.contains kind) : ∃ i e, b.place? kind = some i ∧
    b.entries[i]? = some e ∧ b.priorityOf? kind = some e.priority := by
  rw [contains, priorityOf?, Option.isSome_map, Option.isSome_iff_exists] at h
  obtain ⟨e, he⟩ := h
  obtain ⟨hkind, i, hi, rfl, hfirst⟩ := List.find?_eq_some_iff_getElem.1 he
  refine ⟨i, _, List.findIdx?_eq_some_iff_getElem.2 ⟨hi, hkind, fun j hj => ?_⟩,
    List.getElem?_eq_getElem hi, by rw [priorityOf?, he]; rfl⟩
  simpa using hfirst j hj

theorem priorityBefore_eq (h : b.priorityOf? target = some p) :
    b.priorityBefore target = if p = Int32.minValue then .error .overflow else .ok (p - 1) := by
  rw [priorityBefore, h]

theorem addBefore_eq {stage : σ} (h : b.priorityOf? target = some p) :
    b.addBefore target kind stage =
      if p = Int32.minValue then .error .overflow else .ok (b.add kind stage (p - 1)) := by
  rw [addBefore, priorityBefore_eq h]
  split <;> rfl

theorem addAfter_eq {stage : σ} (h : b.priorityOf? target = some p) :
    b.addAfter target kind stage =
      if p = Int32.maxValue then .error .overflow else .ok (b.add kind stage (p + 1)) := by
  rw [addAfter, priorityAfter, h]
  dsimp only
  split <;> rfl

section Added

variable {edit : BuilderEdit κ σ} {new : PipelineEntry κ σ} {x y : PipelineEntry κ σ × Nat}

/-- What is added runs behind what stays of its own priority and of lower ones, and before the rest. -/
theorem runsBefore_added_iff (hnew : edit.added? b = some new) (hx : x ∈ (b.edit edit).schedule)
    (hy : edit.origin? b x = some y) :
    ((b.edit edit).RunsBefore x.2 (edit.stays b).length ↔ y.1.priority ≤ new.priority) ∧
      ((b.edit edit).RunsBefore (edit.stays b).length x.2 ↔ new.priority < y.1.priority) := by
  have hplace : x.2 < (edit.stays b).length := (List.getElem?_eq_some_iff.1 hy).1
  have hentry := mem_schedule_iff.1 hx
  have hentry' : (b.edit edit).entries[(edit.stays b).length]? = some new := by
    rw [entries_edit, hnew, List.getElem?_append_right (by simp)]
    simp
  rw [((Traces.edit b edit).mem hx hy).2, runsBefore_iff_precedes hentry hentry',
    runsBefore_iff_precedes hentry' hentry]
  simp only [Precedes.iff_toInt, Int32.le_iff_toInt_le, Int32.lt_iff_toInt_lt]
  omega

end Added

section Beside

variable {stage : σ} {i : Nat} {anchor : PipelineEntry κ σ}

theorem runsBefore_add_iff (hanchor : b.entries[i]? = some anchor) :
    ((b.add kind stage p).RunsBefore i b.entries.length ↔ anchor.priority ≤ p) ∧
      ((b.add kind stage p).RunsBefore b.entries.length i ↔ p < anchor.priority) := by
  have hmem : (anchor, i) ∈ (b.edit (.add kind stage p)).schedule :=
    mem_schedule_iff.2 ((List.getElem?_append_left
      (List.getElem?_eq_some_iff.1 hanchor).1).trans hanchor)
  have horigin : (BuilderEdit.add kind stage p).origin? b (anchor, i) = some (anchor, i) := by
    rw [BuilderEdit.origin?, BuilderEdit.stays, List.getElem?_zipIdx, hanchor, Option.map_some,
      Nat.zero_add]
  have hadded := runsBefore_added_iff rfl hmem horigin
  rwa [show ((BuilderEdit.add kind stage p).stays b).length = b.entries.length from
    List.length_zipIdx] at hadded

/-- A stage is added beside the first-listed stage of a kind, with a priority one lower or one higher.
It is added and runs before that stage if and only if that one does not have the lowest priority there
is, and it is added and runs after it if and only if that one does not have the highest. Otherwise the
priority overflows, and the edit fails. -/
theorem anchored_stage_runs_beside_iff (b : PipelineBuilder κ σ) (target kind : κ) (stage : σ)
    (hcontains : b.contains target) :
    ∃ i anchor, b.place? target = some i ∧ b.entries[i]? = some anchor ∧
      ((∃ before, b.addBefore target kind stage = .ok before ∧
        before.entries = b.entries ++ [⟨anchor.priority - 1, kind, stage⟩] ∧
        before.RunsBefore b.entries.length i) ↔ anchor.priority ≠ Int32.minValue) ∧
      (b.addBefore target kind stage = .error .overflow ↔ anchor.priority = Int32.minValue) ∧
      ((∃ after, b.addAfter target kind stage = .ok after ∧
        after.entries = b.entries ++ [⟨anchor.priority + 1, kind, stage⟩] ∧
        after.RunsBefore i b.entries.length) ↔ anchor.priority ≠ Int32.maxValue) ∧
      (b.addAfter target kind stage = .error .overflow ↔ anchor.priority = Int32.maxValue) := by
  obtain ⟨i, anchor, hplace, hanchor, hpriority⟩ := exists_place_eq_some hcontains
  refine ⟨i, anchor, hplace, hanchor, ?_⟩
  rw [addBefore_eq hpriority, addAfter_eq hpriority]
  refine ⟨⟨?_, fun hlimit => ?_⟩, ⟨fun hfails => ?_, fun hlimit => if_pos hlimit⟩,
    ⟨?_, fun hlimit => ?_⟩, ⟨fun hfails => ?_, fun hlimit => if_pos hlimit⟩⟩
  · rintro ⟨before, hbefore, -⟩ hlimit
    rw [if_pos hlimit] at hbefore
    cases hbefore
  · exact ⟨_, if_neg hlimit, rfl, (runsBefore_add_iff hanchor).2.2 (sub_one_lt hlimit)⟩
  · by_contra hlimit
    rw [if_neg hlimit] at hfails
    cases hfails
  · rintro ⟨after, hafter, -⟩ hlimit
    rw [if_pos hlimit] at hafter
    cases hafter
  · exact ⟨_, if_neg hlimit, rfl, (runsBefore_add_iff hanchor).1.2 (le_add_one hlimit)⟩
  · by_contra hlimit
    rw [if_neg hlimit] at hfails
    cases hfails

/-- The stages go beside the first-listed stage of the kind, whatever else has its priority. -/
theorem anchored_stage_runs_beside_of_two_cleanups :
    let b := ((empty.add PassKind.operations (Stage.pass .operations) 5).add .cleanup
      (.pass .cleanup) 5).add .cleanup (.pass .cleanup) 0
    b.contains .cleanup ∧
      ∃ before after, b.addBefore .cleanup .fields (.pass (.fields none)) = .ok before ∧
        before.RunsBefore 3 1 ∧
        b.addAfter .cleanup .fields (.pass (.fields none)) = .ok after ∧
        after.RunsBefore 1 3 := by
  intro b
  obtain ⟨i, anchor, hplace, hanchor, hbefore, -, hafter, -⟩ :=
    anchored_stage_runs_beside_iff b .cleanup .fields (.pass (.fields none)) rfl
  obtain rfl : i = 1 := (Option.some.inj hplace).symm
  obtain rfl : anchor = ⟨5, .cleanup, .pass .cleanup⟩ := (Option.some.inj hanchor).symm
  obtain ⟨before, hbefore, -, hruns⟩ := hbefore.2 (by decide)
  obtain ⟨after, hafter, -, hruns'⟩ := hafter.2 (by decide)
  exact ⟨rfl, before, after, hbefore, hruns, hafter, hruns'⟩

/-- At the ends of the range nothing can be added beside a stage: there is no priority before the
lowest and none behind the highest. -/
theorem anchored_stage_overflows :
    let lowest := empty.add PassKind.cleanup (Stage.pass .cleanup) Int32.minValue
    let highest := empty.add PassKind.cleanup (Stage.pass .cleanup) Int32.maxValue
    lowest.contains .cleanup ∧
      lowest.addBefore .cleanup .operations (.pass .operations) = .error .overflow ∧
      highest.contains .cleanup ∧
      highest.addAfter .cleanup .operations (.pass .operations) = .error .overflow :=
  ⟨rfl, rfl, rfl, rfl⟩

end Beside

section Replaced

/-- The entry that an edit adds runs behind all others that ran before the one listed at a place, and
before all that ran behind that one. -/
def StandsAt (b : PipelineBuilder κ σ) (edit : BuilderEdit κ σ) (i : Nat) : Prop :=
  ∀ x ∈ (b.edit edit).schedule, ∀ y, edit.origin? b x = some y →
    (b.RunsBefore y.2 i → (b.edit edit).RunsBefore x.2 (edit.stays b).length) ∧
      (b.RunsBefore i y.2 → (b.edit edit).RunsBefore (edit.stays b).length x.2)

variable {stage : σ} {i : Nat} {old : PipelineEntry κ σ}

/-- All but the first-listed stage of the kind stay. -/
theorem mem_stays_replace {e : PipelineEntry κ σ} {j : Nat} (hplace : b.place? target = some i)
    (he : b.entries[j]? = some e) (hj : j < i) (priority : Option Int32) :
    (e, j) ∈ (BuilderEdit.replace target kind stage priority).stays b := by
  obtain ⟨hi, -, hfirst⟩ := List.findIdx?_eq_some_iff_getElem.1 hplace
  obtain ⟨hj', rfl⟩ := List.getElem?_eq_some_iff.1 he
  have hmem : (b.entries[j], j) ∈ b.entries.zipIdx := List.mk_mem_zipIdx_iff_getElem?.2 he
  rw [BuilderEdit.stays]
  split
  · rwa [List.mem_eraseP_of_neg (by simpa using hfirst j hj)]
  · exact hmem

/-- A stage in the place of another stands where the other stood just if the other was listed as the
first of its priority. -/
theorem standsAt_replace_iff (hplace : b.place? target = some i) (hold : b.entries[i]? = some old)
    (hpriority : b.priorityOf? target = some old.priority)
    (hlimit : old.priority ≠ Int32.minValue) :
    b.StandsAt (.replace target kind stage none) i ↔
      ∀ e ∈ b.entries.take i, e.priority ≠ old.priority := by
  have hadded : (BuilderEdit.replace target kind stage none).added? b =
      some ⟨old.priority - 1, kind, stage⟩ := by
    rw [BuilderEdit.added?, priorityBefore_eq hpriority, if_neg hlimit]
    rfl
  constructor
  · intro hstands e he heq
    obtain ⟨j, hj, rfl⟩ := List.mem_iff_getElem.1 he
    rw [List.length_take] at hj
    rw [List.getElem_take] at heq
    have hentry : b.entries[j]? = some b.entries[j] := List.getElem?_eq_getElem _
    have hstays : (b.entries[j], j) ∈ (BuilderEdit.replace target kind stage none).stays b :=
      mem_stays_replace hplace hentry (by omega) none
    obtain ⟨x, hx, horigin⟩ :=
      (mem_stays_iff (mem_schedule_of_mem_stays hstays)).1 (List.mem_map_of_mem hstays)
    have hbefore : b.RunsBefore j i := (runsBefore_iff_precedes hentry hold).2
      (Or.inr ⟨heq, by omega⟩)
    have hlower := (runsBefore_added_iff hadded hx horigin).1.1
      ((hstands x hx _ horigin).1 hbefore)
    rw [le_sub_one_iff hlimit, heq] at hlower
    exact Int32.lt_irrefl hlower
  · intro hfirst x hx y horigin
    have hentry := mem_schedule_iff.1 ((Traces.edit _ _).mem hx horigin).1
    rw [runsBefore_iff_precedes hentry hold, runsBefore_iff_precedes hold hentry,
      (runsBefore_added_iff hadded hx horigin).1, (runsBefore_added_iff hadded hx horigin).2,
      le_sub_one_iff hlimit]
    constructor
    · rintro (hlt | ⟨heq, hplace⟩)
      · exact hlt
      · have hmem : y.1 ∈ b.entries.take i :=
          List.mem_of_getElem? (by rwa [List.getElem?_take_of_lt hplace])
        exact absurd heq (hfirst _ hmem)
    · intro hprecedes
      exact Int32.lt_of_lt_of_le (sub_one_lt hlimit) hprecedes.priority_le

/-- The first-listed stage of a kind is dropped and another one is added, by default with a priority
one lower. Unless the priority is the lowest there is, the new stage runs behind all others that ran
before the old one and before all that ran behind it if and only if no stage listed before the old one
has the priority of the old one. -/
theorem replaced_stage_stands_iff (b : PipelineBuilder κ σ) (target kind : κ) (stage : σ)
    (hcontains : b.contains target) (hlimit : b.priorityOf? target ≠ some Int32.minValue) :
    ∃ i old, b.place? target = some i ∧ b.entries[i]? = some old ∧
      b.replace target kind stage none = .ok (b.edit (.replace target kind stage none)) ∧
      (b.edit (.replace target kind stage none)).entries =
        b.entries.eraseIdx i ++ [⟨old.priority - 1, kind, stage⟩] ∧
      (b.StandsAt (.replace target kind stage none) i ↔
        ∀ e ∈ b.entries.take i, e.priority ≠ old.priority) := by
  obtain ⟨i, old, hplace, hold, hpriority⟩ := exists_place_eq_some hcontains
  have hold' : old.priority ≠ Int32.minValue := fun hmin => hlimit (by rw [hpriority, hmin])
  have hreplace : b.replace target kind stage none =
      .ok (add ⟨b.entries.eraseP (·.kind = target)⟩ kind stage (old.priority - 1)) := by
    rw [replace, priorityBefore_eq hpriority, if_neg hold']
    rfl
  have hedit : b.edit (.replace target kind stage none) =
      add ⟨b.entries.eraseP (·.kind = target)⟩ kind stage (old.priority - 1) := by
    rw [PipelineBuilder.edit, BuilderEdit.apply, hreplace]
  refine ⟨i, old, hplace, hold, by rw [hedit, hreplace], ?_,
    standsAt_replace_iff hplace hold hpriority hold'⟩
  rw [place?] at hplace
  rw [hedit, add, List.eraseP_eq_eraseIdx, hplace]

/-- Stages of the same priority that are listed behind the old one still run behind the new one. -/
theorem replaced_stage_stands_among_equals :
    let b := ((empty.add PassKind.validation (Stage.pass (.validation none)) 30).add .fields
      (.pass (.fields none)) 20).add .cleanup (.pass .cleanup) 20
    b.contains .fields ∧ b.priorityOf? .fields ≠ some Int32.minValue ∧
      b.StandsAt (.replace .fields .operations (.pass .operations) none) 1 := by
  intro b
  have hlimit : b.priorityOf? .fields ≠ some Int32.minValue := by decide
  obtain ⟨i, old, hplace, hold, -, -, hiff⟩ :=
    replaced_stage_stands_iff b .fields .operations (.pass .operations) rfl hlimit
  obtain rfl : i = 1 := (Option.some.inj hplace).symm
  obtain rfl : old = ⟨20, .fields, .pass (.fields none)⟩ := (Option.some.inj hold).symm
  exact ⟨rfl, hlimit, hiff.2 (by simp [b, empty, add])⟩

/-- A stage that ran before another of the same priority runs after the one in the place of that. -/
theorem replaced_stage_overtakes :
    let b := (empty.add PassKind.cleanup (Stage.pass .cleanup) 5).add .fields
      (.pass (.fields none)) 5
    b.build.names = ["CleanupQueryVisitor", "FieldResolverVisitor"] ∧
      (∃ replaced, b.replace .fields .operations (.pass .operations) none = .ok replaced ∧
        replaced.build.names = ["AssignOperationTypeVisitor", "CleanupQueryVisitor"]) ∧
      ¬ b.StandsAt (.replace .fields .operations (.pass .operations) none) 1 := by
  intro b
  refine ⟨rfl, ⟨_, rfl, rfl⟩, fun hstands => ?_⟩
  have hafter := (hstands (⟨5, .cleanup, .pass .cleanup⟩, 0) (mem_schedule_iff.2 rfl)
    (⟨5, .cleanup, .pass .cleanup⟩, 0) rfl).1 ((runsBefore_iff_precedes rfl rfl).2 (by decide))
  exact absurd ((runsBefore_iff_precedes rfl rfl).1 hafter) (by decide)

end Replaced

end PipelineBuilder

end SearchQuery
