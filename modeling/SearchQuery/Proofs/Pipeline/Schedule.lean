import Mathlib.Data.List.Induction
import Mathlib.Data.List.Nodup
import SearchQuery.Pipeline

/-!
# The order stages run in

Two stages of a builder can be equal in everything but the place they were listed at, so the order they
run in is a list of entries with their places, `PipelineBuilder.schedule`: those of lower priority come
first, and of equal priorities the one listed earlier. It is the only such list,
`PipelineBuilder.eq_schedule`, and without the places it is the pipeline that is built,
`PipelineBuilder.map_fst_schedule`.
-/

namespace SearchQuery

variable {κ σ : Type}

namespace PipelineEntry

def Precedes (x y : PipelineEntry κ σ × Nat) : Prop :=
  x.1.priority < y.1.priority ∨ x.1.priority = y.1.priority ∧ x.2 < y.2

instance : DecidableRel (@Precedes κ σ) :=
  fun x y => inferInstanceAs (Decidable (x.1.priority < y.1.priority ∨ _ ∧ _))

namespace Precedes

variable {x y z : PipelineEntry κ σ × Nat}

theorem iff_toInt : Precedes x y ↔ x.1.priority.toInt < y.1.priority.toInt ∨
    x.1.priority.toInt = y.1.priority.toInt ∧ x.2 < y.2 := by
  rw [Precedes, Int32.lt_iff_toInt_lt, Int32.toInt_inj]

theorem asymm (h : Precedes x y) : ¬ Precedes y x := by
  rw [iff_toInt] at h ⊢
  omega

theorem of_not (h : ¬ Precedes y x) (hplace : x.2 ≠ y.2) : Precedes x y := by
  rw [iff_toInt] at h ⊢
  omega

theorem priority_le (h : Precedes x y) : x.1.priority ≤ y.1.priority := by
  rw [iff_toInt] at h
  rw [Int32.le_iff_toInt_le]
  omega

theorem of_priority_le (h : x.1.priority ≤ y.1.priority) (hplace : x.2 < y.2) : Precedes x y := by
  rw [Int32.le_iff_toInt_le] at h
  rw [iff_toInt]
  omega

end Precedes

theorem exists_place_eq (e : PipelineEntry κ σ) {sorted : List (PipelineEntry κ σ)}
    (hsorted : sorted.Pairwise fun x y => x.priority ≤ y.priority) :
    ∃ front back, sorted = front ++ back ∧ e.place sorted = front ++ e :: back ∧
      (∀ x ∈ front, x.priority ≤ e.priority) ∧ ∀ x ∈ back, e.priority < x.priority := by
  induction sorted with
  | nil => exact ⟨[], [], rfl, rfl, by simp, by simp⟩
  | cons first rest ih =>
      obtain ⟨hfirst, hrest⟩ := List.pairwise_cons.1 hsorted
      rw [place]
      split
      · next hlt =>
          refine ⟨[], first :: rest, rfl, rfl, by simp, fun x hx => ?_⟩
          rcases List.mem_cons.1 hx with rfl | hx
          · exact hlt
          · exact Int32.lt_of_lt_of_le hlt (hfirst x hx)
      · next hle =>
          obtain ⟨front, back, rfl, hplace, hfront, hback⟩ := ih hrest
          refine ⟨first :: front, back, rfl, by rw [hplace]; rfl, fun x hx => ?_, hback⟩
          rcases List.mem_cons.1 hx with rfl | hx
          · exact Int32.not_lt.1 hle
          · exact hfront x hx

/-- Sorting puts the entries in order without losing sight of their places. -/
theorem exists_map_fst_eq_sort (entries : List (PipelineEntry κ σ)) :
    ∃ numbered : List (PipelineEntry κ σ × Nat), numbered.map (·.1) = sort entries ∧
      numbered.Perm entries.zipIdx ∧ numbered.Pairwise Precedes := by
  induction entries using List.reverseRecOn with
  | nil => exact ⟨[], rfl, List.Perm.refl _, List.Pairwise.nil⟩
  | append_singleton entries e ih =>
      obtain ⟨numbered, hmap, hperm, hpairwise⟩ := ih
      have hsorted : (sort entries).Pairwise fun x y => x.priority ≤ y.priority := by
        rw [← hmap, List.pairwise_map]
        exact hpairwise.imp Precedes.priority_le
      obtain ⟨front, back, hsort, hplace, hfront, hback⟩ := exists_place_eq e hsorted
      rw [hsort] at hmap
      obtain ⟨numberedFront, numberedBack, rfl, rfl, rfl⟩ := List.map_eq_append_iff.1 hmap
      have hplaces : ∀ x ∈ numberedFront, x.2 < entries.length := by
        intro x hx
        have hmem := hperm.subset (List.mem_append_left _ hx)
        exact (List.getElem?_eq_some_iff.1 (List.mk_mem_zipIdx_iff_getElem?.1 hmem)).1
      refine ⟨numberedFront ++ (e, entries.length) :: numberedBack, ?_, ?_, ?_⟩
      · rw [sort, List.foldl_concat, ← sort, hplace, List.map_append, List.map_cons]
      · rw [List.zipIdx_append, List.zipIdx_singleton, Nat.zero_add]
        exact List.perm_middle.trans ((hperm.cons _).trans (List.perm_append_singleton _ _).symm)
      · rw [List.pairwise_append] at hpairwise ⊢
        obtain ⟨hfrontPairwise, hbackPairwise, hacross⟩ := hpairwise
        refine ⟨hfrontPairwise, List.pairwise_cons.2 ⟨fun y hy => ?_, hbackPairwise⟩,
          fun x hx y hy => ?_⟩
        · exact Or.inl (hback _ (List.mem_map_of_mem hy))
        · rcases List.mem_cons.1 hy with rfl | hy
          · exact Precedes.of_priority_le (hfront _ (List.mem_map_of_mem hx)) (hplaces x hx)
          · exact hacross x hx y hy

end PipelineEntry

namespace PipelineBuilder

open PipelineEntry (Precedes)

variable {b : PipelineBuilder κ σ}

/-- The entries in the order they run in, each with the place it was listed at. -/
def schedule (b : PipelineBuilder κ σ) : List (PipelineEntry κ σ × Nat) :=
  b.entries.zipIdx.mergeSort fun x y => ¬ Precedes y x

theorem perm_schedule (b : PipelineBuilder κ σ) : b.schedule.Perm b.entries.zipIdx :=
  List.mergeSort_perm _ _

theorem mem_schedule_iff {x : PipelineEntry κ σ × Nat} :
    x ∈ b.schedule ↔ b.entries[x.2]? = some x.1 := by
  rw [b.perm_schedule.mem_iff, List.mem_zipIdx_iff_getElem?]

theorem nodup_map_snd_schedule (b : PipelineBuilder κ σ) : (b.schedule.map (·.2)).Nodup := by
  rw [(b.perm_schedule.map _).nodup_iff, List.zipIdx_map_snd]
  exact List.nodup_range'

theorem pairwise_schedule (b : PipelineBuilder κ σ) : b.schedule.Pairwise Precedes := by
  have hsorted : b.schedule.Pairwise fun x y => ¬ Precedes y x := by
    refine (List.pairwise_mergeSort (fun x y z hxy hyz => ?_) (fun x y => ?_) _).imp
      of_decide_eq_true
    · simp only [Precedes.iff_toInt, decide_eq_true_eq] at hxy hyz ⊢
      omega
    · simp only [Precedes.iff_toInt, Bool.or_eq_true, decide_eq_true_eq]
      omega
  have hplaces := b.nodup_map_snd_schedule
  rw [List.Nodup, List.pairwise_map] at hplaces
  exact hsorted.imp₂ (fun _ _ => Precedes.of_not) hplaces

theorem eq_schedule {numbered : List (PipelineEntry κ σ × Nat)}
    (hperm : numbered.Perm b.entries.zipIdx) (hpairwise : numbered.Pairwise Precedes) :
    numbered = b.schedule :=
  (hperm.trans b.perm_schedule.symm).eq_of_pairwise
    (fun _ _ _ _ h h' => absurd h' h.asymm) hpairwise b.pairwise_schedule

theorem map_fst_schedule (b : PipelineBuilder κ σ) : b.schedule.map (·.1) = b.build.entries := by
  obtain ⟨numbered, hmap, hperm, hpairwise⟩ := PipelineEntry.exists_map_fst_eq_sort b.entries
  rw [← eq_schedule hperm hpairwise, hmap, build]

section Running

variable {i j : Nat}

/-- The entry listed at one place runs before the one listed at another. -/
def RunsBefore (b : PipelineBuilder κ σ) (i j : Nat) : Prop :=
  [i, j].Sublist (b.schedule.map (·.2))

theorem runsBefore_iff : b.RunsBefore i j ↔
    ∃ e f, b.entries[i]? = some e ∧ b.entries[j]? = some f ∧ Precedes (e, i) (f, j) := by
  constructor
  · intro h
    have hpairwise : (b.schedule.map (·.2)).Pairwise fun i j =>
        ∃ e f, b.entries[i]? = some e ∧ b.entries[j]? = some f ∧ Precedes (e, i) (f, j) := by
      refine List.pairwise_map.2 (b.pairwise_schedule.imp_of_mem fun {x y} hx hy hprecedes => ?_)
      exact ⟨x.1, y.1, mem_schedule_iff.1 hx, mem_schedule_iff.1 hy, hprecedes⟩
    exact List.pairwise_iff_forall_sublist.1 hpairwise h
  · rintro ⟨e, f, he, hf, hprecedes⟩
    obtain ⟨front, back, hsplit⟩ := List.append_of_mem (mem_schedule_iff (x := (e, i)).2 he)
    have hmem := mem_schedule_iff (x := (f, j)).2 hf
    have hpairwise := b.pairwise_schedule
    rw [hsplit] at hmem hpairwise
    -- the second entry is not found in front of the first, nor is it the first
    have hback : (f, j) ∈ back := by
      rcases List.mem_append.1 hmem with hfront | hmem
      · exact absurd ((List.pairwise_append.1 hpairwise).2.2 _ hfront _ List.mem_cons_self)
          hprecedes.asymm
      · rcases List.mem_cons.1 hmem with heq | hback
        · rw [heq] at hprecedes
          exact absurd hprecedes hprecedes.asymm
        · exact hback
    have hplace : j ∈ back.map (·.2) := List.mem_map.2 ⟨_, hback, rfl⟩
    rw [RunsBefore, hsplit, List.map_append, List.map_cons]
    exact ((List.singleton_sublist.2 hplace).cons_cons i).trans (List.sublist_append_right _ _)

theorem runsBefore_iff_precedes {e f : PipelineEntry κ σ} (he : b.entries[i]? = some e)
    (hf : b.entries[j]? = some f) : b.RunsBefore i j ↔ Precedes (e, i) (f, j) := by
  rw [runsBefore_iff]
  constructor
  · rintro ⟨e', f', he', hf', hprecedes⟩
    obtain rfl := Option.some.inj (he.symm.trans he')
    obtain rfl := Option.some.inj (hf.symm.trans hf')
    exact hprecedes
  · exact fun hprecedes => ⟨e, f, he, hf, hprecedes⟩

end Running

end PipelineBuilder

end SearchQuery
