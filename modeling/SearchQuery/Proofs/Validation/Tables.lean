import Mathlib.Data.List.Nodup
import SearchQuery.Names

/-!
# What a table of names files

`NameTable.Files` says which names a table files under which. Adding and uniting tables adds to
what is filed and nothing else, whatever order the rows are in; `NameTable.Tidy` tables have one
row for each name they file something under, in increasing order, so that looking a name up finds
all that is filed under it.
-/

namespace SearchQuery

/-- What a step adds if it hits is there after all steps if it was there before them or one of them
hits. -/
theorem foldl_iff {σ α : Type} {step : σ → α → σ} {p : σ → Prop} {hit : α → Prop}
    (hstep : ∀ s a, p (step s a) ↔ p s ∨ hit a) (as : List α) (s : σ) :
    p (as.foldl step s) ↔ p s ∨ ∃ a ∈ as, hit a := by
  induction as generalizing s with
  | nil => simp
  | cons a as ih =>
      simp only [List.foldl_cons, ih, hstep, or_assoc, List.mem_cons, exists_eq_or_imp]

theorem foldl_keeps {σ α : Type} {step : σ → α → σ} {p : σ → Prop} {as : List α}
    (hstep : ∀ s, ∀ a ∈ as, p s → p (step s a)) {s : σ} (hs : p s) : p (as.foldl step s) := by
  induction as generalizing s with
  | nil => exact hs
  | cons a as ih =>
      have hrest : ∀ s, ∀ b ∈ as, p s → p (step s b) := fun s b hb =>
        hstep s b (List.mem_cons_of_mem a hb)
      exact ih hrest (hstep s a List.mem_cons_self hs)

namespace NameTable

def Files (t : NameTable) (key name : String) : Prop :=
  ∃ row ∈ t.rows, row.1 = key ∧ name ∈ row.2

variable {t u : NameTable} {key key' name : String} {names : List String}

@[simp] theorem not_files_empty : ¬ empty.Files key name := by
  rintro ⟨row, hrow, -⟩
  cases hrow

theorem files_cons {first : String} {row : NameSet} {rest : List (String × NameSet)} :
    Files ⟨(first, row) :: rest⟩ key name ↔ (first = key ∧ name ∈ row) ∨ Files ⟨rest⟩ key name := by
  simp only [Files, List.mem_cons, exists_eq_or_imp]

theorem files_add : (t.add key names).Files key' name ↔
    t.Files key' name ∨ (key' = key ∧ name ∈ names) := by
  obtain ⟨rows⟩ := t
  rw [add]
  dsimp only
  induction rows with
  | nil => rw [addRow, files_cons, NameSet.mem_ofList, or_comm, eq_comm]
  | cons row rest ih =>
      obtain ⟨first, row⟩ := row
      rw [addRow]
      split
      · rw [files_cons, NameSet.mem_ofList, or_comm, eq_comm]
      · split
        · next h =>
            subst h
            rw [files_cons, files_cons, NameSet.mem_insertMany, and_or_left, or_assoc, or_comm,
              eq_comm]
        · rw [files_cons, files_cons, ih, or_assoc]

theorem mem_keys_add : key' ∈ (t.add key names).keys ↔ key' = key ∨ key' ∈ t.keys := by
  obtain ⟨rows⟩ := t
  rw [add, keys, keys]
  dsimp only
  induction rows with
  | nil => simp [addRow]
  | cons row rest ih =>
      obtain ⟨first, row⟩ := row
      rw [addRow]
      split
      · simp
      · split
        · next h => subst h; simp
        · simp only [List.map_cons, List.mem_cons, ih]
          exact or_left_comm

theorem files_union : (t.union u).Files key name ↔ t.Files key name ∨ u.Files key name := by
  have hstep : ∀ (t : NameTable) (row : String × NameSet),
      (t.add row.1 row.2.names).Files key name ↔
        t.Files key name ∨ (key = row.1 ∧ name ∈ row.2.names) := fun _ _ => files_add
  have hunion := foldl_iff (p := fun t : NameTable => t.Files key name) hstep u.rows t
  refine hunion.trans (or_congr_right ?_)
  simp only [Files, NameSet.mem_iff, eq_comm]

theorem mem_keys_union : key ∈ (t.union u).keys ↔ key ∈ t.keys ∨ key ∈ u.keys := by
  have hstep : ∀ (t : NameTable) (row : String × NameSet),
      key ∈ (t.add row.1 row.2.names).keys ↔ key ∈ t.keys ∨ key = row.1 :=
    fun _ _ => mem_keys_add.trans or_comm
  have hunion := foldl_iff (p := fun t : NameTable => key ∈ t.keys) hstep u.rows t
  refine hunion.trans (or_congr_right ?_)
  simp only [keys, List.mem_map, eq_comm]

/-- One row for each name that something is filed under, in increasing order. -/
structure Tidy (t : NameTable) : Prop where
  increasing : t.keys.Pairwise (· < ·)
  inhabited : ∀ key ∈ t.keys, ∃ name, t.Files key name

theorem Tidy.mem_keys_iff (h : t.Tidy) : key ∈ t.keys ↔ ∃ name, t.Files key name := by
  refine ⟨h.inhabited key, ?_⟩
  rintro ⟨name, row, hrow, rfl, -⟩
  exact List.mem_map_of_mem hrow

theorem tidy_empty : empty.Tidy :=
  ⟨.nil, fun _ h => nomatch h⟩

theorem increasing_add (h : t.keys.Pairwise (· < ·)) : (t.add key names).keys.Pairwise (· < ·) := by
  obtain ⟨rows⟩ := t
  rw [add, keys]
  rw [keys] at h
  dsimp only at h ⊢
  induction rows with
  | nil => exact List.pairwise_singleton _ _
  | cons row rest ih =>
      obtain ⟨first, row⟩ := row
      obtain ⟨hfirst, hrest⟩ := List.pairwise_cons.1 h
      rw [addRow]
      split
      · next hlt =>
          refine List.pairwise_cons.2 ⟨fun x hx => ?_, h⟩
          rcases List.mem_cons.1 hx with rfl | hx
          · exact hlt
          · exact String.lt_trans hlt (hfirst x hx)
      · next hlt =>
          split
          · exact h
          · next hne =>
              refine List.pairwise_cons.2 ⟨fun x hx => ?_, ih hrest⟩
              rcases (mem_keys_add (t := ⟨rest⟩)).1 hx with rfl | hx
              · exact String.not_le.1 fun hle => hne (String.le_antisymm hle (String.not_lt.1 hlt))
              · exact hfirst x hx

theorem Tidy.add (h : t.Tidy) (hnames : names ≠ []) : (t.add key names).Tidy where
  increasing := increasing_add h.increasing
  inhabited key' hkey' := by
    rcases mem_keys_add.1 hkey' with rfl | hkey'
    · obtain ⟨name, hname⟩ := List.exists_mem_of_ne_nil names hnames
      exact ⟨name, files_add.2 (.inr ⟨rfl, hname⟩)⟩
    · obtain ⟨name, hname⟩ := h.inhabited key' hkey'
      exact ⟨name, files_add.2 (.inl hname)⟩

theorem Tidy.eq_of_mem (h : t.Tidy) {row row' : NameSet} (hrow : (key, row) ∈ t.rows)
    (hrow' : (key, row') ∈ t.rows) : row = row' := by
  have hnodup : (t.rows.map (·.1)).Nodup := h.increasing.imp String.ne_of_lt
  exact (Prod.mk.inj (List.inj_on_of_nodup_map hnodup hrow hrow' rfl)).2

theorem Tidy.union (h : t.Tidy) (hu : u.Tidy) : (t.union u).Tidy := by
  refine foldl_keeps (p := Tidy) (fun t row hrow ht => ht.add fun hnil => ?_) h
  obtain ⟨key, row⟩ := row
  obtain ⟨name, ⟨_, row'⟩, hrow', rfl, hname⟩ := hu.inhabited key (List.mem_map_of_mem hrow)
  rw [hu.eq_of_mem hrow' hrow, NameSet.mem_iff, hnil] at hname
  cases hname

theorem Tidy.mem_iff (h : t.Tidy) {row : NameSet} (hrow : (key, row) ∈ t.rows) :
    name ∈ row ↔ t.Files key name := by
  constructor
  · exact fun hname => ⟨_, hrow, rfl, hname⟩
  · rintro ⟨⟨_, row'⟩, hrow', rfl, hname⟩
    exact h.eq_of_mem hrow hrow' ▸ hname

theorem Tidy.rows_subset (h : t.Tidy) (hu : u.Tidy)
    (hfiles : ∀ key name, t.Files key name ↔ u.Files key name) : t.rows ⊆ u.rows := by
  rintro ⟨key, row⟩ hrow
  obtain ⟨name, hname⟩ := h.inhabited key (List.mem_map_of_mem hrow)
  obtain ⟨⟨_, row'⟩, hrow', rfl, -⟩ := (hfiles key name).1 hname
  obtain rfl : row = row' := NameSet.ext fun name => by
    rw [h.mem_iff hrow, hu.mem_iff hrow', hfiles]
  exact hrow'

theorem Tidy.ext (h : t.Tidy) (hu : u.Tidy)
    (hfiles : ∀ key name, t.Files key name ↔ u.Files key name) : t = u := by
  have hperm : t.rows.Perm u.rows :=
    (List.perm_ext_iff_of_nodup (.of_map _ (h.increasing.imp String.ne_of_lt))
      (.of_map _ (hu.increasing.imp String.ne_of_lt))).2 fun _ =>
        ⟨(h.rows_subset hu hfiles ·), (hu.rows_subset h (fun key name => (hfiles key name).symm) ·)⟩
  obtain ⟨rows⟩ := t
  obtain ⟨rows'⟩ := u
  congr
  refine hperm.eq_of_pairwise (fun row row' _ _ hlt hlt' => ?_) (List.pairwise_map.1 h.increasing)
    (List.pairwise_map.1 hu.increasing)
  exact absurd (String.lt_trans hlt hlt') (String.lt_irrefl _)

theorem Tidy.exists_get?_iff (h : t.Tidy) :
    (∃ row, t.get? key = some row ∧ name ∈ row) ↔ t.Files key name := by
  have hmem : ∀ {row}, t.get? key = some row → (key, row) ∈ t.rows := by
    intro row hrow
    obtain ⟨before, after, hrows, -⟩ := List.lookup_eq_some_iff.1 hrow
    exact hrows ▸ List.mem_append_right before List.mem_cons_self
  constructor
  · rintro ⟨row, hrow, hname⟩
    exact ⟨_, hmem hrow, rfl, hname⟩
  · rintro ⟨⟨key', row⟩, hrow, heq, hname⟩
    obtain rfl : key' = key := heq
    cases hget : t.get? key' with
    | none => exact absurd rfl (bne_iff_ne.1 (List.lookup_eq_none_iff.1 hget _ hrow))
    | some row' => exact ⟨row', rfl, h.eq_of_mem (hmem hget) hrow ▸ hname⟩

end NameTable

end SearchQuery
