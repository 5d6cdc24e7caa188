import Mathlib.Data.List.Perm.Subperm
import SearchQuery.Proofs.Query.Numbers

/-!
# Another tree in the place of a node

`find` gives the part of a tree at a node, and `replace` puts another tree in its place. Where no number
occurs twice, the part found at a node put back is the tree as it was, `replace_find`, and what is put
inside what has been put is put inside the whole, `replace_replace_of_mem`.
-/

namespace SearchQuery.Tree

variable {id : NodeId} {t : Tree}

@[simp] theorem id?_nil : nil.id? = none := rfl

theorem id?_eq_none_iff : t.id? = none ↔ t = nil := by
  cases t <;> simp [id?]

theorem find_of_notMem (h : id ∉ t.ids) : t.find id = nil := by
  induction t with
  | nil => rfl
  | leaf i a l => rw [find, if_neg fun heq => h (by simp [ids, heq])]
  | group i a g l r ihl ihr =>
      simp only [ids, List.mem_cons, List.mem_append, not_or] at h
      rw [find, if_neg fun heq => h.1 heq.symm, ihl h.2.1, ihr h.2.2]

theorem replace_of_notMem (h : id ∉ t.ids) (new : Tree) : t.replace id new = t := by
  induction t with
  | nil => rfl
  | leaf i a l => rw [replace, if_neg fun heq => h (by simp [ids, heq])]
  | group i a g l r ihl ihr =>
      simp only [ids, List.mem_cons, List.mem_append, not_or] at h
      rw [replace, if_neg fun heq => h.1 heq.symm, ihl h.2.1, ihr h.2.2]

theorem replace_top (h : t.id? = some id) (new : Tree) : t.replace id new = new := by
  cases t with
  | nil => cases h
  | leaf => exact if_pos (Option.some.inj h)
  | group => exact if_pos (Option.some.inj h)

theorem id?_replace_of_ne (h : t.id? ≠ some id) (new : Tree) : (t.replace id new).id? = t.id? := by
  cases t with
  | nil => rfl
  | leaf => rw [replace, if_neg fun heq => h (congrArg some heq)]
  | group =>
      rw [replace, if_neg fun heq => h (congrArg some heq)]
      rfl

theorem id?_find (h : id ∈ t.ids) : (t.find id).id? = some id := by
  induction t with
  | nil => simp [ids] at h
  | leaf i a l =>
      rw [ids, List.mem_singleton] at h
      rw [find, if_pos h.symm, id?, h]
  | group i a g l r ihl ihr =>
      rw [find]
      split
      · next heq => rw [id?, heq]
      · next hne =>
          simp only [ids, List.mem_cons, List.mem_append] at h
          split
          · next hnil =>
              refine ihr ((h.resolve_left (Ne.symm hne)).resolve_left fun hl => ?_)
              simpa [hnil, id?] using ihl hl
          · by_cases hl : id ∈ l.ids
            · exact ihl hl
            · exact absurd (find_of_notMem hl) ‹_›

theorem find_group_left {i : NodeId} (hne : id ≠ i) {l : Tree} (hl : id ∈ l.ids) (a : Attributes)
    (g : Group) (r : Tree) : (group i a g l r).find id = l.find id := by
  rw [find, if_neg (Ne.symm hne)]
  split
  · next hnil => simpa [hnil, id?] using id?_find hl
  · rfl

theorem find_group_right {i : NodeId} (hne : id ≠ i) {l : Tree} (hl : id ∉ l.ids) (a : Attributes)
    (g : Group) (r : Tree) : (group i a g l r).find id = r.find id := by
  rw [find, if_neg (Ne.symm hne), find_of_notMem hl]

theorem ids_find_sublist (id : NodeId) (t : Tree) : (t.find id).ids.Sublist t.ids := by
  induction t with
  | nil => exact .refl _
  | leaf i a l =>
      rw [find]
      split
      · exact .refl _
      · exact List.nil_sublist _
  | group i a g l r ihl ihr =>
      rw [find]
      split
      · exact .refl _
      · split
        · exact (ihr.trans (List.sublist_append_right _ _)).cons i
        · exact (ihl.trans (List.sublist_append_left _ _)).cons i

theorem find_top (h : t.id? = some id) : t.find id = t := by
  cases t with
  | nil => cases h
  | leaf => exact if_pos (Option.some.inj h)
  | group => exact if_pos (Option.some.inj h)

/-- The numbers of a tree that has come into the place of a node are in the whole. -/
theorem mem_ids_replace (h : id ∈ t.ids) {new : Tree} {x : NodeId} (hx : x ∈ new.ids) :
    x ∈ (t.replace id new).ids := by
  induction t with
  | nil => cases h
  | leaf i a l =>
      rw [ids, List.mem_singleton] at h
      rwa [replace, if_pos h.symm]
  | group i a g l r ihl ihr =>
      rw [replace]
      split
      · exact hx
      · next hi =>
          rw [ids, List.mem_cons, List.mem_append] at h ⊢
          exact .inr ((h.resolve_left (Ne.symm hi)).imp ihl ihr)

section Inside

variable {new : Tree} {x : NodeId} (hnodup : t.ids.Nodup) (h : id ∈ t.ids)
  (hnew : (t.replace id new).ids.Nodup) (hx : x ∈ new.ids)

include hnodup h hnew hx

/-- What is found in a tree that has come into the place of a node is found in the whole. -/
theorem find_replace_of_mem : (t.replace id new).find x = new.find x := by
  induction t with
  | nil => cases h
  | leaf i a l =>
      rw [ids, List.mem_singleton] at h
      rw [replace, if_pos h.symm]
  | group i a g l r ihl ihr =>
      by_cases hi : i = id
      · rw [replace, if_pos hi]
      · rw [ids, List.nodup_cons, List.nodup_append] at hnodup
        obtain ⟨-, hndl, hndr, hdisjoint⟩ := hnodup
        rw [ids, List.mem_cons, List.mem_append] at h
        rw [replace, if_neg hi] at hnew ⊢
        rw [ids, List.nodup_cons, List.mem_append, not_or, List.nodup_append] at hnew
        obtain ⟨⟨hil, hir⟩, hnewl, hnewr, hapart⟩ := hnew
        rcases h.resolve_left (Ne.symm hi) with hl | hr
        · have hmem := mem_ids_replace hl hx
          rw [find_group_left (ne_of_mem_of_not_mem hmem hil) hmem, ihl hndl hl hnewl]
        · have hmem := mem_ids_replace hr hx
          have hxl : x ∉ (l.replace id new).ids := fun hxl => hapart x hxl x hmem rfl
          rw [find_group_right (ne_of_mem_of_not_mem hmem hir) hxl, ihr hndr hr hnewr]

/-- A tree that has come into the place of a node is changed where it is. -/
theorem replace_replace_of_mem (newer : Tree) :
    (t.replace id new).replace x newer = t.replace id (new.replace x newer) := by
  induction t with
  | nil => cases h
  | leaf i a l =>
      rw [ids, List.mem_singleton] at h
      rw [replace, if_pos h.symm, replace, if_pos h.symm]
  | group i a g l r ihl ihr =>
      by_cases hi : i = id
      · rw [replace, if_pos hi, replace, if_pos hi]
      · rw [ids, List.nodup_cons, List.nodup_append] at hnodup
        obtain ⟨-, hndl, hndr, hdisjoint⟩ := hnodup
        rw [ids, List.mem_cons, List.mem_append] at h
        rw [replace, if_neg hi] at hnew ⊢
        rw [ids, List.nodup_cons, List.mem_append, not_or, List.nodup_append] at hnew
        obtain ⟨⟨hil, hir⟩, hnewl, hnewr, hapart⟩ := hnew
        rcases h.resolve_left (Ne.symm hi) with hl | hr
        · have hmem := mem_ids_replace hl hx
          have hr : id ∉ r.ids := fun hr => hdisjoint id hl id hr rfl
          have hxr : x ∉ r.ids := fun hxr =>
            hapart x hmem x ((replace_of_notMem hr new).symm ▸ hxr) rfl
          rw [replace, if_neg (ne_of_mem_of_not_mem hmem hil).symm, ihl hndl hl hnewl,
            replace_of_notMem hr, replace_of_notMem hxr, replace, if_neg hi, replace_of_notMem hr]
        · have hmem := mem_ids_replace hr hx
          have hl : id ∉ l.ids := fun hl => hdisjoint id hl id hr rfl
          have hxl : x ∉ l.ids := fun hxl =>
            hapart x ((replace_of_notMem hl new).symm ▸ hxl) x hmem rfl
          rw [replace, if_neg (ne_of_mem_of_not_mem hmem hir).symm, ihr hndr hr hnewr,
            replace_of_notMem hl, replace_of_notMem hxl, replace, if_neg hi, replace_of_notMem hl]

end Inside

theorem replace_find (hnodup : t.ids.Nodup) (h : id ∈ t.ids) : t.replace id (t.find id) = t := by
  induction t with
  | nil => cases h
  | leaf i a l =>
      rw [ids, List.mem_singleton] at h
      rw [replace, if_pos h.symm, find, if_pos h.symm]
  | group i a g l r ihl ihr =>
      by_cases hi : i = id
      · rw [replace, if_pos hi, find, if_pos hi]
      · rw [ids, List.nodup_cons, List.nodup_append] at hnodup
        obtain ⟨-, hndl, hndr, hdisjoint⟩ := hnodup
        rw [ids, List.mem_cons, List.mem_append] at h
        rw [replace, if_neg hi]
        by_cases hl : id ∈ l.ids
        · have hr : id ∉ r.ids := fun hr => hdisjoint id hl id hr rfl
          rw [find_group_left (Ne.symm hi) hl, ihl hndl hl, replace_of_notMem hr]
        · rw [find_group_right (Ne.symm hi) hl, replace_of_notMem hl,
            ihr hndr ((h.resolve_left (Ne.symm hi)).resolve_left hl)]

end SearchQuery.Tree
