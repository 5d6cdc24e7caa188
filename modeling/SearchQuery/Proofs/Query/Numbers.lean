import Mathlib.Data.List.Nodup
import Mathlib.Data.List.Perm.Basic
import SearchQuery.Query.Printer

/-!
# The numbers of a tree that a pass has changed

A pass that makes nodes numbers them from some number on and hands the first one not used on to
what it does next. `Extends` says that all went well: the numbers are those of before and, each
once, those handed out.
-/

namespace SearchQuery.Tree

def Extends (old new : List Nat) (next after : Nat) : Prop :=
  ∃ count, after = next + count ∧ new.Perm (old ++ List.range' next count)

namespace Extends

variable {old new old' new' : List Nat} {next middle after : Nat}

theorem refl (ids : List Nat) (next : Nat) : Extends ids ids next next :=
  ⟨0, rfl, by simp⟩

theorem le (h : Extends old new next after) : next ≤ after := by
  obtain ⟨count, rfl, -⟩ := h
  exact Nat.le_add_right next count

theorem mem_iff (h : Extends old new next after) {x : Nat} :
    x ∈ new ↔ x ∈ old ∨ next ≤ x ∧ x < after := by
  obtain ⟨count, rfl, hperm⟩ := h
  rw [hperm.mem_iff, List.mem_append, List.mem_range'_1]

theorem nodup (h : Extends old new next after) (hold : old.Nodup) (hlt : ∀ x ∈ old, x < next) :
    new.Nodup := by
  obtain ⟨count, rfl, hperm⟩ := h
  rw [hperm.nodup_iff, List.nodup_append]
  refine ⟨hold, List.nodup_range', ?_⟩
  rintro x hx y hy rfl
  have := hlt x hx
  have := (List.mem_range'_1.1 hy).1
  omega

/-- In whichever order the old numbers are counted. -/
theorem of_perm (h : Extends old new next after) (hperm : old.Perm old') :
    Extends old' new next after := by
  obtain ⟨count, rfl, hnew⟩ := h
  exact ⟨count, rfl, hnew.trans (hperm.append_right _)⟩

theorem trans {newer : List Nat} (h : Extends old new next middle)
    (h' : Extends new newer middle after) : Extends old newer next after := by
  obtain ⟨count, rfl, hnew⟩ := h
  obtain ⟨count', rfl, hnewer⟩ := h'
  refine ⟨count + count', Nat.add_assoc .., ?_⟩
  rw [← List.range'_append_1, ← List.append_assoc]
  exact hnewer.trans (hnew.append_right _)

theorem append (h : Extends old new next middle) (h' : Extends old' new' middle after) :
    Extends (old ++ old') (new ++ new') next after := by
  obtain ⟨count, rfl, hperm⟩ := h
  obtain ⟨count', rfl, hperm'⟩ := h'
  refine ⟨count + count', Nat.add_assoc .., ?_⟩
  rw [← List.range'_append_1]
  have hswap : (List.range' next count ++ (old' ++ List.range' (next + count) count')).Perm
      (old' ++ (List.range' next count ++ List.range' (next + count) count')) :=
    List.perm_append_comm_assoc ..
  rw [List.append_assoc]
  refine (hperm.append hperm').trans ?_
  rw [List.append_assoc]
  exact hswap.append_left old

/-- A node that was there before stands on top. -/
theorem cons (h : Extends old new next after) (id : Nat) :
    Extends (id :: old) (id :: new) next after :=
  (refl [id] next).append h

/-- A node is made when the numbers below it have been handed out. -/
theorem push (h : Extends old new next after) : Extends old (after :: new) next (after + 1) := by
  obtain ⟨count, rfl, hperm⟩ := h
  refine ⟨count + 1, rfl, ?_⟩
  rw [List.range'_1_concat, ← List.append_assoc]
  exact (hperm.cons _).trans (List.perm_append_singleton _ _).symm

/-- A node is made before the numbers below it are handed out. -/
theorem lead (h : Extends old new (next + 1) after) : Extends old (next :: new) next after := by
  obtain ⟨count, rfl, hperm⟩ := h
  refine ⟨count + 1, by omega, ?_⟩
  rw [List.range'_succ]
  exact (hperm.cons _).trans List.perm_middle.symm

end Extends

/-- Numbering anew uses new numbers only. -/
theorem extends_renumber (t : Tree) (next : Nat) :
    Extends [] (t.renumber next).1.ids next (t.renumber next).2 := by
  induction t generalizing next with
  | nil => exact .refl [] next
  | leaf => exact (Extends.refl [] _).lead
  | group id a g l r ihl ihr => exact ((ihl _).append (ihr _)).lead

/-- The tree without its numbers. Trees that are the same but for their numbers have it in
common. -/
def unnumbered : Tree → Tree
  | nil => nil
  | leaf _ a l => leaf 0 a l
  | group _ a g l r => group 0 a g l.unnumbered r.unnumbered

theorem isNil_unnumbered (t : Tree) : t.unnumbered.isNil = t.isNil := by
  cases t <;> rfl

theorem chars_unnumbered (t : Tree) : t.unnumbered.chars = t.chars := by
  induction t with
  | nil => rfl
  | leaf => rfl
  | group id a g l r ihl ihr =>
      rw [unnumbered, chars, chars, ihl, ihr, isNil_unnumbered, isNil_unnumbered]

/-- Numbering anew changes nothing but the numbers. -/
theorem unnumbered_renumber (t : Tree) (next : NodeId) :
    (t.renumber next).1.unnumbered = t.unnumbered := by
  induction t generalizing next with
  | nil => rfl
  | leaf => rfl
  | group id a g l r ihl ihr => rw [renumber, unnumbered, unnumbered, ihl, ihr]

theorem map_id?_renumber (t : Tree) (next : NodeId) :
    (t.renumber next).1.id? = t.id?.map fun _ => next := by
  cases t <;> rfl

end SearchQuery.Tree
