import Mathlib.Data.List.Basic
import SearchQuery.Fields.FieldMap
import SearchQuery.Proofs.Aliases.Dotted

/-!
# The longest known front

`Path.cuts` has every way to cut a path, the longer fronts before the shorter ones, so a search in
it ends at the longest front that has an answer, `Path.findSome?_cuts_eq_some_iff`. An alias map with
nothing below its names resolves paths as the flat map of these names does, and what counts for both
is the longest front that is in the map, `FieldMap.resolves_by_longest_front`.
-/

namespace SearchQuery

namespace Path

variable {path front rest : List Char}

def IsCut (path front rest : List Char) : Prop :=
  path = front ++ rest ∧ ∀ c ∈ rest.head?, c = '.'

theorem mem_cuts_iff : (front, rest) ∈ cuts path ↔ IsCut path front rest := by
  refine ⟨fun h => ?_, ?_⟩
  · rcases List.mem_cons.1 h with h | h
    · obtain ⟨rfl, rfl⟩ := Prod.mk.inj h
      exact ⟨(List.append_nil _).symm, fun c hc => by cases hc⟩
    · obtain ⟨happend, hdot⟩ := eq_of_mem_dotCuts h
      refine ⟨happend, fun c hc => ?_⟩
      rwa [hdot, Option.mem_some_iff, eq_comm] at hc
  · rintro ⟨rfl, hdot⟩
    cases rest with
    | nil => rw [List.append_nil]; exact List.mem_cons_self
    | cons c rest =>
        obtain rfl := hdot c rfl
        exact List.mem_cons_of_mem _ (mem_dotCuts front rest)

def Longer (cut cut' : List Char × List Char) : Prop :=
  cut'.1.length < cut.1.length

theorem pairwise_dotCuts (path : List Char) : (dotCuts path).Pairwise Longer := by
  induction path with
  | nil => exact List.Pairwise.nil
  | cons c path ih =>
      rw [dotCuts, List.pairwise_append, List.pairwise_map]
      refine ⟨ih.imp fun h => Nat.succ_lt_succ h, ?_, fun cut hcut empty hempty => ?_⟩
      · split
        · exact List.pairwise_singleton ..
        · exact List.Pairwise.nil
      · obtain ⟨_, -, rfl⟩ := List.mem_map.1 hcut
        split at hempty
        · obtain rfl := List.mem_singleton.1 hempty
          exact Nat.succ_pos _
        · cases hempty

theorem pairwise_cuts (path : List Char) : (cuts path).Pairwise Longer := by
  refine List.pairwise_cons.2 ⟨fun ⟨front, rest⟩ hcut => ?_, pairwise_dotCuts path⟩
  obtain ⟨rfl, hdot⟩ := eq_of_mem_dotCuts hcut
  have hrest : rest ≠ [] := by
    rintro rfl
    cases hdot
  rw [Longer, List.length_append]
  exact Nat.lt_add_of_pos_right (List.length_pos_iff.2 hrest)

/-- What a search through the cuts finds is the answer to the longest front that has one. -/
theorem findSome?_cuts_eq_some_iff {α : Type} (answer : List Char × List Char → Option α)
    (path : List Char) (found : α) : (cuts path).findSome? answer = some found ↔
      ∃ front rest, IsCut path front rest ∧ answer (front, rest) = some found ∧
        ∀ front' rest', IsCut path front' rest' → front.length < front'.length →
          answer (front', rest') = none := by
  have hpairwise := pairwise_cuts path
  rw [List.findSome?_eq_some_iff]
  constructor
  · rintro ⟨before, ⟨front, rest⟩, after, hcuts, hfound, hbefore⟩
    have hcut : (front, rest) ∈ cuts path := hcuts ▸ List.mem_append_cons_self
    refine ⟨front, rest, mem_cuts_iff.1 hcut, hfound, fun front' rest' hcut' hlonger => ?_⟩
    rw [hcuts, List.pairwise_append, List.pairwise_cons] at hpairwise
    have hmem := mem_cuts_iff.2 hcut'
    rw [hcuts, List.mem_append, List.mem_cons] at hmem
    rcases hmem with hmem | heq | hmem
    · exact hbefore _ hmem
    · rw [(Prod.mk.inj heq).1] at hlonger
      exact absurd hlonger (Nat.lt_irrefl _)
    · exact absurd hlonger (Nat.lt_asymm (hpairwise.2.1.1 _ hmem))
  · rintro ⟨front, rest, hcut, hfound, hlonger⟩
    obtain ⟨before, after, hcuts⟩ := List.append_of_mem (mem_cuts_iff.2 hcut)
    refine ⟨before, (front, rest), after, hcuts, hfound, fun cut hbefore => ?_⟩
    have hmem : cut ∈ cuts path := hcuts ▸ List.mem_append_left _ hbefore
    rw [hcuts, List.pairwise_append] at hpairwise
    exact hlonger _ _ (mem_cuts_iff.1 hmem) (hpairwise.2.2 _ hbefore _ List.mem_cons_self)

theorem findSome?_cuts_eq_none_iff {α : Type} (answer : List Char × List Char → Option α)
    (path : List Char) : (cuts path).findSome? answer = none ↔
      ∀ front rest, IsCut path front rest → answer (front, rest) = none := by
  rw [List.findSome?_eq_none_iff]
  exact ⟨fun h front rest hcut => h _ (mem_cuts_iff.2 hcut),
    fun h cut hcut => h _ _ (mem_cuts_iff.1 hcut)⟩

end Path

namespace FieldMap

def toAliasMap : FieldMap → AliasMap
  | [] => .empty
  | (source, name) :: rest => .plain source name (toAliasMap rest)

theorem lookup?_toAliasMap (m : FieldMap) (path : String) :
    m.toAliasMap.lookup? path = (m.lookup path).map (·, none) := by
  induction m with
  | nil => rfl
  | cons entry rest ih =>
      obtain ⟨source, name⟩ := entry
      rw [toAliasMap, AliasMap.lookup?, List.lookup_cons, ih]
      by_cases heq : source = path
      · simp [heq]
      · simp [heq, beq_eq_false_iff_ne.2 (Ne.symm heq)]

/-- An alias map with nothing below its names is no more than a flat map. -/
theorem resolve?_toAliasMap (m : FieldMap) (path : String) :
    m.toAliasMap.resolve? path = (m.resolve? path).map (·, none) := by
  rw [AliasMap.resolve?, AliasMap.resolveChars?_eq, AliasMap.longest?, resolve?,
    List.map_findSome?, List.map_findSome?, ← List.head?_filterMap, ← List.head?_filterMap]
  refine congrArg List.head? (List.filterMap_congr fun cut hcut => ?_)
  obtain ⟨front, rest⟩ := cut
  obtain ⟨-, hdot⟩ := Path.mem_cuts_iff.1 hcut
  simp only [Function.comp_apply, lookup?_toAliasMap, Option.map_map]
  congr 1
  funext name
  cases rest with
  | nil => simp
  | cons c below =>
      obtain rfl := hdot c rfl
      simp [AliasMap.extend, String.append_assoc]

/-- Flat maps and alias maps with nothing below their names come to the same names. A path has one if
the path, or what is in front of one of its dots, is in the map: the longest front that is gives the
name, and the rest of the path follows as it is. -/
theorem resolves_by_longest_front (m : FieldMap) (path : String) :
    m.toAliasMap.resolve? path = (m.resolve? path).map (·, none) ∧
      (m.resolve? path = none ↔ ∀ front rest, Path.IsCut path.toList front rest →
        m.lookup (String.ofList front) = none) ∧
      ∀ resolved, m.resolve? path = some resolved ↔
        ∃ front rest, Path.IsCut path.toList front rest ∧
          (∃ name, m.lookup (String.ofList front) = some name ∧
            name ++ String.ofList rest = resolved) ∧
          ∀ front' rest', Path.IsCut path.toList front' rest' → front.length < front'.length →
            m.lookup (String.ofList front') = none := by
  refine ⟨resolve?_toAliasMap m path, ?_, fun resolved => ?_⟩
  · rw [resolve?, Path.findSome?_cuts_eq_none_iff]
    simp only [Option.map_eq_none_iff]
  · rw [resolve?, Path.findSome?_cuts_eq_some_iff]
    simp only [Option.map_eq_some_iff, Option.map_eq_none_iff]

example : FieldMap.resolve? [("", "x"), ("a", "y"), ("a.", "z")] "a..b" = some "z.b" := by decide

end FieldMap

end SearchQuery
