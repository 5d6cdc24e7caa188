import Mathlib.Data.List.Induction
import SearchQuery.Fields.Catalog
import SearchQuery.Proofs.Fields.Longest

/-!
# Proper spellings

A catalog knows of a field what it was told last, `Catalog.lookup_after_eq_some_iff`: the entry that
was put in under the small form of the name, if nothing done since puts in, drops or clears what is
filed there. A path in the catalog has the spelling of its entry, whatever its type, and any other
path goes by its longest front that names a field with fields below it.

Such a spelling is proper: it is its own spelling, `Catalog.resolves_by_latest_entry`. The small form
of a text is put together character by character but for a capital sigma, whose small form depends on
what stands around it, so this is said of catalogs and paths without one.
-/

namespace SearchQuery

namespace Text

variable {s t : String}

theorem lowercase_eq_flatMap (h : '\u03A3' ∉ s.toList) :
    lowercase s = String.ofList (s.toList.flatMap lowerChar) := by
  rw [lowercase, lowerAfter_eq_flatMap [] _ h]

theorem lowercase_append (hs : '\u03A3' ∉ s.toList) (ht : '\u03A3' ∉ t.toList) :
    lowercase (s ++ t) = lowercase s ++ lowercase t := by
  have hboth : '\u03A3' ∉ (s ++ t).toList := by
    rw [String.toList_append, List.mem_append]
    exact not_or.2 ⟨hs, ht⟩
  rw [lowercase_eq_flatMap hboth, lowercase_eq_flatMap hs, lowercase_eq_flatMap ht,
    String.toList_append, List.flatMap_append, String.ofList_append]

end Text

/-- What can be done to a catalog. -/
inductive CatalogEdit
  | insert (entry : FieldEntry)
  | erase (field : String)
  | clear

namespace CatalogEdit

def apply (c : Catalog) : CatalogEdit → Catalog
  | insert entry => c.insert entry
  | erase field => c.erase field
  | clear => .empty

def Touches (key : String) : CatalogEdit → Prop
  | insert entry => Text.lowercase entry.name = key
  | erase field => Text.lowercase field = key
  | clear => True

end CatalogEdit

namespace Catalog

variable {history : List CatalogEdit} {key : String} {entry : FieldEntry}

def after (history : List CatalogEdit) : Catalog :=
  history.foldl CatalogEdit.apply .empty

/-- The entry was put in under the key, and nothing done since has touched what is filed there. -/
def IsLatest (history : List CatalogEdit) (key : String) (entry : FieldEntry) : Prop :=
  ∃ before later, history = before ++ .insert entry :: later ∧ Text.lowercase entry.name = key ∧
    ∀ edit ∈ later, ¬ edit.Touches key

theorem not_isLatest_nil : ¬ IsLatest [] key entry := by
  rintro ⟨before, later, heq, -⟩
  exact List.append_ne_nil_of_right_ne_nil _ (List.cons_ne_nil _ _) heq.symm

theorem isLatest_concat (edit : CatalogEdit) : IsLatest (history ++ [edit]) key entry ↔
    (edit = .insert entry ∧ Text.lowercase entry.name = key) ∨
      (¬ edit.Touches key ∧ IsLatest history key entry) := by
  constructor
  · rintro ⟨before, later, heq, hkey, hlater⟩
    rcases List.eq_nil_or_concat later with rfl | ⟨later, last, rfl⟩
    · obtain ⟨-, hlast⟩ := List.append_inj' heq rfl
      exact Or.inl ⟨List.singleton_inj.1 hlast, hkey⟩
    · rw [List.concat_eq_append, ← List.cons_append, ← List.append_assoc] at heq
      obtain ⟨rfl, hlast⟩ := List.append_inj' heq rfl
      obtain rfl := List.singleton_inj.1 hlast
      rw [List.concat_eq_append] at hlater
      exact Or.inr ⟨hlater edit (List.mem_append_right _ List.mem_cons_self), before, later, rfl,
        hkey, fun edit hedit => hlater edit (List.mem_append_left _ hedit)⟩
  · rintro (⟨rfl, hkey⟩ | ⟨hedit, before, later, rfl, hkey, hlater⟩)
    · exact ⟨history, [], rfl, hkey, fun edit hedit => by cases hedit⟩
    · refine ⟨before, later ++ [edit], by simp, hkey, fun edit' hedit' => ?_⟩
      rcases List.mem_append.1 hedit' with hedit' | hedit'
      · exact hlater edit' hedit'
      · obtain rfl := List.mem_singleton.1 hedit'
        exact hedit

theorem lookup_filter_ne (filed : List (String × FieldEntry)) (dropped key : String) :
    (filed.filter (·.1 ≠ dropped)).lookup key =
      if dropped = key then none else filed.lookup key := by
  induction filed with
  | nil => simp
  | cons entry rest ih => grind

theorem lookup_insert (c : Catalog) (new : FieldEntry) (key : String) :
    (c.insert new).filed.lookup key =
      if Text.lowercase new.name = key then some new else c.filed.lookup key := by
  rw [insert, List.lookup_cons, lookup_filter_ne]
  by_cases hkey : Text.lowercase new.name = key
  · simp [hkey]
  · simp [hkey, beq_eq_false_iff_ne.2 (Ne.symm hkey)]

theorem lookup_erase (c : Catalog) (field key : String) :
    (c.erase field).filed.lookup key =
      if Text.lowercase field = key then none else c.filed.lookup key :=
  lookup_filter_ne _ _ _

theorem lookup_apply_eq_some_iff (c : Catalog) (edit : CatalogEdit) :
    (edit.apply c).filed.lookup key = some entry ↔
      (edit = .insert entry ∧ Text.lowercase entry.name = key) ∨
        (¬ edit.Touches key ∧ c.filed.lookup key = some entry) := by
  cases edit with
  | insert new =>
      rw [CatalogEdit.apply, CatalogEdit.Touches, lookup_insert]
      split
      · next hkey =>
          rw [Option.some.injEq, CatalogEdit.insert.injEq]
          refine ⟨?_, ?_⟩
          · rintro rfl
            exact Or.inl ⟨rfl, hkey⟩
          · rintro (⟨rfl, -⟩ | ⟨huntouched, -⟩)
            · rfl
            · exact absurd hkey huntouched
      · next hkey =>
          refine ⟨fun hlookup => Or.inr ⟨hkey, hlookup⟩, ?_⟩
          rintro (⟨heq, hentry⟩ | ⟨-, hlookup⟩)
          · obtain rfl := CatalogEdit.insert.inj heq
            exact absurd hentry hkey
          · exact hlookup
  | erase field =>
      rw [CatalogEdit.apply, CatalogEdit.Touches, lookup_erase]
      by_cases hkey : Text.lowercase field = key <;> simp [hkey]
  | clear => simp [CatalogEdit.apply, CatalogEdit.Touches, empty]

theorem lookup_after_eq_some_iff :
    (after history).filed.lookup key = some entry ↔ IsLatest history key entry := by
  induction history using List.reverseRecOn with
  | nil => exact iff_of_false (by simp [after, empty]) not_isLatest_nil
  | append_singleton history edit ih =>
      rw [after, List.foldl_concat, ← after, lookup_apply_eq_some_iff, isLatest_concat, ih]

theorem get?_after_eq_some_iff {field : String} :
    (after history).get? field = some entry ↔ IsLatest history (Text.lowercase field) entry :=
  lookup_after_eq_some_iff

section Cuts

variable (c : Catalog)

def answer? (cut : List Char × List Char) : Option String :=
  (c.get? (String.ofList cut.1)).bind fun entry =>
    if cut.2 = [] ∨ entry.type.hasFields then some (entry.name ++ String.ofList cut.2) else none

theorem answer?_eq_some_iff {front rest : List Char} {resolved : String} :
    c.answer? (front, rest) = some resolved ↔
      ∃ entry, c.get? (String.ofList front) = some entry ∧ (rest = [] ∨ entry.type.hasFields) ∧
        entry.name ++ String.ofList rest = resolved := by
  simp only [answer?, Option.bind_eq_some_iff, Option.ite_none_right_eq_some, Option.some.injEq]

theorem resolve?_eq_findSome? (path : String) :
    c.resolve? path = (Path.cuts path.toList).findSome? c.answer? := by
  rw [resolve?, Path.cuts, List.findSome?_cons, answer?, String.ofList_toList]
  cases c.get? path with
  | some entry => simp
  | none =>
      change (Path.dotCuts path.toList).findSome? _ = (Path.dotCuts path.toList).findSome? c.answer?
      rw [← List.head?_filterMap, ← List.head?_filterMap]
      refine congrArg List.head? (List.filterMap_congr fun cut hcut => ?_)
      obtain ⟨front, rest⟩ := cut
      have hrest : rest ≠ [] := by
        rintro rfl
        cases (Path.eq_of_mem_dotCuts hcut).2
      simp only [answer?, hrest, false_or]
      cases c.get? (String.ofList front) <;> rfl

end Cuts

/-- The path is cut before a dot, and the entry in front of it has fields below it. -/
structure IsParentCut (history : List CatalogEdit) (path : String) (front rest : List Char)
    (entry : FieldEntry) : Prop where
  isCut : Path.IsCut path.toList front rest
  rest_ne_nil : rest ≠ []
  isLatest : IsLatest history (Text.lowercase (String.ofList front)) entry
  hasFields : entry.type.hasFields = true

def SigmaFree (history : List CatalogEdit) : Prop :=
  ∀ key entry, IsLatest history key entry → '\u03A3' ∉ entry.name.toList

variable {path resolved : String}

theorem resolve?_after_eq_some_iff : (after history).resolve? path = some resolved ↔
    ∃ front rest entry, Path.IsCut path.toList front rest ∧
      IsLatest history (Text.lowercase (String.ofList front)) entry ∧
      (rest = [] ∨ entry.type.hasFields) ∧ entry.name ++ String.ofList rest = resolved ∧
      ∀ front' rest', Path.IsCut path.toList front' rest' → front.length < front'.length →
        (after history).answer? (front', rest') = none := by
  rw [resolve?_eq_findSome?, Path.findSome?_cuts_eq_some_iff]
  simp only [answer?_eq_some_iff, get?_after_eq_some_iff]
  constructor
  · rintro ⟨front, rest, hcut, ⟨entry, hlatest, hfields, hname⟩, hlonger⟩
    exact ⟨front, rest, entry, hcut, hlatest, hfields, hname, hlonger⟩
  · rintro ⟨front, rest, entry, hcut, hlatest, hfields, hname, hlonger⟩
    exact ⟨front, rest, hcut, ⟨entry, hlatest, hfields, hname⟩, hlonger⟩

theorem resolve?_resolved (hpath : '\u03A3' ∉ path.toList) (hfree : SigmaFree history)
    (h : (after history).resolve? path = some resolved) :
    (after history).resolve? resolved = some resolved := by
  obtain ⟨front, rest, entry, ⟨happend, hdot⟩, hlatest, hfields, rfl, hlonger⟩ :=
    resolve?_after_eq_some_iff.1 h
  have hkey : Text.lowercase entry.name = Text.lowercase (String.ofList front) := by
    obtain ⟨-, -, -, hkey, -⟩ := hlatest
    exact hkey
  rw [happend, List.mem_append, not_or] at hpath
  refine resolve?_after_eq_some_iff.2 ⟨entry.name.toList, rest, entry, ⟨by simp, hdot⟩,
    by rwa [String.ofList_toList, hkey], hfields, rfl,
    fun front' rest' hcut' hlonger' => ?_⟩
  -- a longer front ends inside the rest, and `path` is cut at the same place
  obtain ⟨happend', hdot'⟩ := hcut'
  rw [String.toList_append, String.toList_ofList] at happend'
  obtain ⟨between, rfl, rfl⟩ : ∃ between, front' = entry.name.toList ++ between ∧
      rest = between ++ rest' := by
    rcases List.append_eq_append_iff.1 happend' with h | ⟨between, hname, -⟩
    · exact h
    · rw [hname, List.length_append] at hlonger'
      omega
  have hnone := hlonger (front ++ between) rest' ⟨by rw [happend, List.append_assoc], hdot'⟩ (by
    rw [List.length_append] at hlonger' ⊢
    omega)
  have hsmall : Text.lowercase (String.ofList (entry.name.toList ++ between)) =
      Text.lowercase (String.ofList (front ++ between)) := by
    obtain ⟨hfront, hbetween, -⟩ : '\u03A3' ∉ front ∧ '\u03A3' ∉ between ∧ '\u03A3' ∉ rest' := by
      simpa using hpath
    rw [String.ofList_append, String.ofList_append, String.ofList_toList,
      Text.lowercase_append (hfree _ _ hlatest) (by rwa [String.toList_ofList]),
      Text.lowercase_append (by rwa [String.toList_ofList]) (by rwa [String.toList_ofList]), hkey]
  rwa [answer?, get?, hsmall]

theorem resolve?_of_isLatest (h : IsLatest history (Text.lowercase path) entry) :
    (after history).resolve? path = some entry.name := by
  refine resolve?_after_eq_some_iff.2 ⟨path.toList, [], entry, Path.mem_cuts_iff.1
    List.mem_cons_self, by rwa [String.ofList_toList], Or.inl rfl, by simp,
    fun front' rest' hcut' hlonger => ?_⟩
  rw [hcut'.1, List.length_append] at hlonger
  omega

section Unfiled

variable (hexact : ∀ entry, ¬ IsLatest history (Text.lowercase path) entry)

include hexact

/-- Where there is no entry for the path itself, only fields with fields below them give an answer. -/
theorem answer?_unfiled_eq_some_iff {front rest : List Char}
    (hcut : Path.IsCut path.toList front rest) :
    (after history).answer? (front, rest) = some resolved ↔
      ∃ entry, IsParentCut history path front rest entry ∧
        entry.name ++ String.ofList rest = resolved := by
  simp only [answer?_eq_some_iff, get?_after_eq_some_iff]
  refine exists_congr fun entry => ⟨?_, ?_⟩
  · rintro ⟨hlatest, hfields, hname⟩
    have hrest : rest ≠ [] := by
      rintro rfl
      rw [← List.append_nil front, ← hcut.1, String.ofList_toList] at hlatest
      exact hexact entry hlatest
    exact ⟨⟨hcut, hrest, hlatest, hfields.resolve_left hrest⟩, hname⟩
  · rintro ⟨hparent, hname⟩
    exact ⟨hparent.isLatest, Or.inr hparent.hasFields, hname⟩

theorem answer?_unfiled_eq_none_iff {front rest : List Char}
    (hcut : Path.IsCut path.toList front rest) :
    (after history).answer? (front, rest) = none ↔
      ∀ entry, ¬ IsParentCut history path front rest entry := by
  simp only [Option.eq_none_iff_forall_ne_some, ne_eq, answer?_unfiled_eq_some_iff hexact hcut]
  exact ⟨fun h entry hparent => h _ ⟨entry, hparent, rfl⟩,
    fun h _ ⟨entry, hparent, _⟩ => h entry hparent⟩

theorem resolve?_unfiled_eq_some_iff : (after history).resolve? path = some resolved ↔
    ∃ front rest entry, IsParentCut history path front rest entry ∧
      entry.name ++ String.ofList rest = resolved ∧
      ∀ front' rest' entry', IsParentCut history path front' rest' entry' →
        front'.length ≤ front.length := by
  rw [resolve?_eq_findSome?, Path.findSome?_cuts_eq_some_iff]
  constructor
  · rintro ⟨front, rest, hcut, hanswer, hlonger⟩
    obtain ⟨entry, hparent, hname⟩ := (answer?_unfiled_eq_some_iff hexact hcut).1 hanswer
    refine ⟨front, rest, entry, hparent, hname,
      fun front' rest' entry' hparent' => Nat.le_of_not_lt fun hlt => ?_⟩
    exact (answer?_unfiled_eq_none_iff hexact hparent'.isCut).1
      (hlonger front' rest' hparent'.isCut hlt) entry' hparent'
  · rintro ⟨front, rest, entry, hparent, hname, hlongest⟩
    refine ⟨front, rest, hparent.isCut,
      (answer?_unfiled_eq_some_iff hexact hparent.isCut).2 ⟨entry, hparent, hname⟩,
      fun front' rest' hcut' hlt => (answer?_unfiled_eq_none_iff hexact hcut').2 ?_⟩
    exact fun entry' hparent' => Nat.not_le_of_lt hlt (hlongest front' rest' entry' hparent')

theorem resolve?_unfiled_eq_none_iff : (after history).resolve? path = none ↔
    ∀ front rest entry, ¬ IsParentCut history path front rest entry := by
  rw [resolve?_eq_findSome?, Path.findSome?_cuts_eq_none_iff]
  constructor
  · intro hnone front rest entry hparent
    exact (answer?_unfiled_eq_none_iff hexact hparent.isCut).1
      (hnone front rest hparent.isCut) entry hparent
  · intro hparents front rest hcut
    exact (answer?_unfiled_eq_none_iff hexact hcut).2 (hparents front rest)

end Unfiled

/-- What the catalog makes of a path is the name of the latest entry for it. Where there is none, it
is the name of the entry at the end of the longest front that names a field with fields below it,
with the rest of the path as it stands, or nothing if there is no such front. Without a capital sigma
in the path and in the names, what it makes of a path is what it makes of that again. -/
theorem resolves_by_latest_entry (history : List CatalogEdit) (path : String) :
    (∀ entry, IsLatest history (Text.lowercase path) entry →
      (after history).resolve? path = some entry.name) ∧
    ((∀ entry, ¬ IsLatest history (Text.lowercase path) entry) → ∀ resolved,
      (after history).resolve? path = some resolved ↔
        ∃ front rest entry, IsParentCut history path front rest entry ∧
          entry.name ++ String.ofList rest = resolved ∧
          ∀ front' rest' entry', IsParentCut history path front' rest' entry' →
            front'.length ≤ front.length) ∧
    ((after history).resolve? path = none ↔
      (∀ entry, ¬ IsLatest history (Text.lowercase path) entry) ∧
        ∀ front rest entry, ¬ IsParentCut history path front rest entry) ∧
    ('\u03A3' ∉ path.toList → SigmaFree history → ∀ resolved,
      (after history).resolve? path = some resolved →
        (after history).resolve? resolved = some resolved) := by
  refine ⟨fun entry => resolve?_of_isLatest,
    fun hexact resolved => resolve?_unfiled_eq_some_iff hexact, ⟨fun hnone => ?_, ?_⟩,
    fun hpath hfree resolved => resolve?_resolved hpath hfree⟩
  · have hexact : ∀ entry, ¬ IsLatest history (Text.lowercase path) entry := by
      intro entry hlatest
      rw [resolve?_of_isLatest hlatest] at hnone
      cases hnone
    exact ⟨hexact, (resolve?_unfiled_eq_none_iff hexact).1 hnone⟩
  · rintro ⟨hexact, hparents⟩
    exact (resolve?_unfiled_eq_none_iff hexact).2 hparents

/-- A longer front that names a plain field is passed over, and the name that comes out is proper. -/
theorem resolves_by_latest_entry_of_place :
    let history : List CatalogEdit :=
      [.insert ⟨"geo", .text⟩, .insert ⟨"Geo", .object⟩, .insert ⟨"Geo.At", .keyword⟩]
    '\u03A3' ∉ "GEO.at.x".toList ∧ SigmaFree history ∧
      (after history).resolve? "GEO.at.x" = some "Geo.at.x" ∧
      (after history).resolve? "Geo.at.x" = some "Geo.at.x" := by
  intro history
  have hpath : '\u03A3' ∉ "GEO.at.x".toList := by decide
  have hresolved : (after history).resolve? "GEO.at.x" = some "Geo.at.x" := by
    decide +kernel
  have hfree : SigmaFree history := by
    rintro key entry ⟨before, later, heq, -⟩
    have hmem : .insert entry ∈ history := heq ▸ List.mem_append_cons_self
    simp only [history, List.mem_cons, CatalogEdit.insert.injEq, List.not_mem_nil, or_false] at hmem
    rcases hmem with rfl | rfl | rfl <;> decide
  exact ⟨hpath, hfree, hresolved,
    (resolves_by_latest_entry history "GEO.at.x").2.2.2 hpath hfree _ hresolved⟩

end Catalog

end SearchQuery
