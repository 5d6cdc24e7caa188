import SearchQuery.Pass.Aliases

/-!
# Alias maps on dotted paths

A map that files nothing under a path with a dot in it knows no front of a dotted path but its first
segment. So it takes the path segment by segment, each in the map below the one before it,
`AliasMap.DotFree.resolve?_append`, and comes to the same names as a resolver that is handed down
from a field to the fields inside it, `AliasMap.DotFree.name_intercalate`.
-/

namespace SearchQuery

namespace Path

variable {segment : List Char}

theorem dotCuts_of_notMem (h : '.' ∉ segment) : dotCuts segment = [] := by
  induction segment with
  | nil => rfl
  | cons c segment ih =>
      rw [List.mem_cons, not_or] at h
      rw [dotCuts, ih h.2, if_neg (Ne.symm h.1)]
      rfl

theorem dotCuts_append (h : '.' ∉ segment) (path : List Char) :
    dotCuts (segment ++ path) = (dotCuts path).map fun cut => (segment ++ cut.1, cut.2) := by
  induction segment with
  | nil => simp
  | cons c segment ih =>
      rw [List.mem_cons, not_or] at h
      rw [List.cons_append, dotCuts, ih h.2, if_neg (Ne.symm h.1), List.append_nil, List.map_map]
      rfl

theorem intercalate_ne_empty {segments : List String} (hne : segments ≠ [])
    (hsegments : ∀ segment ∈ segments, segment ≠ "") : ".".intercalate segments ≠ "" := by
  match segments with
  | [] => exact absurd rfl hne
  | [segment] => simpa using hsegments
  | first :: second :: rest => simp [String.intercalate_cons_cons, String.append_eq_empty_iff]

/-- The shortest front of a dotted path is its first segment; all others have a dot. -/
theorem exists_cuts_eq (h : '.' ∉ segment) (path : List Char) :
    ∃ longer, cuts (segment ++ '.' :: path) = longer ++ [(segment, '.' :: path)] ∧
      ∀ cut ∈ longer, '.' ∈ cut.1 := by
  refine ⟨(segment ++ '.' :: path, []) ::
    (dotCuts path).map fun cut => (segment ++ '.' :: cut.1, cut.2), ?_, fun cut hcut => ?_⟩
  · rw [cuts, dotCuts_append h, dotCuts, if_pos rfl, List.map_append, List.map_map]
    simp
  · rcases List.mem_cons.1 hcut with rfl | hcut
    · simp
    · obtain ⟨_, -, rfl⟩ := List.mem_map.1 hcut
      simp

end Path

namespace AliasMap

variable {m : AliasMap}

/-- No path that the map, or a map below one of its paths, files something under has a dot in it. -/
def DotFree : AliasMap → Prop
  | empty => True
  | plain source _ rest => '.' ∉ source.toList ∧ rest.DotFree
  | nested source _ below rest => '.' ∉ source.toList ∧ below.DotFree ∧ rest.DotFree

theorem ne_of_notMem {source path : String} (h : '.' ∉ source.toList) (hdot : '.' ∈ path.toList) :
    source ≠ path := by
  rintro rfl
  exact h hdot

theorem DotFree.lookup?_eq_none (h : m.DotFree) {path : String} (hdot : '.' ∈ path.toList) :
    m.lookup? path = none := by
  induction m with
  | empty => rfl
  | plain source _ rest ih =>
      rw [lookup?, if_neg (ne_of_notMem h.1 hdot), ih h.2]
  | nested source _ _ rest _ ih =>
      rw [lookup?, if_neg (ne_of_notMem h.1 hdot), ih h.2.2]

theorem DotFree.below (h : m.DotFree) {path name : String} {inner : AliasMap}
    (hlookup : m.lookup? path = some (name, some inner)) : inner.DotFree := by
  induction m with
  | empty => cases hlookup
  | plain source _ rest ih =>
      rw [lookup?] at hlookup
      split at hlookup
      · cases hlookup
      · exact ih h.2 hlookup
  | nested source _ below rest _ ih =>
      rw [lookup?] at hlookup
      split at hlookup
      · cases hlookup
        exact h.2.1
      · exact ih h.2.2 hlookup

theorem longest?_of_notMem {segment : List Char} (h : '.' ∉ segment) :
    m.longest? segment = (m.lookup? (String.ofList segment)).map (·, []) := by
  rw [longest?, Path.cuts, Path.dotCuts_of_notMem h, List.findSome?_singleton]

theorem DotFree.longest?_append (h : m.DotFree) {segment : List Char} (hsegment : '.' ∉ segment)
    (path : List Char) : m.longest? (segment ++ '.' :: path) =
      (m.lookup? (String.ofList segment)).map (·, '.' :: path) := by
  obtain ⟨longer, hcuts, hdots⟩ := Path.exists_cuts_eq hsegment path
  rw [longest?, hcuts, List.findSome?_append, List.findSome?_singleton,
    List.findSome?_eq_none_iff.2 fun cut hcut => ?_, Option.none_or]
  change (m.lookup? (String.ofList cut.1)).map _ = none
  rw [h.lookup?_eq_none (by simpa using hdots cut hcut), Option.map_none]

def extend (entry : String × Option AliasMap) (path : List Char) : String × Option AliasMap :=
  match entry.2.bind (·.resolveChars? path) with
  | some (resolved, scope) => (entry.1 ++ "." ++ resolved, scope)
  | none => (entry.1 ++ "." ++ String.ofList path, none)

theorem resolveChars?_eq (m : AliasMap) (path : List Char) :
    m.resolveChars? path = (m.longest? path).map fun known =>
      match known with
      | (entry, []) => entry
      | (entry, _ :: rest) => extend entry rest := by
  rw [resolveChars?.eq_def]
  split
  · next hnone => rw [hnone, Option.map_none]
  · next hknown => rw [hknown, Option.map_some]
  · next hknown => rw [hknown, Option.map_some]; rfl
  · next inner _ rest hknown =>
      rw [hknown, Option.map_some]
      simp only [extend, Option.bind_some]
      cases inner.resolveChars? rest <;> rfl

theorem resolve?_of_notMem {segment : String} (h : '.' ∉ segment.toList) :
    m.resolve? segment = m.lookup? segment := by
  rw [resolve?, resolveChars?_eq, longest?_of_notMem h, String.ofList_toList, Option.map_map]
  exact Option.map_id'

/-- The first segment of a dotted path is looked up, and what follows it is resolved in the map
below it or stays as it is. -/
theorem DotFree.resolve?_append (h : m.DotFree) {segment : String}
    (hsegment : '.' ∉ segment.toList) (path : String) :
    m.resolve? (segment ++ "." ++ path) =
      (m.lookup? segment).map fun entry => extend entry path.toList := by
  have hpath : (segment ++ "." ++ path).toList = segment.toList ++ '.' :: path.toList := by simp
  rw [resolve?, hpath, resolveChars?_eq, h.longest?_append hsegment, String.ofList_toList,
    Option.map_map]
  rfl

end AliasMap

namespace AliasResolver

def name (r : AliasResolver) (field : String) : String :=
  (r.resolve? field).elim field (·.1)

def inside (r : AliasResolver) (field : String) : AliasResolver :=
  ((r.resolve? field).bind (·.2)).getD none

def nameAll : AliasResolver → List String → List String
  | _, [] => []
  | r, field :: fields => r.name field :: (r.inside field).nameAll fields

def insideAll (r : AliasResolver) (fields : List String) : AliasResolver :=
  fields.foldl inside r

theorem nameAll_concat (r : AliasResolver) (fields : List String) (field : String) :
    r.nameAll (fields ++ [field]) = r.nameAll fields ++ [(r.insideAll fields).name field] := by
  induction fields generalizing r with
  | nil => rfl
  | cons first fields ih => rw [List.cons_append, nameAll, nameAll, ih]; rfl

theorem insideAll_concat (r : AliasResolver) (fields : List String) (field : String) :
    r.insideAll (fields ++ [field]) = (r.insideAll fields).inside field := by
  rw [insideAll, List.foldl_append]
  rfl

/-- Nothing in scope, nothing renamed. -/
theorem name_none (field : String) : none.name field = field := by
  have hlongest : AliasMap.empty.longest? field.toList = Option.none :=
    List.findSome?_eq_none_iff.2 fun _ _ => rfl
  have hresolve : none.resolve? field = Option.none := by
    rw [none, resolve?, AliasMap.resolve?, AliasMap.resolveChars?_eq, hlongest]
    rfl
  rw [name, hresolve, Option.elim_none]

end AliasResolver

namespace AliasMap.DotFree

open AliasResolver (ofMap)

variable {m : AliasMap} {segment : String}

theorem exists_inside_eq (h : m.DotFree) (hsegment : '.' ∉ segment.toList) :
    ∃ inner : AliasMap, inner.DotFree ∧ (ofMap m).inside segment = ofMap inner := by
  rw [AliasResolver.inside, AliasResolver.resolve?, resolve?_of_notMem hsegment]
  match hlookup : m.lookup? segment with
  | none => exact ⟨.empty, trivial, rfl⟩
  | some (_, none) => exact ⟨.empty, trivial, rfl⟩
  | some (_, some inner) => exact ⟨inner, h.below hlookup, rfl⟩

/-- What becomes of a dotted path is what becomes of its first segment, and behind the dot what
becomes of the rest inside it. -/
theorem name_append (h : m.DotFree) (hsegment : '.' ∉ segment.toList) (path : String) :
    (ofMap m).name (segment ++ "." ++ path) =
      (ofMap m).name segment ++ "." ++ ((ofMap m).inside segment).name path := by
  rw [AliasResolver.inside, AliasResolver.name, AliasResolver.name, AliasResolver.resolve?,
    AliasResolver.resolve?, h.resolve?_append hsegment, resolve?_of_notMem hsegment]
  match m.lookup? segment with
  | none => exact congrArg (segment ++ "." ++ ·) (AliasResolver.name_none path).symm
  | some (name, none) =>
      have hpath := String.ofList_toList.trans (AliasResolver.name_none path).symm
      exact congrArg (name ++ "." ++ ·) hpath
  | some (name, some inner) =>
      have hinner : inner.resolveChars? path.toList = inner.resolve? path := rfl
      simp only [Option.map_some, Option.elim_some, Option.bind_some, Option.getD_some, extend,
        AliasResolver.name, AliasResolver.resolve?, hinner]
      cases inner.resolve? path with
      | none => simp
      | some entry => rfl

/-- A dotted path gets the names, with dots between them, that fields inside each other get, the
first segment outside and the last one inside. -/
theorem name_intercalate (h : m.DotFree) {segments : List String} (hne : segments ≠ [])
    (hsegments : ∀ segment ∈ segments, '.' ∉ segment.toList) :
    (ofMap m).name (".".intercalate segments) =
      ".".intercalate ((ofMap m).nameAll segments) := by
  induction segments generalizing m with
  | nil => exact absurd rfl hne
  | cons first rest ih =>
      obtain ⟨hfirst, hrest⟩ := List.forall_mem_cons.1 hsegments
      cases rest with
      | nil => simp [AliasResolver.nameAll]
      | cons second rest =>
          obtain ⟨inner, hinner, hinside⟩ := h.exists_inside_eq hfirst
          rw [String.intercalate_cons_cons, h.name_append hfirst, AliasResolver.nameAll, hinside,
            ih hinner (List.cons_ne_nil _ _) hrest, AliasResolver.nameAll,
            String.intercalate_cons_cons]

end AliasMap.DotFree

end SearchQuery
