import SearchQuery.Fields.Path
import SearchQuery.Json.Writer

/-!
# Scoped aliases

An `AliasMap` gives a new name to a path and, where it has a map of its own below that path, new
names to what follows. `AliasMap.resolve?` takes the longest front of a path that the map knows
and resolves the rest in the map below; a rest that nothing resolves stays as it is, and nothing
is in scope behind it.

An `AliasResolver` is what passes use: an alias map or any other function with scopes of its own.
-/

namespace SearchQuery

/-- New names of paths, some with a map for what lies below them. -/
inductive AliasMap
  | empty
  /-- A name, with nothing in scope below it. -/
  | plain (source name : String) (rest : AliasMap)
  /-- A name with a map for what lies below it. -/
  | nested (source name : String) (below rest : AliasMap)
  deriving Repr, DecidableEq

namespace AliasMap

def lookup? (path : String) : AliasMap → Option (String × Option AliasMap)
  | empty => none
  | plain source name rest => if source = path then some (name, none) else rest.lookup? path
  | nested source name below rest =>
      if source = path then some (name, some below) else rest.lookup? path

def aliases : AliasMap → List String
  | empty => []
  | plain source _ rest => source :: rest.aliases
  | nested source _ _ rest => source :: rest.aliases

def size (m : AliasMap) : Nat :=
  m.aliases.eraseDups.length

/-- What the longest known front of a path is filed with, and the rest of the path. -/
def longest? (m : AliasMap) (path : List Char) :
    Option ((String × Option AliasMap) × List Char) :=
  (Path.cuts path).findSome? fun (front, rest) =>
    (m.lookup? (String.ofList front)).map (·, rest)

theorem length_rest_of_longest? {m : AliasMap} {path : List Char}
    {entry : String × Option AliasMap} {rest : List Char}
    (h : m.longest? path = some (entry, rest)) : rest.length ≤ path.length := by
  obtain ⟨⟨front, rest'⟩, hmem, hsome⟩ := List.exists_of_findSome?_eq_some h
  obtain ⟨_, _, heq⟩ := Option.map_eq_some_iff.1 hsome
  obtain ⟨-, rfl⟩ := Prod.mk.inj heq
  simp [Path.eq_of_mem_cuts hmem]

def resolveChars? (m : AliasMap) (path : List Char) : Option (String × Option AliasMap) :=
  match _known : m.longest? path with
  | none => none
  | some (entry, []) => some entry
  | some ((name, none), _ :: below) => some (name ++ "." ++ String.ofList below, none)
  | some ((name, some inner), _ :: below) =>
      match inner.resolveChars? below with
      | some (resolved, scope) => some (name ++ "." ++ resolved, scope)
      | none => some (name ++ "." ++ String.ofList below, none)
termination_by path.length
decreasing_by
  have := length_rest_of_longest? _known
  simp at this
  omega

def resolve? (m : AliasMap) (path : String) : Option (String × Option AliasMap) :=
  m.resolveChars? path.toList

end AliasMap

/-- Why a JSON value is no alias map. -/
inductive AliasFault
  | notAnObject
  /-- A path is filed with something other than a name or an entry. -/
  | badEntry (source : String) (value : Json)

def AliasFault.message : AliasFault → String
  | notAnObject => "alias map must be a JSON object"
  | badEntry source value =>
      "alias \"" ++ source ++ "\" must map to a string or an object, got " ++ value.compact

namespace AliasMap

def entryName (source : String) (entry : List (String × Json)) : String :=
  ((Json.member? "name" entry).bind Json.text?).getD source

mutual

def ofSorted : Json → Except AliasFault AliasMap
  | .object members => ofMembers members
  | _ => .error .notAnObject

def ofMembers : List (String × Json) → Except AliasFault AliasMap
  | [] => .ok .empty
  | (source, .text name) :: rest => do
      let rest ← ofMembers rest
      return .plain source name rest
  | (source, .object entry) :: rest => do
      let below ← belowOf entry
      let rest ← ofMembers rest
      let name := entryName source entry
      return below.elim (.plain source name rest) (.nested source name · rest)
  | (source, value) :: _ => .error (.badEntry source value)

def belowOf : List (String × Json) → Except AliasFault (Option AliasMap)
  | [] => .ok none
  | (key, value) :: rest =>
      if key = "fields" then (ofSorted value).map some else belowOf rest

end

/-- The alias map of a JSON value: an object of names, or of entries with a `name` and a map of
`fields`. The first fault in the order of the keys counts. -/
def ofJson (j : Json) : Except AliasFault AliasMap :=
  ofSorted j.canonical

end AliasMap

/-- Gives new names to fields, and to what lies below them. -/
inductive AliasResolver
  | ofMap (map : AliasMap)
  | ofFunction (resolve : String → Option (String × Option AliasResolver))

namespace AliasResolver

def resolve? : AliasResolver → String → Option (String × Option AliasResolver)
  | ofMap map, field => (map.resolve? field).map fun (name, scope) => (name, scope.map ofMap)
  | ofFunction resolve, field => resolve field

def none : AliasResolver :=
  ofMap .empty

end AliasResolver

end SearchQuery
