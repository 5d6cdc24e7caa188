import SearchQuery.Json.Number

/-!
# JSON values

`Json` is the value that a JSON text denotes. Members of an object keep the order they were
written in, repeated keys included; `canonical` sorts them and keeps the last of each key.

A literal may fit the grammar and denote nothing: a text with half of a surrogate pair, a number
too large. It is kept as `undefined`, because a reader that skips the member it stands in does not
care. `isDefined` says whether no such literal occurs, and `depth` how far lists and objects nest.
-/

namespace SearchQuery

inductive Json
  | null
  | bool (value : Bool)
  | number (value : Json.Number)
  | text (value : String)
  | list (items : List Json)
  | object (members : List (String × Json))
  | undefined
  deriving Repr, Inhabited

namespace Json

def int (value : Int) : Json :=
  .number (.integer value)

def member? (key : String) : List (String × Json) → Option Json
  | [] => none
  | (k, v) :: rest => (member? key rest).or (if k = key then some v else none)

def get? (key : String) : Json → Option Json
  | object members => member? key members
  | _ => none

def text? : Json → Option String
  | text value => some value
  | _ => none

def bool? : Json → Option Bool
  | bool value => some value
  | _ => none

def integer? : Json → Option Int
  | number (.integer value) => some value
  | _ => none

def list? : Json → Option (List Json)
  | list items => some items
  | _ => none

def members? : Json → Option (List (String × Json))
  | object members => some members
  | _ => none

mutual

def isDefined : Json → Bool
  | undefined => false
  | list items => allDefined items
  | object members => membersDefined members
  | _ => true

def allDefined : List Json → Bool
  | [] => true
  | item :: rest => item.isDefined && allDefined rest

def membersDefined : List (String × Json) → Bool
  | [] => true
  | (_, value) :: rest => value.isDefined && membersDefined rest

end

mutual

/-- How many lists and objects lie around the innermost value, at most. -/
def depth : Json → Nat
  | list items => depthOfAll items + 1
  | object members => depthOfMembers members + 1
  | _ => 0

def depthOfAll : List Json → Nat
  | [] => 0
  | item :: rest => max item.depth (depthOfAll rest)

def depthOfMembers : List (String × Json) → Nat
  | [] => 0
  | (_, value) :: rest => max value.depth (depthOfMembers rest)

end

def insertMember (key : String) (value : Json) : List (String × Json) → List (String × Json)
  | [] => [(key, value)]
  | (k, v) :: rest =>
      if key < k then (key, value) :: (k, v) :: rest
      else if key = k then (key, value) :: rest
      else (k, v) :: insertMember key value rest

mutual

/-- The value with the members of every object sorted by key, the last of each key kept. -/
def canonical : Json → Json
  | list items => list (canonicalItems items)
  | object members => object (canonicalMembers members [])
  | value => value

def canonicalItems : List Json → List Json
  | [] => []
  | item :: rest => item.canonical :: canonicalItems rest

def canonicalMembers : List (String × Json) → List (String × Json) → List (String × Json)
  | [], sorted => sorted
  | (key, value) :: rest, sorted =>
      canonicalMembers rest (insertMember key value.canonical sorted)

end

end Json

end SearchQuery
