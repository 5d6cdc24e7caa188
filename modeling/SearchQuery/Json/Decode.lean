import SearchQuery.Json

/-!
# Records in JSON

A record may be written as an object or as the list of its fields in their order. `recordFields?`
finds the fields in either form. An object may have keys that are no fields, but no field twice;
a list may end early, but not go on behind the last field.
-/

namespace SearchQuery.Json

def valuesOf (key : String) (members : List (String × Json)) : List Json :=
  (members.filter (·.1 = key)).map (·.2)

def recordFields? (fields : List String) : Json → Option (List (Option Json))
  | object members =>
      fields.mapM fun field =>
        match valuesOf field members with
        | [] => some none
        | [value] => some (some value)
        | _ => none
  | list items =>
      if items.length ≤ fields.length then
        some (items.map some ++ List.replicate (fields.length - items.length) none)
      else none
  | _ => none

def texts? : Json → Option (List String)
  | list items => items.mapM text?
  | _ => none

def natural? (j : Json) : Option Nat :=
  match j.integer? with
  | some value => if 0 ≤ value then some value.toNat else none
  | none => none

def fieldOr {α : Type} (decode : Json → Option α) (default : α) : Option Json → Option α
  | some value => decode value
  | none => some default

end SearchQuery.Json
