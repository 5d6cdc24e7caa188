import SearchQuery.Fields.Path

/-!
# Flat maps of fields

A `FieldMap` gives new names to paths. A path that is not in the map is resolved by its longest
front that is, and the rest of the path stays as it is. An earlier entry counts before a later one
for the same path.
-/

namespace SearchQuery

abbrev FieldMap := List (String × String)

namespace FieldMap

def resolve? (m : FieldMap) (path : String) : Option String :=
  (Path.cuts path.toList).findSome? fun (front, rest) =>
    (m.lookup (String.ofList front)).map (· ++ String.ofList rest)

end FieldMap

end SearchQuery
