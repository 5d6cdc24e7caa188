import SearchQuery.Fields.Path
import SearchQuery.Text.Lowercase

/-!
# The field catalog

A `Catalog` holds what is known about fields: the spelling of the name and the type. Names are
looked up whatever their letter case. A path that is not in the catalog is resolved by its longest
front that names a field with fields below it, and the rest of the path stays as it is, since not
everything below such a field is known.
-/

namespace SearchQuery

inductive FieldType
  | text
  | keyword
  | number
  | date
  | boolean
  | geoPoint
  | nested
  | object
  deriving Repr, DecidableEq

namespace FieldType

def hasFields : FieldType → Bool
  | nested => true
  | object => true
  | _ => false

def names : List (FieldType × String) :=
  [(text, "text"), (keyword, "keyword"), (number, "number"), (date, "date"),
    (boolean, "boolean"), (geoPoint, "geo_point"), (nested, "nested"), (object, "object")]

def name (t : FieldType) : String :=
  (names.lookup t).getD ""

def ofName? (name : String) : Option FieldType :=
  (names.find? (·.2 = name)).map (·.1)

theorem ofName?_name (t : FieldType) : ofName? t.name = some t := by
  cases t <;> decide

end FieldType

structure FieldEntry where
  name : String
  type : FieldType
  deriving Repr, DecidableEq

/-- What is known about fields, each filed under its name in small letters. -/
structure Catalog where
  filed : List (String × FieldEntry)
  deriving Repr, DecidableEq

namespace Catalog

def empty : Catalog :=
  ⟨[]⟩

def size (c : Catalog) : Nat :=
  c.filed.length

/-- Takes in what is known about a field, in the place of what was. -/
def insert (c : Catalog) (entry : FieldEntry) : Catalog :=
  let key := Text.lowercase entry.name
  ⟨(key, entry) :: c.filed.filter (·.1 ≠ key)⟩

def get? (c : Catalog) (field : String) : Option FieldEntry :=
  c.filed.lookup (Text.lowercase field)

def erase (c : Catalog) (field : String) : Catalog :=
  let key := Text.lowercase field
  ⟨c.filed.filter (·.1 ≠ key)⟩

def resolve? (c : Catalog) (path : String) : Option String :=
  match c.get? path with
  | some entry => some entry.name
  | none =>
      (Path.dotCuts path.toList).findSome? fun (front, rest) =>
        match c.get? (String.ofList front) with
        | some entry => if entry.type.hasFields then some (entry.name ++ String.ofList rest) else none
        | none => none

end Catalog

end SearchQuery
