import SearchQuery.Names
import SearchQuery.Json.Decode

/-!
# The policy for queries

`ValidationOptions` says what a query may do. An empty list of what is allowed allows everything,
and a depth limit of zero is no limit. The JSON form is a record with the names of `fields`; what
it leaves out has its default.
-/

namespace SearchQuery

structure ValidationOptions where
  allowedFields : NameSet
  restrictedFields : NameSet
  allowedOperations : NameSet
  restrictedOperations : NameSet
  allowUnresolvedFields : Bool
  allowUnresolvedIncludes : Bool
  allowLeadingWildcards : Bool
  maxNodeDepth : Nat
  /-- Whether an invalid query is an error. -/
  failsOnInvalid : Bool
  deriving Repr, DecidableEq

namespace ValidationOptions

/-- Allows everything but includes that cannot be resolved. -/
def standard : ValidationOptions where
  allowedFields := .empty
  restrictedFields := .empty
  allowedOperations := .empty
  restrictedOperations := .empty
  allowUnresolvedFields := true
  allowUnresolvedIncludes := false
  allowLeadingWildcards := true
  maxNodeDepth := 0
  failsOnInvalid := false

instance : Inhabited ValidationOptions := ⟨standard⟩

def fields : List String :=
  ["allowed_fields", "restricted_fields", "allowed_operations", "restricted_operations",
    "allow_unresolved_fields", "allow_unresolved_includes", "allow_leading_wildcards",
    "allowed_max_node_depth", "should_throw"]

def ofJson? (j : Json) : Option ValidationOptions := do
  match ← j.recordFields? fields with
  | [allowedFields, restrictedFields, allowedOperations, restrictedOperations, unresolvedFields,
      unresolvedIncludes, leadingWildcards, depth, fails] =>
      let names := fun value => (Json.fieldOr Json.texts? [] value).map NameSet.ofList
      return {
        allowedFields := ← names allowedFields
        restrictedFields := ← names restrictedFields
        allowedOperations := ← names allowedOperations
        restrictedOperations := ← names restrictedOperations
        allowUnresolvedFields := ← Json.fieldOr Json.bool? true unresolvedFields
        allowUnresolvedIncludes := ← Json.fieldOr Json.bool? false unresolvedIncludes
        allowLeadingWildcards := ← Json.fieldOr Json.bool? true leadingWildcards
        maxNodeDepth := ← Json.fieldOr Json.natural? 0 depth
        failsOnInvalid := ← Json.fieldOr Json.bool? false fails }
  | _ => none

def namesJson (s : NameSet) : Json :=
  .list (s.names.map .text)

def toJson (o : ValidationOptions) : Json :=
  .object (fields.zip
    [namesJson o.allowedFields, namesJson o.restrictedFields, namesJson o.allowedOperations,
      namesJson o.restrictedOperations, .bool o.allowUnresolvedFields,
      .bool o.allowUnresolvedIncludes, .bool o.allowLeadingWildcards, .int o.maxNodeDepth,
      .bool o.failsOnInvalid])

end ValidationOptions

end SearchQuery
