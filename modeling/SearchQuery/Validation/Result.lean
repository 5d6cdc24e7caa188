import SearchQuery.Validation.Options

/-!
# What is known about a query

`ValidationResult` gathers what passes find out about a query, and the verdict. The message is the
list of all errors, and there is one exactly when there are errors.
-/

namespace SearchQuery

/-- What kind of expression a tree holds. -/
inductive QueryType
  | query
  | aggregation
  | sort
  deriving Repr, DecidableEq

namespace QueryType

def name : QueryType → String
  | query => "query"
  | aggregation => "aggregation"
  | sort => "sort"

def ofName? : String → Option QueryType
  | "query" => some query
  | "aggregation" => some aggregation
  | "sort" => some sort
  | _ => none

end QueryType

/-- The findings about a query so far. -/
structure ValidationResult where
  queryType : QueryType
  isValid : Bool
  message : Option String
  errors : List String
  referencedFields : NameSet
  referencedIncludes : NameSet
  unresolvedFields : NameSet
  unresolvedIncludes : NameSet
  /-- The fields that each operation is applied to. -/
  operations : NameTable
  maxNodeDepth : Nat
  deriving Repr, DecidableEq

namespace ValidationResult

def fresh (type : QueryType) : ValidationResult where
  queryType := type
  isValid := true
  message := none
  errors := []
  referencedFields := .empty
  referencedIncludes := .empty
  unresolvedFields := .empty
  unresolvedIncludes := .empty
  operations := .empty
  maxNodeDepth := 0

instance : Inhabited ValidationResult := ⟨fresh .query⟩

def addError (r : ValidationResult) (error : String) : ValidationResult :=
  let errors := r.errors ++ [error]
  { r with errors := errors, isValid := false, message := some (", ".intercalate errors) }

def toJson (r : ValidationResult) : Json :=
  let names := ValidationOptions.namesJson
  .object (
    [("query_type", .text r.queryType.name), ("is_valid", .bool r.isValid)] ++
    (match r.message with
      | some message => [("message", .text message)]
      | none => []) ++
    (if r.errors = [] then [] else [("errors", .list (r.errors.map .text))]) ++
    [("referenced_fields", names r.referencedFields),
      ("referenced_includes", names r.referencedIncludes),
      ("unresolved_fields", names r.unresolvedFields),
      ("unresolved_includes", names r.unresolvedIncludes),
      ("operations", .object (r.operations.rows.map fun row => (row.1, names row.2))),
      ("max_node_depth", .int r.maxNodeDepth)])

end ValidationResult

end SearchQuery
