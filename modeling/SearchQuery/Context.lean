import SearchQuery.Fields.Alias
import SearchQuery.Fault
import SearchQuery.Query.Tree
import SearchQuery.Validation.Result

/-!
# The context of a query

A `Context` holds what the passes over one query share: the settings, the resolvers that callers
give, and the findings so far. A resolver that fails counts as one that finds nothing.

`QueryError` lists why a pass, or a query as a whole, can fail.
-/

namespace SearchQuery

inductive Resolution
  | resolved (value : String)
  | notFound
  | failed (reason : String)
  deriving Repr, DecidableEq

namespace Resolution

def value? : Resolution → Option String
  | resolved value => some value
  | _ => none

def ofOption : Option String → Resolution
  | some value => resolved value
  | none => notFound

end Resolution

/-- The query texts of named fragments. Only the names in the table can be resolved. -/
abbrev FragmentTable := List (String × Resolution)

namespace FragmentTable

def text? (t : FragmentTable) (name : String) : Option String :=
  (t.lookup name).bind Resolution.value?

end FragmentTable

/-- What the passes over a query share, as far as a resolver of fields can ask about it. -/
structure Surroundings where
  /-- What clauses side by side mean. -/
  defaultOperator : Operator
  /-- The fields that a term without a field searches; none stands for the default field. -/
  defaultFields : List String
  queryType : QueryType
  options : ValidationOptions
  /-- Whether the library for patterns takes the text for one. -/
  isPattern : String → Bool
  aliases : Option AliasResolver
  fragments : Option FragmentTable
  /-- What an inverted clause may match instead. -/
  alternate : Option Tree
  validation : ValidationResult

abbrev FieldResolver := String → Surroundings → Resolution

/-- What the passes over a query share. -/
structure Context extends Surroundings where
  fields : Option FieldResolver

namespace Context

/-- Nothing is set up, and any text is taken for a pattern. -/
def empty : Context where
  defaultOperator := .default
  defaultFields := []
  queryType := .query
  options := .standard
  isPattern _ := true
  aliases := none
  fields := none
  fragments := none
  alternate := none
  validation := .fresh .query

instance : Inhabited Context := ⟨empty⟩

def withQueryType (c : Context) (type : QueryType) : Context :=
  { c with queryType := type, validation := { c.validation with queryType := type } }

def freshValidation (c : Context) : Context :=
  { c with validation := .fresh c.queryType }

end Context

inductive PassKind
  | fragments
  | aliases
  | fields
  | operations
  | inversion
  | removal
  | cleanup
  | validation
  | pipeline
  deriving Repr, DecidableEq

namespace PassKind

def name : PassKind → String
  | fragments => "IncludeVisitor"
  | aliases => "AliasResolverVisitor"
  | fields => "FieldResolverVisitor"
  | operations => "AssignOperationTypeVisitor"
  | inversion => "InvertQueryVisitor"
  | removal => "RemoveFieldsVisitor"
  | cleanup => "CleanupQueryVisitor"
  | validation => "ValidationVisitor"
  | pipeline => "Pipeline"

end PassKind

/-- Why work on a query fails. -/
inductive QueryError
  | parse (error : ParseError)
  /-- Clauses side by side are alternatives, so a complement would need other rules. -/
  | inversionUnderOr
  | inversionOfLeaf
  | aliasesMissing
  | passNotFound (kind : PassKind)
  | invalid (result : ValidationResult)
  | config (fault : AliasFault)

def QueryError.message : QueryError → String
  | parse error => "parse error: " ++ error.display
  | inversionUnderOr =>
      "invalid operation: queries cannot be inverted when the default operator is OR"
  | inversionOfLeaf => "invalid operation: inversion must start from a group node"
  | aliasesMissing => "no alias resolver configured"
  | passNotFound kind => "pass " ++ kind.name ++ " is not part of the pipeline"
  | invalid result => "invalid query: " ++ result.message.getD "validation failed"
  | config fault => "invalid configuration: " ++ fault.message

end SearchQuery
