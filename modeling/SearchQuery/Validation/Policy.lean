import SearchQuery.Validation.Findings

/-!
# Applying the policy

The findings about a tree are added to what is known about the query, and then the policy is
applied to all that is known. An error that was there before is not reported again.
-/

namespace SearchQuery

namespace ValidationOptions

def nameError? (allowed restricted : NameSet) (kind name : String) : Option String :=
  if !allowed.isEmpty && !allowed.contains name then some (kind ++ " not allowed: " ++ name)
  else if restricted.contains name then some (kind ++ " is restricted: " ++ name)
  else none

def unresolvedError? (allow : Bool) (kind : String) (names : NameSet) : Option String :=
  if !allow && !names.isEmpty then
    some ("Unresolved " ++ kind ++ ": " ++ ", ".intercalate names.names)
  else none

def depthError? (limit depth : Nat) : Option String :=
  if 0 < limit && limit < depth then
    some ("Query has a node depth of " ++ toString depth ++ " but at most " ++ toString limit ++
      " is allowed")
  else none

/-- What in a query is against the policy. Wildcards and patterns are those of the tree at hand;
all else is what is known about the query. -/
def errors (o : ValidationOptions) (found : Findings) (r : ValidationResult) : List String :=
  (r.referencedFields.names.filter (· ≠ "")).filterMap
      (nameError? o.allowedFields o.restrictedFields "Field") ++
    r.operations.keys.filterMap
      (nameError? o.allowedOperations o.restrictedOperations "Operation") ++
    (unresolvedError? o.allowUnresolvedFields "fields" r.unresolvedFields).toList ++
    (unresolvedError? o.allowUnresolvedIncludes "includes" r.unresolvedIncludes).toList ++
    (if o.allowLeadingWildcards then []
      else found.leadingWildcards.map ("Terms must not start with a wildcard: " ++ ·)) ++
    found.invalidPatterns.map ("Invalid regular expression: " ++ ·) ++
    (depthError? o.maxNodeDepth r.maxNodeDepth).toList

end ValidationOptions

namespace ValidationResult

def addFindings (r : ValidationResult) (type : QueryType) (found : Findings) : ValidationResult :=
  { r with
    queryType := type
    maxNodeDepth := max r.maxNodeDepth found.maxDepth
    referencedFields := r.referencedFields.union found.fields
    unresolvedFields := r.unresolvedFields.union found.unresolved
    operations := r.operations.union found.operations }

def addNewErrors (r : ValidationResult) (errors : List String) : ValidationResult :=
  (errors.filter fun error => !r.errors.contains error).foldl addError r

/-- What is known after the policy was applied to one more tree. -/
def validate (r : ValidationResult) (type : QueryType) (o : ValidationOptions) (found : Findings) :
    ValidationResult :=
  let r := r.addFindings type found
  r.addNewErrors (o.errors found r)

end ValidationResult

end SearchQuery
