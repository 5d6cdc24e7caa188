import SearchQuery.Pass.Aliases
import SearchQuery.Pass.Cleanup
import SearchQuery.Pass.Fields
import SearchQuery.Pass.Fragments
import SearchQuery.Pass.Inversion
import SearchQuery.Pass.Operations
import SearchQuery.Pass.Removal
import SearchQuery.Store.View
import SearchQuery.Validation.Policy

/-!
# Passes

A `Pass` is one of the changes and checks that a query can go through, with what it was set up
with. `Pass.run` starts a pass at a node of the query of a `Session` and gives back the node that
then stands in its place, or its former parent if nothing does.

What a pass looks at before it changes anything is all that can make it fail, but for the check of
a query, which leaves its findings behind.
-/

namespace SearchQuery

/-- A change or check with what it was set up with. What the context gives comes first. -/
inductive Pass
  | fragments (table : Option FragmentTable) (skip : String → Bool)
      (parse : String → Except ParseError Tree)
  | aliases (resolver : Option AliasResolver)
  | fields (resolver : Option FieldResolver)
  | operations
  | inversion (kept : List String)
  | removal (unwanted : String → Bool)
  | cleanup
  | validation (options : Option ValidationOptions)

namespace Pass

def kind : Pass → PassKind
  | fragments .. => .fragments
  | aliases _ => .aliases
  | fields _ => .fields
  | operations => .operations
  | inversion _ => .inversion
  | removal _ => .removal
  | cleanup => .cleanup
  | validation _ => .validation

def succeed (outcome : NodeId × Session) : Except QueryError NodeId × Session :=
  (.ok outcome.1, outcome.2)

def onStore (s : Session) (change : Store → NodeId × Store) : NodeId × Session :=
  let (top, store) := change s.store
  (top, { s with store := store })

def runInversion (kept : List String) (id : NodeId) (s : Session) :
    Except QueryError NodeId × Session :=
  if s.context.defaultOperator = .or then (.error .inversionUnderOr, s)
  else if !s.store.isGroup id then (.error .inversionOfLeaf, s)
  else succeed (onStore s (·.invert kept s.context.alternate id))

/-- What the findings about the tree below a node depend on. -/
def setting (s : Session) : Findings.Setting :=
  ⟨s.store.root, s.store.annotations, s.context.queryType, s.context.defaultFields,
    s.context.isPattern⟩

/-- Checks the tree below a node against the policy. -/
def runValidation (own : Option ValidationOptions) (id : NodeId) (s : Session) :
    Except QueryError NodeId × Session :=
  let options := own.getD s.context.options
  let found := (s.store.view id).findings (setting s)
  let result := s.context.validation.validate s.context.queryType options found
  (if options.failsOnInvalid && !result.isValid then .error (.invalid result) else .ok id,
    { s with context.validation := result })

def run (p : Pass) (id : NodeId) (s : Session) : Except QueryError NodeId × Session :=
  match p with
  | fragments table skip parse =>
      succeed (s.expand ⟨s.context.fragments.toList ++ table.toList, skip, parse⟩ id)
  | aliases own =>
      match s.context.aliases.or own with
      | none => (.error .aliasesMissing, s)
      | some r => succeed (id, { s with store := s.store.resolveAliases r id })
  | fields own =>
      succeed ((Rewriter.fields (s.context.fields.toList ++ own.toList)).visit id s)
  | operations => succeed (Rewriter.operations.visit id s)
  | inversion kept => runInversion kept id s
  | removal unwanted => succeed (onStore s ((Rewriter.removal unwanted).visit id))
  | cleanup => succeed (onStore s (Rewriter.cleanup.visit id))
  | validation own => runValidation own id s

end Pass

namespace Session

/-- Runs passes one after another, each at the node the one before it came back with, up to the
first that fails. -/
def runAll (s : Session) (id : NodeId) : List Pass → Except QueryError NodeId × Session
  | [] => (.ok id, s)
  | p :: rest =>
      match p.run id s with
      | (.ok id, s) => s.runAll id rest
      | (.error error, s) => (.error error, s)

def takeValidation (s : Session) : ValidationResult × Session :=
  (s.context.validation, { s with context := s.context.freshValidation })

def validate (s : Session) : Except QueryError ValidationResult × Session :=
  match (Pass.validation none).run s.store.root s with
  | (.ok _, s) =>
      let (result, s) := s.takeValidation
      (.ok result, s)
  | (.error error, s) => (.error error, s)

end Session

end SearchQuery
