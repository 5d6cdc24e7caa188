import SearchQuery.Session
import SearchQuery.Store.Rewriter

/-!
# Resolving fields

Every field gets the name that the first of some resolvers gives it. A field that none of them
knows stays as it is, its node is flagged, and it is listed among the unresolved fields. Names that
start with `@` are reserved and left alone. The first name of a renamed field is noted on its node.

Resolvers are told the surroundings as they are by then, with what is listed so far.
-/

namespace SearchQuery

inductive FieldOutcome
  /-- There is no field, or it is reserved. -/
  | skipped
  | resolved (field name : String)
  | unresolved (field : String)
  deriving Repr, DecidableEq

/-- Whether the name is one that the library keeps for itself. -/
def isReserved (field : String) : Bool :=
  field.toList.head? = some '@'

namespace FieldOutcome

def of (resolve : String → Option String) (a : Attributes) : FieldOutcome :=
  match a.fieldName? with
  | none => skipped
  | some field =>
      if isReserved field then skipped
      else match resolve field with
        | some name => resolved field name
        | none => unresolved field

def apply (a : Attributes) : FieldOutcome → Attributes
  | resolved _ name => { a with field := some name }
  | _ => a

def note (id : NodeId) (notes : Annotations) : FieldOutcome → Annotations
  | skipped => notes
  | resolved field name => if name = field then notes else notes.setIfAbsent .writtenField id field
  | unresolved _ => notes.set .fieldUnresolved id true

def record (unresolvedFields : NameSet) : FieldOutcome → NameSet
  | unresolved field => unresolvedFields.insert field
  | _ => unresolvedFields

end FieldOutcome

def firstResolution (resolvers : List FieldResolver) (surroundings : Surroundings)
    (field : String) : Option String :=
  resolvers.findSome? fun resolve => (resolve field surroundings).value?

def Session.resolveField (resolvers : List FieldResolver) (id : NodeId) (s : Session) : Session :=
  let a := s.store.attrs id
  let outcome := FieldOutcome.of (firstResolution resolvers s.context.toSurroundings) a
  { store := { s.store.modifyAttrs id (fun _ => outcome.apply a) with
      annotations := outcome.note id s.store.annotations }
    context := { s.context with
      validation.unresolvedFields := outcome.record s.context.validation.unresolvedFields } }

def Rewriter.fields (resolvers : List FieldResolver) : Rewriter Session where
  store := Session.store
  enter id s := (none, s.resolveField resolvers id)
  leave id s := (id, s)

end SearchQuery
