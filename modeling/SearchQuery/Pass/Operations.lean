import SearchQuery.Pass.Fields

/-!
# Operations of aggregations and sorts

In an aggregation or a sort the field in front of a colon is an operation, and the term behind it
is the field it is applied to: `min:price` is the operation `min` on the field `price`. A group
takes its first clause for the field and keeps the others as its own clauses; a bare term is an
operation on no field. The operation is noted on the node.

Where an operation names no field, that is an error of the query, and the node stays as it is.

`Rewriter.operations` is the walk; `Tree.assignOperations` and `Tree.operationEvents` say what comes of
a tree, and what is recorded.
-/

namespace SearchQuery

inductive OperationEvent
  | assigned (id : NodeId) (operation : String)
  /-- The operation, if one is named, has no field. -/
  | fieldMissing (operation : Option String)
  deriving Repr, DecidableEq

namespace OperationEvent

def note (notes : Annotations) : OperationEvent → Annotations
  | assigned id operation => notes.set .operationType id operation
  | fieldMissing _ => notes

def record (result : ValidationResult) : OperationEvent → ValidationResult
  | assigned .. => result
  | fieldMissing (some operation) => result.addError (operation ++ " must specify a field")
  | fieldMissing none => result.addError "must specify a field"

end OperationEvent

namespace Tree

def operation? (a : Attributes) : Option String :=
  a.fieldName?.filter (!isReserved ·)

/-- The field that the first clause of a group names. -/
def operand? : Tree → Option String
  | leaf _ _ (.term t) => some t.unescaped |>.filter (· ≠ "")
  | _ => none

def takeOperand (a clause : Attributes) (field : String) : Attributes :=
  { a with
    field := some field
    boost := clause.boost.or a.boost
    proximity := clause.proximity.or a.proximity }

def operationTermAttrs (a : Attributes) (t : Term) : Attributes :=
  match a.fieldName? with
  | some field =>
      if isReserved field || t.unescaped = "" then a else { a with field := some t.unescaped }
  | none => if t.unescaped = "" then a else { a with field := some "" }

def operationTermEvents (id : NodeId) (a : Attributes) (t : Term) : List OperationEvent :=
  match a.fieldName? with
  | some field =>
      if isReserved field then []
      else if t.unescaped = "" then [.fieldMissing (some field), .assigned id field]
      else [.assigned id field]
  | none => if t.unescaped = "" then [.fieldMissing none] else [.assigned id t.unescaped]

def assignOperations : Tree → Tree
  | nil => nil
  | leaf id a (.term t) => leaf id (operationTermAttrs a t) (.term t)
  | leaf id a l => leaf id a l
  | group id a g l r =>
      match operation? a, l.operand? with
      | some _, some field => group id (takeOperand a l.attrs field) g nil r.assignOperations
      | _, _ => group id a g l.assignOperations r.assignOperations

def operationEvents : Tree → List OperationEvent
  | nil => []
  | leaf id a (.term t) => operationTermEvents id a t
  | leaf .. => []
  | group id a _ l r =>
      match operation? a, l.operand? with
      | some operation, some _ => .assigned id operation :: r.operationEvents
      | some operation, none =>
          .fieldMissing (some operation) :: .assigned id operation ::
            (l.operationEvents ++ r.operationEvents)
      | none, _ => l.operationEvents ++ r.operationEvents

end Tree

namespace Session

/-- The field that the first clause of a group names, with that clause. -/
def operand? (s : Session) (left : Option NodeId) : Option (NodeId × String) := do
  let left ← left
  match ← s.store.node? left with
  | ⟨_, .leaf (.term t), _⟩ => if t.unescaped = "" then none else some (left, t.unescaped)
  | _ => none

def observe (s : Session) (e : OperationEvent) : Session :=
  { store := { s.store with annotations := e.note s.store.annotations }
    context := { s.context with validation := e.record s.context.validation } }

def takeOperand (s : Session) (id left : NodeId) (field : String) : Session :=
  let clause := s.store.attrs left
  let store := s.store.modifyAttrs left ({ · with boost := none, proximity := none })
  let store := store.modifyAttrs id (Tree.takeOperand · clause field)
  { s with store := store.setLeft id none }

def assignOperation (id : NodeId) (s : Session) : Session :=
  match s.store.node? id with
  | some ⟨a, .group _ left _, _⟩ =>
      match Tree.operation? a with
      | none => s
      | some operation =>
          let s := match s.operand? left with
            | some (left, field) => s.takeOperand id left field
            | none => s.observe (.fieldMissing (some operation))
          s.observe (.assigned id operation)
  | some ⟨a, .leaf (.term t), _⟩ =>
      let s := { s with
        store := s.store.modifyAttrs id (fun a => Tree.operationTermAttrs a t) }
      (Tree.operationTermEvents id a t).foldl observe s
  | _ => s

end Session

def Rewriter.operations : Rewriter Session where
  store := Session.store
  enter id s := (none, s.assignOperation id)
  leave id s := (id, s)

end SearchQuery
