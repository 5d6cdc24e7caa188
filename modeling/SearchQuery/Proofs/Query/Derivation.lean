import Mathlib.Data.List.Forall2
import SearchQuery.Proofs.Query.Grammar

/-!
# The grammar of queries

A `Derivation` is a parse tree of the token grammar

* clauses: nothing, or a clause and a rest;
* rest: nothing, or `AND`, `OR` or neither, a clause and a rest;
* clause: marks, which are `+`, `-` and `NOT`, a field or none, a value, and modifiers;
* value: clauses in parentheses, a term, a phrase, a pattern or a range,

and `Derivation.tokens` is what it derives. The tree that a derivation stands for is told by
`Describes` clause by clause: the last sign counts, and the last boost and the last proximity, an
odd number of `NOT` negates; the clauses of a group are the clauses of the list, in order, and
`Tree.Joins` says on which link group each operator of the list is found.
-/

namespace SearchQuery

namespace Grammar

/-- What may stand in front of a clause, any number of times. -/
inductive Mark
  | plus
  | minus
  | not
  deriving DecidableEq

namespace Mark

def token : Mark → Token
  | plus => .plus
  | minus => .minus
  | not => .not

def sign? : Mark → Option Sign
  | plus => some .must
  | minus => some .mustNot
  | not => none

def sign (marks : List Mark) : Option Sign :=
  (marks.filterMap sign?).getLast?

/-- An odd number of negations negates, an even one says that nothing is negated. -/
def negation (marks : List Mark) : Negation :=
  if marks.count not = 0 then .unspecified
  else if marks.count not % 2 = 1 then .negated
  else .notNegated

end Mark

/-- What may stand behind a clause, any number of times. -/
inductive Modifier
  | boost (value : String)
  | proximity (value : String)

namespace Modifier

def token : Modifier → Token
  | boost value => .boost value
  | proximity value => .proximity value

def boost? : Modifier → Option String
  | boost value => some value
  | proximity _ => none

def proximity? : Modifier → Option String
  | boost _ => none
  | proximity value => some value

end Modifier

/-- A bound of a range. -/
inductive Bound
  | term (text : String)
  | quoted (text : String)

namespace Bound

def text : Bound → String
  | term text => text
  | quoted text => text

def token : Bound → Token
  | term text => .term text
  | quoted text => .quoted text

end Bound

/-- The left sides of the grammar. -/
inductive Symbol
  | clauses
  | rest
  | clause
  | value

/-- A parse tree, with one constructor for each rule of the grammar. -/
inductive Derivation : Symbol → Type
  | nothing : Derivation .clauses
  | first (c : Derivation .clause) (more : Derivation .rest) : Derivation .clauses
  | done : Derivation .rest
  | next (operator : Operator) (c : Derivation .clause) (more : Derivation .rest) :
      Derivation .rest
  | clause (marks : List Mark) (field : Option String) (v : Derivation .value)
      (modifiers : List Modifier) : Derivation .clause
  | group (cs : Derivation .clauses) : Derivation .value
  | term (text : String) : Derivation .value
  | quoted (text : String) : Derivation .value
  | pattern (text : String) : Derivation .value
  | range (fromMin : Bool) (min max : Bound) (toMax : Bool) : Derivation .value

namespace Derivation

def tokens {s : Symbol} : Derivation s → List Token
  | nothing => []
  | first c more => c.tokens ++ more.tokens
  | done => []
  | next operator c more => operator.tokens ++ (c.tokens ++ more.tokens)
  | clause marks field v modifiers =>
      marks.map Mark.token ++
        ((field.map .field).toList ++ (v.tokens ++ modifiers.map Modifier.token))
  | group cs => .leftParen :: (cs.tokens ++ [.rightParen])
  | term text => [.term text]
  | quoted text => [.quoted text]
  | pattern text => [.pattern text]
  | range fromMin min max toMax =>
      [if fromMin then .leftBracket else .leftBrace, min.token, .term "TO", max.token,
        if toMax then .rightBracket else .rightBrace]

def list {s : Symbol} : Derivation s → List (Derivation .clause)
  | first c more => c :: more.list
  | next _ c more => c :: more.list
  | _ => []

def operators {s : Symbol} : Derivation s → List Operator
  | first _ more => more.operators
  | next operator _ more => operator :: more.operators
  | _ => []

end Derivation

end Grammar

namespace Tree

/-- Whether down the right slots of a group each clause is found in a left slot, below a group with
the operator that joins it to the next clause. -/
def Joins (t : Tree) (clauses : List Tree) (operators : List Operator) : Prop :=
  ∀ i clause operator, clauses[i]? = some clause → operators[i]? = some operator →
    ∃ id a g r, t.follow (List.replicate i .right) = group id a g clause r ∧ g.operator = operator

end Tree

namespace Grammar

mutual

/-- The tree is what the clause stands for, in a query with this root. -/
inductive Describes (root : NodeId) : Derivation .clause → Tree → Prop
  | clause {marks field v modifiers t} (hsign : t.attrs.sign = Mark.sign marks)
      (hnegation : t.attrs.negation = Mark.negation marks)
      (hboost : t.attrs.boost = (modifiers.filterMap Modifier.boost?).getLast?)
      (hproximity : t.attrs.proximity = (modifiers.filterMap Modifier.proximity?).getLast?)
      (h : Contains root field v t) : Describes root (.clause marks field v modifiers) t

/-- The tree is on the field and holds what the value stands for. -/
inductive Contains (root : NodeId) : Option String → Derivation .value → Tree → Prop
  | group {field cs id a g l r} (hfield : a.field = field) (hparens : g.parens = true)
      (hclauses : List.Forall₂ (Describes root) cs.list ((Tree.group id a g l r).clauses root))
      (hjoins : (Tree.group id a g l r).Joins ((Tree.group id a g l r).clauses root) cs.operators) :
      Contains root field (.group cs) (.group id a g l r)
  | term {field text id a} (hfield : a.field = field) (hexists : field ≠ some "_exists_")
      (hmissing : field ≠ some "_missing_") :
      Contains root field (.term text) (.leaf id a (.ofBare text))
  | fieldExists {text id a} (hfield : a.field = some text) :
      Contains root (some "_exists_") (.term text) (.leaf id a .fieldExists)
  | fieldMissing {text id a} (hfield : a.field = some text) :
      Contains root (some "_missing_") (.term text) (.leaf id a .fieldMissing)
  | quoted {field text id a} (hfield : a.field = field) :
      Contains root field (.quoted text) (.leaf id a (.term ⟨text, .quoted⟩))
  | pattern {field text id a} (hfield : a.field = field) :
      Contains root field (.pattern text) (.leaf id a (.term ⟨text, .pattern⟩))
  | range {field fromMin min max toMax id a} (hfield : a.field = field) :
      Contains root field (.range fromMin min max toMax)
        (.leaf id a (.range ⟨some min.text, some max.text, some fromMin, some toMax⟩))

end

/-- The clauses of the group are what the list stands for, one for one, and joined as it says. -/
structure Lists (root : NodeId) (cs : Derivation .clauses) (t : Tree) : Prop where
  clauses : List.Forall₂ (Describes root) cs.list (t.clauses root)
  joins : t.Joins (t.clauses root) cs.operators

end Grammar

end SearchQuery
