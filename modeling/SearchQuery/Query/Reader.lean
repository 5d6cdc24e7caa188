import SearchQuery.Query.Tree
import SearchQuery.Token.Lexer

/-!
# Reading a query

A `Reader` takes the tokens of a text one after another and builds the tree bottom up. It holds
the groups whose closing parenthesis has not come yet, and its mode says what may come next.
Reading is therefore a fold over the tokens: `Reader.step` takes one token, `Reader.finish` takes
the end of the text, and each refuses what cannot come there. A fault is always about the token at
hand, so a fault in the characters further on is reported only if the reader gets that far.

Nodes are numbered in the order in which they are complete: a leaf at its last token, a group at
its closing parenthesis and hence after the nodes in it, and directly after a group its link
groups from the outermost on. The root has the number 0, and its link groups come last.
-/

namespace SearchQuery

namespace Leaf

def comparison? : List Char → Option Range
  | '>' :: '=' :: bound => atLeast bound true
  | '<' :: '=' :: bound => atMost bound true
  | '>' :: bound => atLeast bound false
  | '<' :: bound => atMost bound false
  | _ => none
where
  atLeast (bound : List Char) (inclusive : Bool) : Option Range :=
    if bound = [] then none else some ⟨some (String.ofList bound), none, some inclusive, none⟩
  atMost (bound : List Char) (inclusive : Bool) : Option Range :=
    if bound = [] then none else some ⟨none, some (String.ofList bound), none, some inclusive⟩

def ofBare (text : String) : Leaf :=
  match comparison? text.toList with
  | some r => range r
  | none => term ⟨text, .bare⟩

end Leaf

namespace Tree

/-- What a group that holds the clauses looks like inside: its operator and its two slots. More
than two clauses need link groups, numbered from `next` on; the last part is the first number not
used. The operator of a clause joins it to the clause before it. -/
def chain : List (Operator × Tree) → NodeId → (Operator × Tree × Tree) × NodeId
  | [], next => ((.default, nil, nil), next)
  | [(_, only)], next => ((.default, only, nil), next)
  | [(_, first), (operator, second)], next => ((operator, first, second), next)
  | (_, first) :: (operator, second) :: third :: rest, next =>
      let ((inner, l, r), after) := chain ((operator, second) :: third :: rest) (next + 1)
      ((operator, first, group next .plain ⟨inner, false⟩ l r), after)

/-- The group with this number that holds the clauses, and the first number not used. -/
def ofClauses (id : NodeId) (attrs : Attributes) (parens : Bool)
    (clauses : List (Operator × Tree)) (next : NodeId) : Tree × NodeId :=
  let ((operator, l, r), after) := chain clauses next
  (group id attrs ⟨operator, parens⟩ l r, after)

end Tree

namespace Reader

structure Frame where
  /-- What was said of the group before it was opened. -/
  attrs : Attributes
  /-- Its clauses so far, the last one first, each with the operator before it. -/
  clauses : List (Operator × Tree)
  /-- The operator read since the last clause. -/
  operator : Operator
  deriving Repr, DecidableEq

namespace Frame

def opened (attrs : Attributes) : Frame :=
  ⟨attrs, [], .default⟩

def push (f : Frame) (clause : Tree) : Frame :=
  { f with clauses := (f.operator, clause) :: f.clauses, operator := .default }

end Frame

/-- The range being read: what was said before it, and whether it includes its lower bound. -/
structure OpenRange where
  attrs : Attributes
  minInclusive : Bool
  deriving Repr, DecidableEq

inductive Mode
  /-- An operator, a clause or the end of the group. -/
  | between
  /-- A clause of which only signs and negations have been read. -/
  | marked (attrs : Attributes)
  /-- The value for a field. -/
  | value (field : String) (attrs : Attributes)
  | lowerBound (range : OpenRange)
  | rangeWord (range : OpenRange) (min : String)
  | upperBound (range : OpenRange) (min : String)
  | rangeEnd (range : OpenRange) (min max : String)
  /-- Modifiers of a clause, or whatever may come after it. -/
  | modifiers (clause : Tree)
  deriving Repr, DecidableEq

def Mode.fault (found : Option Token) : Mode → ParseFault
  | between => .unexpected found
  | marked _ => .unexpected found
  | value field _ => .valueMissing field found
  | lowerBound _ => .rangeBoundMissing found
  | rangeWord .. => .rangeWordMissing found
  | upperBound .. => .rangeBoundMissing found
  | rangeEnd .. => .rangeEndMissing found
  | modifiers _ => .unexpected found

end Reader

structure Reader where
  mode : Reader.Mode
  /-- The innermost group that is open; the root when no parenthesis is. -/
  group : Reader.Frame
  /-- The groups around it, from the inside out. -/
  outer : List Reader.Frame
  /-- The first number not used. -/
  next : NodeId
  deriving Repr, DecidableEq

namespace Reader

def start : Reader :=
  ⟨.between, .opened .plain, [], 1⟩

def readLeaf (r : Reader) (attrs : Attributes) (leaf : Leaf) : Reader :=
  { r with mode := .modifiers (.leaf r.next attrs leaf), next := r.next + 1 }

def openGroup (r : Reader) (attrs : Attributes) : Reader :=
  ⟨.between, .opened attrs, r.group :: r.outer, r.next⟩

/-- Reads the first token of a value, after what was said of it; `mode` is the mode the reader is
in, which words the fault. -/
def readValue (r : Reader) (mode : Mode) (attrs : Attributes) :
    Token → Except ParseFault Reader
  | .leftParen => .ok (r.openGroup attrs)
  | .term text => .ok (r.readLeaf attrs (.ofBare text))
  | .quoted text => .ok (r.readLeaf attrs (.term ⟨text, .quoted⟩))
  | .pattern text => .ok (r.readLeaf attrs (.term ⟨text, .pattern⟩))
  | .leftBracket => .ok { r with mode := .lowerBound ⟨attrs, true⟩ }
  | .leftBrace => .ok { r with mode := .lowerBound ⟨attrs, false⟩ }
  | token => .error (mode.fault (some token))

def readClause (r : Reader) (attrs : Attributes) : Token → Except ParseFault Reader
  | .plus => .ok { r with mode := .marked { attrs with sign := some .must } }
  | .minus => .ok { r with mode := .marked { attrs with sign := some .mustNot } }
  | .not => .ok { r with mode := .marked { attrs with negation := attrs.negation.merge .negated } }
  | .field name => .ok { r with mode := .value name { attrs with field := some name } }
  | token => r.readValue .between attrs token

/-- Reads the first token of the value for a field. Two names ask about the field that the value
names. -/
def readFieldValue (r : Reader) (field : String) (attrs : Attributes) :
    Token → Except ParseFault Reader
  | .term name =>
      if field = "_exists_" then .ok (r.readLeaf { attrs with field := some name } .fieldExists)
      else if field = "_missing_" then
        .ok (r.readLeaf { attrs with field := some name } .fieldMissing)
      else r.readValue (.value field attrs) attrs (.term name)
  | token => r.readValue (.value field attrs) attrs token

def readOperator (r : Reader) (operator : Operator) (token : Token) : Except ParseFault Reader :=
  if r.group.clauses = [] ∨ r.group.operator ≠ .default then .error (.unexpected (some token))
  else .ok { r with mode := .between, group := { r.group with operator := operator } }

/-- Reads a closing parenthesis: the innermost group becomes a clause of the group around it. -/
def closeGroup (r : Reader) : Except ParseFault Reader :=
  if r.group.operator ≠ .default then .error .clauseMissing
  else match r.outer with
    | [] => .error (.unexpected (some .rightParen))
    | around :: outer =>
        let (clause, next) :=
          Tree.ofClauses r.next r.group.attrs true r.group.clauses.reverse (r.next + 1)
        .ok ⟨.modifiers clause, around, outer, next⟩

def readBetween (r : Reader) : Token → Except ParseFault Reader
  | .rightParen => r.closeGroup
  | .and => r.readOperator .and .and
  | .or => r.readOperator .or .or
  | token => r.readClause .plain token

def endClause (r : Reader) (clause : Tree) : Reader :=
  { r with mode := .between, group := r.group.push clause }

def bound? : Token → Option String
  | .term text => some text
  | .quoted text => some text
  | _ => none

def closeRange (r : Reader) (range : OpenRange) (min max : String) (maxInclusive : Bool) :
    Reader :=
  r.readLeaf range.attrs
    (.range ⟨some min, some max, some range.minInclusive, some maxInclusive⟩)

def step (r : Reader) (token : Token) : Except ParseFault Reader :=
  match r.mode with
  | .between => r.readBetween token
  | .marked attrs => r.readClause attrs token
  | .value field attrs => r.readFieldValue field attrs token
  | .lowerBound range =>
      match bound? token with
      | some min => .ok { r with mode := .rangeWord range min }
      | none => .error (r.mode.fault (some token))
  | .rangeWord range min =>
      if token = .term "TO" then .ok { r with mode := .upperBound range min }
      else .error (r.mode.fault (some token))
  | .upperBound range min =>
      match bound? token with
      | some max => .ok { r with mode := .rangeEnd range min max }
      | none => .error (r.mode.fault (some token))
  | .rangeEnd range min max =>
      match token with
      | .rightBracket => .ok (r.closeRange range min max true)
      | .rightBrace => .ok (r.closeRange range min max false)
      | _ => .error (r.mode.fault (some token))
  | .modifiers clause =>
      match token with
      | .boost value =>
          .ok { r with mode := .modifiers (clause.withAttrs { clause.attrs with boost := some value }) }
      | .proximity value =>
          .ok { r with
            mode := .modifiers (clause.withAttrs { clause.attrs with proximity := some value }) }
      | _ => (r.endClause clause).readBetween token

def finishBetween (r : Reader) : Except ParseFault Tree :=
  if r.group.operator ≠ .default then .error .clauseMissing
  else if r.outer ≠ [] then .error (.unclosedGroup none)
  else .ok (Tree.ofClauses 0 r.group.attrs false r.group.clauses.reverse r.next).1

def finish (r : Reader) : Except ParseFault Tree :=
  match r.mode with
  | .between => r.finishBetween
  | .modifiers clause => (r.endClause clause).finishBetween
  | mode => .error (mode.fault none)

def steps : Reader → List Lexeme → Except ParseError Reader
  | r, [] => .ok r
  | r, lexeme :: rest =>
      match r.step lexeme.token with
      | .ok r' => r'.steps rest
      | .error fault => .error ⟨fault, lexeme.start⟩

end Reader

namespace Lexing

def query (l : Lexing) : Except ParseError Tree := do
  let reader ← Reader.start.steps l.lexemes
  match l.error? with
  | some error => .error error
  | none =>
      match reader.finish with
      | .ok tree => .ok tree
      | .error fault => .error ⟨fault, l.stop⟩

end Lexing

namespace Tree

def parse (text : String) : Except ParseError Tree :=
  (Lexing.ofString text).query

end Tree

end SearchQuery
