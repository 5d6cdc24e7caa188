import SearchQuery.Token

/-!
# What can be wrong with query text

A `ParseError` is a cause and the place it was noticed at, counted in characters. The wording of
a cause is `ParseFault.message`.
-/

namespace SearchQuery

/-- The literals that end with the delimiter they began with. -/
inductive Delimited
  | phrase
  | pattern
  deriving Repr, DecidableEq

namespace Delimited

def mark : Delimited → Char
  | phrase => '"'
  | pattern => '/'

def token : Delimited → String → Token
  | phrase => .quoted
  | pattern => .pattern

def name : Delimited → String
  | phrase => "phrase"
  | pattern => "regular expression"

end Delimited

/-- Why a text is not a query. Where a token or the end of the text was found instead of what
had to come, `found` is `none` for the end. -/
inductive ParseFault
  /-- A backslash ends the text. -/
  | danglingEscape
  | unterminated (literal : Delimited)
  | boostWithoutNumber
  | strayColon
  | unexpected (found : Option Token)
  | clauseMissing
  | unclosedGroup (found : Option Token)
  | valueMissing (field : String) (found : Option Token)
  | rangeWordMissing (found : Option Token)
  | rangeBoundMissing (found : Option Token)
  | rangeEndMissing (found : Option Token)
  /-- Any cause that a reader of another grammar gives. -/
  | other (message : String)
  deriving Repr, DecidableEq

def ParseFault.message : ParseFault → String
  | danglingEscape => "Unexpected end of input after '\\'"
  | unterminated literal =>
      "Unterminated " ++ literal.name ++ ": missing closing '" ++ literal.mark.toString ++ "'"
  | boostWithoutNumber => "Expected a number after '^'"
  | strayColon => "Unexpected ':' without a field name"
  | unexpected found => "Unexpected " ++ Token.describe? found
  | clauseMissing => "Expected a clause after the operator"
  | unclosedGroup found => "Expected RParen, got " ++ Token.describe? found
  | valueMissing field found =>
      "Expected a value for " ++ field ++ ", got " ++ Token.describe? found
  | rangeWordMissing found => "Expected TO in range, got " ++ Token.describe? found
  | rangeBoundMissing found => "Expected a range bound, got " ++ Token.describe? found
  | rangeEndMissing found => "Expected ']' or '\x7d', got " ++ Token.describe? found
  | other message => message

/-- A cause and the number of characters before the place it was noticed at. -/
structure ParseError where
  fault : ParseFault
  position : Nat
  deriving Repr, DecidableEq

namespace ParseError

def message (e : ParseError) : String :=
  e.fault.message

def display (e : ParseError) : String :=
  e.message ++ " (at position " ++ toString e.position ++ ")"

end ParseError

end SearchQuery
