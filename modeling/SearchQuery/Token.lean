import SearchQuery.Text.Quoted

/-!
# Tokens

The words and marks that query text is made of. A token that carries text carries it as written,
escapes included and delimiters left out.
-/

namespace SearchQuery

inductive Token
  /-- Bare text, such as `fox`, `fo*` or `>=10`. -/
  | term (text : String)
  | quoted (text : String)
  | pattern (text : String)
  /-- Bare text up to a colon, which belongs to the token. -/
  | field (name : String)
  | leftParen
  | rightParen
  | leftBracket
  | rightBracket
  | leftBrace
  | rightBrace
  | plus
  | minus
  /-- `^` and its number. -/
  | boost (value : String)
  /-- `~` and its number, which may be empty. -/
  | proximity (value : String)
  | and
  | or
  | not
  deriving Repr, DecidableEq

namespace Token

def describe : Token → String
  | term text => "Term(" ++ Text.quote text ++ ")"
  | quoted text => "Quoted(" ++ Text.quote text ++ ")"
  | pattern text => "Regex(" ++ Text.quote text ++ ")"
  | field name => "Field(" ++ Text.quote name ++ ")"
  | leftParen => "LParen"
  | rightParen => "RParen"
  | leftBracket => "LBracket"
  | rightBracket => "RBracket"
  | leftBrace => "LBrace"
  | rightBrace => "RBrace"
  | plus => "Plus"
  | minus => "Minus"
  | boost value => "Boost(" ++ Text.quote value ++ ")"
  | proximity value => "Proximity(" ++ Text.quote value ++ ")"
  | and => "And"
  | or => "Or"
  | not => "Not"

/-- What stands at a place, a token or the end of the text, as messages show it. -/
def describe? : Option Token → String
  | some token => token.describe
  | none => "Eof"

end Token

structure Lexeme where
  token : Token
  start : Nat
  stop : Nat
  deriving Repr, DecidableEq

end SearchQuery
