import SearchQuery.Fault
import SearchQuery.Text.Blank

/-!
# From characters to tokens

`scan` reads the token at the front of a text that starts with no blank, and says how many
characters it takes; `lexemes` repeats it over the whole text, passing over blanks. Reading stops
at the end of the text or at the first fault, and the tokens before a fault are kept: a reader of
tokens that gives up earlier never sees the fault.

A bare term ends before a blank or one of `( ) [ ] { } " ^ ~ :` and a backslash takes the
character after it along. The signs count as signs only where something follows them at once, so
a lone `+` or `-` is a term.
-/

namespace SearchQuery

namespace Token

/-- Whether the character ends a bare term in front of it. -/
def isBoundary (c : Char) : Bool :=
  Text.isBlank c || c ∈ ['(', ')', '[', ']', '{', '}', '"', '^', '~', ':']

/-- The bare term at the front and what follows it, or `none` when a backslash ends the text. -/
def splitTerm? : List Char → Option (List Char × List Char)
  | [] => some ([], [])
  | ['\\'] => none
  | '\\' :: c :: rest => (splitTerm? rest).map fun (taken, after) => ('\\' :: c :: taken, after)
  | c :: rest =>
      if isBoundary c then some ([], c :: rest)
      else (splitTerm? rest).map fun (taken, after) => (c :: taken, after)

/-- The text up to the closing mark, escapes kept, or `none` when there is no such mark. -/
def splitDelimited? (mark : Char) : List Char → Option (List Char)
  | [] => none
  | ['\\'] => none
  | '\\' :: c :: rest => (splitDelimited? mark rest).map fun text => '\\' :: c :: text
  | c :: rest =>
      if c = mark then some []
      else (splitDelimited? mark rest).map fun text => c :: text

def isNumeral (c : Char) : Bool :=
  c.isDigit || c = '.'

/-- Whether a sign with this text after it is a sign: something must follow it at once. -/
def bindsTo : List Char → Bool
  | [] => false
  | c :: _ => !Text.isBlank c

/-- The token for a bare term that no colon follows: three words are operators. -/
def ofWord (taken : List Char) : Token :=
  if taken = ['A', 'N', 'D'] then .and
  else if taken = ['O', 'R'] then .or
  else if taken = ['N', 'O', 'T'] then .not
  else .term (String.ofList taken)

/-- The token for a bare term, or for a field when a colon follows; with its width. -/
def ofTerm (taken after : List Char) : Token × Nat :=
  match after with
  | ':' :: _ => (.field (String.ofList taken), taken.length + 1)
  | _ => (ofWord taken, taken.length)

/-- The literal whose opening mark was just passed, with its width. -/
def scanDelimited (literal : Delimited) (rest : List Char) : Except ParseFault (Token × Nat) :=
  match splitDelimited? literal.mark rest with
  | some text => .ok (literal.token (String.ofList text), text.length + 2)
  | none => .error (.unterminated literal)

/-- The bare term or field at the front, with its width. -/
def scanTerm (cs : List Char) : Except ParseFault (Token × Nat) :=
  match splitTerm? cs with
  | some (taken, after) => .ok (ofTerm taken after)
  | none => .error .danglingEscape

def scan (c : Char) (rest : List Char) : Except ParseFault (Token × Nat) :=
  match c with
  | '(' => .ok (.leftParen, 1)
  | ')' => .ok (.rightParen, 1)
  | '[' => .ok (.leftBracket, 1)
  | ']' => .ok (.rightBracket, 1)
  | '{' => .ok (.leftBrace, 1)
  | '}' => .ok (.rightBrace, 1)
  | '"' => scanDelimited .phrase rest
  | '/' => scanDelimited .pattern rest
  | '^' =>
      let number := rest.takeWhile isNumeral
      if number = [] then .error .boostWithoutNumber
      else .ok (.boost (String.ofList number), number.length + 1)
  | '~' =>
      let number := rest.takeWhile isNumeral
      .ok (.proximity (String.ofList number), number.length + 1)
  | ':' => .error .strayColon
  | '+' => if bindsTo rest then .ok (.plus, 1) else scanTerm (c :: rest)
  | '-' => if bindsTo rest then .ok (.minus, 1) else scanTerm (c :: rest)
  | '!' => if rest.head? = some '=' then scanTerm (c :: rest) else .ok (.not, 1)
  | '&' => if rest.head? = some '&' then .ok (.and, 2) else scanTerm (c :: rest)
  | '|' => if rest.head? = some '|' then .ok (.or, 2) else scanTerm (c :: rest)
  | c => scanTerm (c :: rest)

end Token

/-- The tokens of a text, and how the reading ended. -/
structure Lexing where
  lexemes : List Lexeme
  /-- The fault that stopped the reading, if any. -/
  fault? : Option ParseFault
  /-- The place of the end of the text, or of the token that the fault is in. -/
  stop : Nat
  deriving Repr, DecidableEq

namespace Lexing

def ofChars (position : Nat) (cs : List Char) : Lexing :=
  match cs with
  | [] => ⟨[], none, position⟩
  | c :: rest =>
      if Text.isBlank c then ofChars (position + 1) rest
      else match Token.scan c rest with
        | .error fault => ⟨[], some fault, position⟩
        | .ok (token, width) =>
            let later := ofChars (position + width) (rest.drop (width - 1))
            { later with lexemes := ⟨token, position, position + width⟩ :: later.lexemes }
termination_by cs.length

def ofString (text : String) : Lexing :=
  ofChars 0 text.toList

def error? (l : Lexing) : Option ParseError :=
  l.fault?.map (⟨·, l.stop⟩)

end Lexing

end SearchQuery
