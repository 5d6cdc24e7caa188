import SearchQuery.Pattern.Basic
import SearchQuery.Pattern.Layout
import SearchQuery.Pattern.Property
import SearchQuery.Text.Hex

/-!
# Escape sequences

`Atom.escape?` reads what follows a backslash in a pattern. Every mark of ASCII stands for itself
behind a backslash, except the angle brackets, which are the ends of a word. A letter has a
meaning of its own or none, and a digit has none: a pattern cannot refer back to its groups.
-/

namespace SearchQuery.Pattern

def scalar? (n : Nat) : Option Char :=
  if n.isValidChar then some (Char.ofNat n) else none

def takeShown? (verbose : Bool) : Nat → List Char → Option (List Char × List Char)
  | 0, cs => some ([], cs)
  | n + 1, cs => match skip verbose cs with
    | [] => none
    | c :: rest => (takeShown? verbose n rest).map fun (taken, after) => (c :: taken, after)

namespace Atom

def hex? (verbose : Bool) (digits : Nat) (cs : List Char) : Option (Atom × List Char) :=
  match skip verbose cs with
  | [] => none
  | '{' :: rest => do
      let (text, after) ← braced? verbose rest
      let c ← (Text.hexNumber? text).bind scalar?
      pure (character c, after)
  | shown => do
      let (text, after) ← takeShown? verbose digits shown
      let c ← (Text.hexNumber? text).bind scalar?
      pure (if digits = 2 then byte c else character c, after)

def property? (verbose negated : Bool) (cs : List Char) : Option (Atom × List Char) :=
  match skip verbose cs with
  | [] => none
  | '{' :: rest => do
      let (query, after) ← braced? verbose rest
      let codes ← Property.ofQuery? query
      pure (named (.property codes) negated, after)
  | c :: after => do
      let codes ← Property.ofName? [c]
      pure (named (.property codes) negated, after)

def isPlaceLetter (c : Char) : Bool :=
  c.isAlpha || c = '-'

def wordAnchor? (name : String) : Option Anchor :=
  if name = "start" then some .wordStart
  else if name = "end" then some .wordEnd
  else if name = "start-half" then some .wordStartHalf
  else if name = "end-half" then some .wordEndHalf
  else none

/-- The end of a word, which a name in braces may make precise. Braces that do not start with a
name are left to be a count. -/
def wordEnd? (verbose : Bool) (cs : List Char) : Option (Atom × List Char) :=
  match cs with
  | '{' :: rest => do
      let (name, after) ← braced? verbose rest
      if name.head?.any isPlaceLetter then
        let anchor ← wordAnchor? (String.ofList name)
        pure (place anchor, after)
      else pure (place .wordBoundary, cs)
  | _ => some (place .wordBoundary, cs)

def escape? (verbose : Bool) (cs : List Char) : Option (Atom × List Char) :=
  match cs with
  | [] => none
  | 'x' :: rest => hex? verbose 2 rest
  | 'u' :: rest => hex? verbose 4 rest
  | 'U' :: rest => hex? verbose 8 rest
  | 'p' :: rest => property? verbose false rest
  | 'P' :: rest => property? verbose true rest
  | 'd' :: rest => some (named .digit false, rest)
  | 'D' :: rest => some (named .digit true, rest)
  | 's' :: rest => some (named .space false, rest)
  | 'S' :: rest => some (named .space true, rest)
  | 'w' :: rest => some (named .word false, rest)
  | 'W' :: rest => some (named .word true, rest)
  | 'a' :: rest => some (character '\x07', rest)
  | 'f' :: rest => some (character '\x0c', rest)
  | 't' :: rest => some (character '\t', rest)
  | 'n' :: rest => some (character '\n', rest)
  | 'r' :: rest => some (character '\r', rest)
  | 'v' :: rest => some (character '\x0b', rest)
  | 'b' :: rest => wordEnd? verbose rest
  | 'B' :: rest => some (place .notWordBoundary, rest)
  | '<' :: rest => some (place .wordStart, rest)
  | '>' :: rest => some (place .wordEnd, rest)
  | 'A' :: rest => some (place .textStart, rest)
  | 'z' :: rest => some (place .textEnd, rest)
  | c :: rest =>
      if c.toNat < 0x80 && !c.isAlphanum then some (character c, rest)
      else none

/-- Whether the atom may stand outside brackets. Bytes must make up whole characters: where
classes are those of bytes, none may reach beyond ASCII, and the case of a letter counts for ASCII
alone. -/
def isAllowed (o : Options) : Atom → Bool
  | character c => o.unicode || !o.caseless || c.toNat < 0x80
  | byte c => o.unicode || c.toNat < 0x80
  | any => o.unicode
  | place _ => true
  | named (.property _) _ => o.unicode
  | named _ negated => o.unicode || !negated

def character? : Atom → Option Char
  | character c => some c
  | byte c => some c
  | _ => none

/-- Whether the atom may stand in brackets: a character or a class, and where classes are those
of bytes, within ASCII. -/
def isMember (o : Options) (a : Atom) : Bool :=
  match a with
  | character c => o.unicode || c.toNat < 0x80
  | place _ => false
  | a => a.isAllowed o

end Atom

end SearchQuery.Pattern
