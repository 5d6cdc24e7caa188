/-!
# The options of a pattern

Letters in a pattern set its options, for the rest of a group or for a group of their own. They
decide how the pattern is laid out, and what its characters and signs stand for.
-/

namespace SearchQuery.Pattern

structure Options where
  /-- Whether blanks and comments are layout. -/
  verbose : Bool
  /-- Whether classes and characters are those of Unicode, not of bytes. -/
  unicode : Bool
  /-- Whether characters that differ in case alone stand for each other. -/
  caseless : Bool
  /-- Whether lines have starts and ends of their own. -/
  multiline : Bool
  /-- Whether the point stands for the ends of lines too. -/
  dotAll : Bool
  /-- Whether a carriage return belongs to the end of a line. -/
  crlf : Bool
  /-- Whether repetitions are lazy unless they are marked. -/
  lazyFirst : Bool
  deriving Repr, DecidableEq

namespace Options

def initial : Options :=
  ⟨false, true, false, false, false, false, false⟩

def letters : List Char :=
  ['i', 'm', 's', 'U', 'u', 'R', 'x']

/-- Whether a text sets options: each option once, with at most one hyphen in front of those that
are switched off. -/
def isSetting (text : List Char) : Bool :=
  text.all (fun c => c ∈ '-' :: letters) && text.Nodup && text.getLast? ≠ some '-'

def valueAfter (text : List Char) (letter : Char) (current : Bool) : Bool :=
  if letter ∈ text.takeWhile (· ≠ '-') then true
  else if letter ∈ text then false
  else current

def set (o : Options) (text : List Char) : Options where
  verbose := valueAfter text 'x' o.verbose
  unicode := valueAfter text 'u' o.unicode
  caseless := valueAfter text 'i' o.caseless
  multiline := valueAfter text 'm' o.multiline
  dotAll := valueAfter text 's' o.dotAll
  crlf := valueAfter text 'R' o.crlf
  lazyFirst := valueAfter text 'U' o.lazyFirst

end Options

end SearchQuery.Pattern
