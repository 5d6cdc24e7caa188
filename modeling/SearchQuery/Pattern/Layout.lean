import SearchQuery.Text.Blank

/-!
# The layout of a pattern

In a verbose pattern blanks are layout, and so is a comment from a `#` to the end of its line.
`skip` passes over the layout in front of a text; in a pattern that is not verbose there is none.
`braced?` reads the text of a pair of braces, without the layout in it.
-/

namespace SearchQuery.Pattern

/-- Passes over blanks and comments; the flag tells whether the text starts within a comment. -/
def skipLayout : Bool → List Char → List Char
  | _, [] => []
  | true, c :: rest => skipLayout (c != '\n') rest
  | false, c :: rest =>
      if c = '#' then skipLayout true rest
      else if Text.isBlank c then skipLayout false rest
      else c :: rest

def skip (verbose : Bool) (cs : List Char) : List Char :=
  if verbose then skipLayout false cs else cs

/-- The next character that is not layout. Of a comment only the sign is passed over here; where
nothing but layout follows, its first character counts. -/
def peek (verbose : Bool) (cs : List Char) : Option Char :=
  let next := match cs.dropWhile Text.isBlank with
    | '#' :: rest => (rest.dropWhile Text.isBlank).head?
    | shown => shown.head?
  if verbose then next <|> cs.head? else cs.head?

/-- The text up to the closing brace, without layout, and the text after the brace; `none` when
there is no such brace. The first flag tells whether the text starts within a comment. -/
def bracedFrom? (verbose : Bool) : Bool → List Char → Option (List Char × List Char)
  | _, [] => none
  | true, c :: rest => bracedFrom? verbose (c != '\n') rest
  | false, c :: rest =>
      if c = '}' then some ([], rest)
      else if verbose && c = '#' then bracedFrom? verbose true rest
      else if verbose && Text.isBlank c then bracedFrom? verbose false rest
      else (bracedFrom? verbose false rest).map fun (text, after) => (c :: text, after)

def braced? (verbose : Bool) (cs : List Char) : Option (List Char × List Char) :=
  bracedFrom? verbose false cs

end SearchQuery.Pattern
