import SearchQuery.Pattern.Automaton
import SearchQuery.Pattern.Meaning
import SearchQuery.Pattern.Reader

/-!
# Valid patterns

A pattern is valid when it can be read, its parts nest no deeper than the limit, and the automata
that look for it keep within theirs.
-/

namespace SearchQuery.Pattern

def isModest (p : Pattern) : Bool :=
  p.nestsWithin depthLimit && p.plan.fits

def isValid (text : String) : Bool :=
  (ofString? text).any isModest

end SearchQuery.Pattern
