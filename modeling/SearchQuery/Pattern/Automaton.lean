import SearchQuery.Pattern.Automaton.Characters
import SearchQuery.Pattern.Automaton.Fragment
import SearchQuery.Pattern.Automaton.Words
import SearchQuery.Pattern.Plan

/-!
# The automata of a plan

Text is searched by two automata: one that reads it forwards and finds where a match ends, and one
that reads it backwards and finds where the match starts. Both are put together from the same
parts, in opposite order; only the first marks what groups capture. `Plan.fragment` is what is
built for a plan, and `Plan.fits` tells whether both automata keep within the limit. A long list of
texts is looked for without them.
-/

namespace SearchQuery.Pattern.Plan

open Automaton (Size Growth Fragment)

def text? : Plan → Option (List Char)
  | text chars => some chars
  | _ => none

def mayBeEmpty (p : Plan) : Bool :=
  !p.bounds.least?.any (0 < ·)

mutual

def fragment (forward : Bool) : Plan → Fragment
  | empty => .states 1
  | text chars => .states (textSize chars)
  | set _ codes => ⟨.character forward codes, 0⟩
  | place _ => .states 1
  | repeated least most _ body =>
      (fragment forward body).repeated least most body.mayBeEmpty
  | capture _ body =>
      if forward then .row [.states 1, fragment forward body, .states 1]
      else fragment forward body
  | sequence parts =>
      let row := fragments forward parts
      .row (if forward then row else row.reverse)
  | choice branches =>
      match branches.mapM text? with
      | some texts =>
          let words := texts.map Unicode.encodeText
          ⟨.words (if forward then words else words.map List.reverse), 0⟩
      | none => .fork (fragments forward branches)

def fragments (forward : Bool) : List Plan → List Fragment
  | [] => []
  | p :: ps => fragment forward p :: fragments forward ps

end

/-- The automaton that reads forwards. It marks where a match starts and ends. -/
def forwards (p : Plan) : Fragment :=
  .row [.entrance p.bounds.atStart, .states 1, p.fragment true, .states 2]

def backwards (p : Plan) : Fragment :=
  .row [.entrance p.bounds.atEnd, p.fragment false, .states 1]

def isWordList : Plan → Bool
  | choice branches => 3000 ≤ branches.length && branches.all (·.text?.isSome)
  | _ => false

def fits (p : Plan) : Bool :=
  p.isWordList || (p.forwards.growth .zero).isSome && (p.backwards.growth .zero).isSome

end SearchQuery.Pattern.Plan
