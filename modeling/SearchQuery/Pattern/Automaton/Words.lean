import SearchQuery.Pattern.Automaton.Size

/-!
# Automata for one of several words

A choice between words looks for all of them at once, byte by byte. Words that start alike share
their states; but as the first word that fits is taken, no word goes on behind the end of one that
comes before it as if that were not there. So the words at a state are divided where one of them
ends: the words between two ends share a state that leads on by the next byte, and a fork leads to
those states and to the ends, in order.
-/

namespace SearchQuery.Pattern.Automaton

structure Addition where
  states : Nat
  links : Nat
  deriving Repr, DecidableEq

namespace Addition

def none : Addition := ⟨0, 0⟩

def plus (a b : Addition) : Addition :=
  ⟨a.states + b.states, a.links + b.links⟩

def total (additions : List Addition) : Addition :=
  additions.foldl plus none

end Addition

def ends (words : List (List Nat)) : Nat :=
  min 1 (words.takeWhile List.isEmpty).length
    + ((words.dropWhile List.isEmpty).filter List.isEmpty).length

def runs (words : List (List Nat)) : List (List (List Nat)) :=
  (words.splitBy fun a b => !a.isEmpty && !b.isEmpty).filter fun run =>
    run.any fun word => !word.isEmpty

def heads (words : List (List Nat)) : List Nat :=
  (words.filterMap List.head?).eraseDups

def tails (head : Nat) (words : List (List Nat)) : List (List Nat) :=
  words.filterMap fun
    | [] => none
    | b :: rest => if b = head then some rest else none

def wordStates : Nat → List (List Nat) → Addition
  | 0, _ => .none
  | length + 1, words =>
      if words.all List.isEmpty then .none
      else
        let parts := runs words
        let fork : Addition := ⟨1, Size.branchRoom * (ends words + parts.length)⟩
        fork.plus (.total (parts.map fun run =>
          let bytes := heads run
          let room := if bytes.length = 1 then 0 else Size.rangeRoom * bytes.length
          Addition.plus ⟨1, room⟩ (.total (bytes.map fun b => wordStates length (tails b run)))))

def Growth.words (words : List (List Nat)) : Growth :=
  let longest := words.foldl (fun n word => max n word.length) 0
  let added := wordStates longest words
  .of (added.states + 1) added.links

end SearchQuery.Pattern.Automaton
