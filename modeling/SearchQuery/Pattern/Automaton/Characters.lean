import SearchQuery.Pattern.Automaton.Shelf
import SearchQuery.Pattern.Automaton.Size
import SearchQuery.Unicode.Utf8

/-!
# Automata for one character of a set

A set within ASCII takes a state that leads on by its ranges, and a state behind it. For any other
set the bytes of its members are looked for one after the other. Forwards, sequences that start
alike share their states, and so do those that end alike: a state is built behind all states that
it leads to, and found again on a shelf. Backwards, sequences that have been read from the first
byte on in the same way share their states, and a fork leads to each sequence from its last byte.
-/

namespace SearchQuery.Pattern.Automaton

open Unicode (ByteRange ByteTree CodeSet)

structure Draft where
  size : Size
  shelf : Shelf

namespace Draft

def state (d : Draft) (key : List Nat) (links : Nat) : Nat × Draft :=
  match d.shelf.find? key with
  | some found => (found, d)
  | none => (d.size.states, ⟨d.size.add 1 links, d.shelf.put key d.size.states⟩)

end Draft

structure Step where
  range : ByteRange
  next : Nat
  deriving Repr, DecidableEq

namespace Step

def key (steps : List Step) : List Nat :=
  steps.flatMap fun step => [step.range.first, step.range.last, step.next]

def state (steps : List Step) (d : Draft) : Nat × Draft :=
  d.state (key steps) (Size.rangeRoom * steps.length)

/-- The steps at the root of a tree, with the states behind them built. Behind the last range of a
sequence is the target. -/
def ofTree (target : Nat) : ByteTree → Draft → List Step × Draft
  | .done, d => ([], d)
  | .edge range below others, d =>
      let (steps, d) := ofTree target below d
      let (next, d) := if steps.isEmpty then (target, d) else state steps d
      let (rest, d) := ofTree target others d
      (⟨range, next⟩ :: rest, d)

end Step

def forwardSize (sequences : List (List ByteRange)) (s : Size) : Size :=
  let (steps, d) := Step.ofTree s.states (ByteTree.ofSequences sequences)
    ⟨s.add 1 0, .ofPlaces 10000⟩
  (Step.state steps d).2.size

/-- Builds what leads back from the last byte of a sequence, behind the state that the range
before the given ones leads back to. -/
def chainBack : List ByteRange → Nat → Draft → Draft
  | [], _, d => ⟨d.size.add 0 Size.branchRoom, d.shelf⟩
  | range :: rest, behind, d =>
      let (next, d) := d.state [behind, range.first, range.last] 0
      chainBack rest next d

def backwardSize (sequences : List (List ByteRange)) (s : Size) : Size :=
  (sequences.foldl (fun d sequence => chainBack sequence (s.states + 1) d)
    ⟨s.add 2 0, .ofPlaces 1000⟩).size

def Growth.character (forward : Bool) (codes : CodeSet) : Growth := fun s =>
  if codes.isAscii then (s.add 2 (Size.rangeRoom * codes.ranges.length)).fit?
  else if forward then (forwardSize codes.sequences s).fit?
  else (backwardSize codes.sequences s).fit?

end SearchQuery.Pattern.Automaton
