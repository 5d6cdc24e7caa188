/-!
# The size of an automaton

An automaton grows state by state. Each state takes the same room; a state that leads to several
others takes more for each of them. A `Growth` adds to the size of an automaton, unless that would
exceed the limit.
-/

namespace SearchQuery.Pattern.Automaton

structure Size where
  states : Nat
  links : Nat
  deriving Repr, DecidableEq

namespace Size

def zero : Size := ⟨0, 0⟩

def stateRoom : Nat := 32

def rangeRoom : Nat := 8

def branchRoom : Nat := 4

def limit : Nat := 10 * 1024 * 1024

def room (s : Size) : Nat :=
  stateRoom * s.states + s.links

def add (s : Size) (states links : Nat) : Size :=
  ⟨s.states + states, s.links + links⟩

def fit? (s : Size) : Option Size :=
  if s.room ≤ limit then some s else none

end Size

abbrev Growth := Size → Option Size

namespace Growth

def of (states links : Nat) : Growth := fun s =>
  (s.add states links).fit?

def andThen (g h : Growth) : Growth := fun s =>
  match g s with
  | some t => h t
  | none => none

def times (g : Growth) : Nat → Growth
  | 0 => some
  | n + 1 => fun s =>
      match g s with
      | some t => times g n t
      | none => none

end Growth

end SearchQuery.Pattern.Automaton
