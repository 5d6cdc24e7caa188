import SearchQuery.Pattern.Automaton.Size

/-!
# Fragments of automata

An automaton is put together from fragments, each of which is entered at one state and left at
another. A `Fragment` says how an automaton grows by it and how much room a link from its end
takes: none, unless it ends in a fork. Fragments stand in a row, at the branches of a fork, or are
built again and again for a repetition.
-/

namespace SearchQuery.Pattern.Automaton

structure Fragment where
  growth : Growth
  /-- The room for a link from its end. -/
  linkRoom : Nat

namespace Fragment

def states (n : Nat) : Fragment :=
  ⟨.of n 0, 0⟩

def append (a b : Fragment) : Fragment :=
  ⟨(a.growth.andThen (.of 0 a.linkRoom)).andThen b.growth, b.linkRoom⟩

def row : List Fragment → Fragment
  | [] => ⟨some, 0⟩
  | f :: rest => rest.foldl append f

def branches : List Fragment → Growth
  | [] => some
  | f :: rest => (f.growth.andThen (.of 0 (Size.branchRoom + f.linkRoom))).andThen (branches rest)

def fork : List Fragment → Fragment
  | [] => ⟨some, 0⟩
  | [f] => f
  | f :: g :: rest =>
      let both := .of 2 (2 * Size.branchRoom + f.linkRoom + g.linkRoom)
      ⟨(f.growth.andThen g.growth).andThen (Growth.andThen both (branches rest)), 0⟩

def optional (f : Fragment) : Fragment :=
  ⟨(Growth.of 1 (2 * Size.branchRoom)).andThen (f.growth.andThen (.of 1 f.linkRoom)), 0⟩

def exactly (n : Nat) (f : Fragment) : Fragment :=
  if n = 0 then states 1
  else ⟨f.growth.andThen (((Growth.of 0 f.linkRoom).andThen f.growth).times (n - 1)), f.linkRoom⟩

/-- A fragment at least so many times: a fork behind it leads back to it. Where it may be passed
without text and none is needed, two forks are, so that the order of preference is kept. -/
def atLeast (n : Nat) (f : Fragment) (mayBeEmpty : Bool) : Fragment :=
  if 0 < n then
    ⟨(exactly n f).growth.andThen (.of 1 (f.linkRoom + Size.branchRoom)), Size.branchRoom⟩
  else if mayBeEmpty then ⟨f.growth.andThen (.of 3 (f.linkRoom + 4 * Size.branchRoom)), 0⟩
  else
    ⟨(Growth.of 1 Size.branchRoom).andThen (f.growth.andThen (.of 0 f.linkRoom)), Size.branchRoom⟩

/-- A fragment up to so many times behind another one: a fork in front of each leads to the end. -/
def upTo (more : Nat) (front f : Fragment) : Fragment :=
  let next := (Growth.of 1 (2 * Size.branchRoom)).andThen (f.growth.andThen (.of 0 f.linkRoom))
  ⟨(front.growth.andThen (.of 1 front.linkRoom)).andThen (next.times more), 0⟩

def repeated (least : Nat) (most : Option Nat) (mayBeEmpty : Bool) (f : Fragment) : Fragment :=
  match most with
  | none => f.atLeast least mayBeEmpty
  | some most =>
      if least = 0 && most = 1 then f.optional
      else if least = most then f.exactly least
      else upTo (most - least) (f.exactly least) f

/-- What passes over text in front of a match. Where each match is at the end of the text that
reading starts from, nothing is passed over. -/
def entrance (anchored : Bool) : Fragment :=
  if anchored then states 1 else ⟨.of 3 (Size.rangeRoom + Size.branchRoom), Size.branchRoom⟩

end Fragment

end SearchQuery.Pattern.Automaton
