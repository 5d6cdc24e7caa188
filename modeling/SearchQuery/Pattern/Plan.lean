import SearchQuery.Pattern.Basic

/-!
# Plans

A plan says what a matcher looks for, freed of the ways to write it: options have had their
effect, a class is the set of its members, and parts that come to the same are brought into one
form. `Plan.ofSet`, `Plan.ofParts`, `Plan.ofBranches` and `Plan.ofRepetition` build plans in that
form. `Plan.bounds` says how much text a plan takes and whether it holds on to an end of the text.
-/

namespace SearchQuery.Pattern

open Unicode (CodeSet)

inductive Place where
  | textStart
  | textEnd
  /-- The start of a line; the flag tells whether a carriage return ends a line. -/
  | lineStart (crlf : Bool)
  | lineEnd (crlf : Bool)
  /-- The start, end or middle of a word; the flag tells whether words are those of Unicode. -/
  | word (anchor : Anchor) (unicode : Bool)
  deriving Repr, DecidableEq

inductive Plan where
  | empty
  | text (chars : List Char)
  /-- One character of a set; the flag tells whether the set is one of bytes. -/
  | set (bytes : Bool) (codes : CodeSet)
  | place (place : Place)
  | repeated (least : Nat) (most : Option Nat) (greedy : Bool) (body : Plan)
  | capture (number : Nat) (body : Plan)
  | sequence (parts : List Plan)
  | choice (branches : List Plan)
  deriving Repr

namespace Plan

mutual

def same : Plan → Plan → Bool
  | empty, empty => true
  | text a, text b => a == b
  | set a s, set b t => a == b && s == t
  | place a, place b => a == b
  | repeated a b c p, repeated d e f q => a == d && b == e && c == f && same p q
  | capture a p, capture b q => a == b && same p q
  | sequence ps, sequence qs => sameAll ps qs
  | choice ps, choice qs => sameAll ps qs
  | _, _ => false

def sameAll : List Plan → List Plan → Bool
  | [], [] => true
  | p :: ps, q :: qs => same p q && sameAll ps qs
  | _, _ => false

end

structure Bounds where
  /-- The fewest bytes, unless there is a part that nothing matches. -/
  least? : Option Nat
  /-- The most bytes, if there is a limit. -/
  most? : Option Nat
  /-- Whether each match is at the start of the text. -/
  atStart : Bool
  /-- Whether each match is at the end of the text. -/
  atEnd : Bool
  deriving Repr, DecidableEq

namespace Bounds

def nothing : Bounds := ⟨some 0, some 0, false, false⟩

def append (a b : Bounds) : Bounds where
  least? := do pure ((← a.least?) + (← b.least?))
  most? := do pure ((← a.most?) + (← b.most?))
  atStart := a.atStart || (a.most? = some 0 && b.atStart)
  atEnd := b.atEnd || (b.most? = some 0 && a.atEnd)

def orElse (a b : Bounds) : Bounds where
  least? := do pure (min (← a.least?) (← b.least?))
  most? := do pure (max (← a.most?) (← b.most?))
  atStart := a.atStart && b.atStart
  atEnd := a.atEnd && b.atEnd

def times (least : Nat) (most : Option Nat) (b : Bounds) : Bounds where
  least? := b.least?.map (· * least)
  most? := do pure ((← b.most?) * (← most))
  atStart := 0 < least && b.atStart
  atEnd := 0 < least && b.atEnd

def sequence (parts : List Bounds) : Bounds :=
  parts.foldl append nothing

def choice : List Bounds → Bounds
  | [] => ⟨none, none, false, false⟩
  | b :: rest => rest.foldl orElse b

end Bounds

def codeSize (n : Nat) : Nat :=
  if n < 0x80 then 1 else if n < 0x800 then 2 else if n < 0x10000 then 3 else 4

def textSize (chars : List Char) : Nat :=
  chars.foldl (fun n c => n + codeSize c.toNat) 0

mutual

def bounds : Plan → Bounds
  | empty => .nothing
  | text chars => ⟨some (textSize chars), some (textSize chars), false, false⟩
  | set _ codes =>
      ⟨codes.ranges.head?.map (codeSize ·.first), codes.ranges.getLast?.map (codeSize ·.last),
        false, false⟩
  | place p => ⟨some 0, some 0, p = .textStart, p = .textEnd⟩
  | repeated least most _ body => (bounds body).times least most
  | capture _ body => bounds body
  | sequence parts => .sequence (boundsAll parts)
  | choice branches => .choice (boundsAll branches)

def boundsAll : List Plan → List Bounds
  | [] => []
  | p :: ps => bounds p :: boundsAll ps

end

mutual

def weight : Plan → Nat
  | repeated _ _ _ body => weight body + 1
  | capture _ body => weight body + 1
  | sequence parts => weightAll parts + 1
  | choice branches => weightAll branches + 1
  | _ => 1

def weightAll : List Plan → Nat
  | [] => 0
  | p :: ps => weight p + weightAll ps

end

def never : Plan := set true .empty

def ofSet (bytes : Bool) (codes : CodeSet) : Plan :=
  match codes.ranges with
  | [] => never
  | [r] => if r.first = r.last then text [Char.ofNat r.first] else set bytes codes
  | _ => set bytes codes

def ofRepetition (least : Nat) (most : Option Nat) (greedy : Bool) (body : Plan) : Plan :=
  let still := body.bounds.most? = some 0
  let low := if still then min least 1 else least
  let high := if still then some ((most.map (min · 1)).getD 1) else most
  if low = 0 && high = some 0 then empty
  else if low = 1 && high = some 1 then body
  else repeated low high greedy body

def parts : Plan → List Plan
  | sequence ps => ps
  | p => [p]

def branches : Plan → List Plan
  | choice ps => ps
  | p => [p]

def pushFront (part : Plan) (rest : List Plan) : List Plan :=
  match part, rest with
  | empty, rest => rest
  | text a, text b :: rest => text (a ++ b) :: rest
  | part, rest => part :: rest

def ofParts (ps : List Plan) : Plan :=
  match (ps.flatMap parts).foldr pushFront [] with
  | [] => empty
  | [p] => p
  | ps => sequence ps

def character? : Plan → Option Char
  | text [c] => some c
  | _ => none

def codes? : Plan → Option CodeSet
  | set _ codes => some codes
  | _ => none

def commonFront : List Plan → List Plan → List Plan
  | p :: ps, q :: qs => if same p q then p :: commonFront ps qs else []
  | _, _ => []

/-- The parts that all branches start with, where each branch is a sequence. -/
def sharedFront? : List Plan → Option (List Plan)
  | [] => none
  | [sequence ps] => some ps
  | sequence ps :: rest => (sharedFront? rest).map (commonFront ps)
  | _ => none

/-- The plan for one of the branches. Characters and sets become one set, and what all branches
start with is put in front. The number bounds how often that can be done. -/
def ofBranchesWithin : Nat → List Plan → Plan
  | 0, ps => choice ps
  | fuel + 1, ps =>
      match ps.flatMap branches with
      | [] => never
      | [p] => p
      | flat =>
          match flat.mapM character?, flat.mapM codes?, sharedFront? flat with
          | some chars, _, _ => ofSet false (.ofList (chars.map Char.toNat))
          | _, some sets, _ => ofSet false (.unions sets)
          | _, _, some (p :: ps) =>
              let rests := flat.map fun b => ofParts (b.parts.drop (p :: ps).length)
              ofParts (p :: ps ++ [ofBranchesWithin fuel rests])
          | _, _, _ => choice flat

def ofBranches (ps : List Plan) : Plan :=
  ofBranchesWithin (weightAll ps + 1) ps

end Plan

end SearchQuery.Pattern
