import Std.Data.HashMap

/-!
# Shelves

States that lead on in the same way need to be there once only. A `Shelf` finds them again by what
they are made of, as far as it has room: what is put on it has one place to go to, and drives out
what was there.
-/

namespace SearchQuery.Pattern.Automaton

structure Shelf where
  places : Nat
  content : Std.HashMap Nat (List Nat × Nat)

namespace Shelf

def ofPlaces (places : Nat) : Shelf := ⟨places, ∅⟩

/-- Numbers mixed into one: each is added bit by bit to the product so far, which is then
multiplied by a prime number. -/
def mix (key : List Nat) : UInt64 :=
  key.foldl (fun h n => (h ^^^ UInt64.ofNat n) * 1099511628211) 14695981039346656037

def place (s : Shelf) (key : List Nat) : Nat :=
  (mix key).toNat % s.places

def find? (s : Shelf) (key : List Nat) : Option Nat :=
  match s.content[s.place key]? with
  | some (kept, state) => if kept = key then some state else none
  | none => none

def put (s : Shelf) (key : List Nat) (state : Nat) : Shelf :=
  { s with content := s.content.insert (s.place key) (key, state) }

end Shelf

end SearchQuery.Pattern.Automaton
