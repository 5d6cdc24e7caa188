import SearchQuery.Unicode.CodeSet

/-!
# The bytes of sets of characters

In UTF-8 a character is written in one to four bytes. `encode` writes one; `CodeSet.sequences`
writes a whole set, in sequences of ranges of bytes: each sequence stands for all characters whose
bytes lie in its ranges, one after the other. `ByteTree.ofSequences` draws sequences that start
alike together.
-/

namespace SearchQuery.Unicode

open Text (CodeRange)

structure ByteRange where
  first : Nat
  last : Nat
  deriving Repr, DecidableEq

def tailByte (n : Nat) : Nat :=
  0x80 + n % 0x40

def encode (n : Nat) : List Nat :=
  if n < 0x80 then [n]
  else if n < 0x800 then [0xC0 + n / 0x40, tailByte n]
  else if n < 0x10000 then [0xE0 + n / 0x1000, tailByte (n / 0x40), tailByte n]
  else [0xF0 + n / 0x40000, tailByte (n / 0x1000), tailByte (n / 0x40), tailByte n]

def encodeText (chars : List Char) : List Nat :=
  chars.flatMap fun c => encode c.toNat

namespace CodeSet

/-- The code points that are written in one byte, in two, in three on either side of the
surrogates, and in four. -/
def stretches : List CodeRange :=
  [⟨0, 0x7F⟩, ⟨0x80, 0x7FF⟩, ⟨0x800, 0xD7FF⟩, ⟨0xE000, 0xFFFF⟩, ⟨0x10000, lastCode⟩]

/-- The range cut where blocks of a size begin, into a piece within one block, whole blocks, and
another piece within one block. -/
def cut (size : Nat) (r : CodeRange) : List CodeRange :=
  if r.first / size = r.last / size then [r]
  else
    let start := (r.first + size - 1) / size * size
    let stop := r.last / size * size
    let front := if r.first < start then [⟨r.first, start - 1⟩] else []
    if start = stop || (r.last + 1) % size = 0 then front ++ [⟨start, r.last⟩]
    else front ++ [⟨start, stop - 1⟩, ⟨stop, r.last⟩]

/-- The range cut until all bytes behind the first that differs run from the least to the
greatest. -/
def pieces (r : CodeRange) : List CodeRange :=
  if r.last < 0x80 then [r]
  else (((cut 0x40 r).flatMap (cut 0x1000)).flatMap (cut 0x40000))

def sequences (s : CodeSet) : List (List ByteRange) :=
  ((meetRanges s.ranges stretches).flatMap pieces).map fun r =>
    List.zipWith ByteRange.mk (encode r.first) (encode r.last)

end CodeSet

/-- Sequences of ranges, with those that start alike drawn together. -/
inductive ByteTree where
  | done
  /-- The sequences that start with a range, by what follows it, and all others. -/
  | edge (range : ByteRange) (below others : ByteTree)
  deriving Repr, DecidableEq

namespace ByteTree

def pushFront : List ByteRange → ByteTree → ByteTree
  | [], tree => tree
  | r :: rest, done => edge r (pushFront rest done) done
  | r :: rest, edge range below others =>
      if r = range then edge range (pushFront rest below) others
      else edge r (pushFront rest done) (edge range below others)

def ofSequences (sequences : List (List ByteRange)) : ByteTree :=
  sequences.foldr pushFront done

end ByteTree

end SearchQuery.Unicode
