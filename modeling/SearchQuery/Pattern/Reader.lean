import SearchQuery.Pattern.CharSet
import SearchQuery.Text.LetterTable

/-!
# Reading a pattern

A `Reader` takes a pattern part by part and holds the groups that are still open. `Reader.step?`
reads the part at the front of a text and gives the text behind it; `Reader.run?` repeats it to the
end. Options that a pattern sets hold up to the end of the group they are set in, also in its later
branches.
-/

namespace SearchQuery.Pattern

structure Frame where
  /-- The number of the group, if it captures. -/
  number? : Option Nat
  /-- The options around the group, which hold again behind it. -/
  outerOptions : Options
  /-- The branches that are complete, the last one first. -/
  branches : List Pattern
  /-- The parts of the branch being read, the last one first. -/
  parts : List Pattern
  deriving Repr

namespace Frame

def opened (number? : Option Nat) (outerOptions : Options) : Frame :=
  ⟨number?, outerOptions, [], []⟩

def push (f : Frame) (part : Pattern) : Frame :=
  { f with parts := part :: f.parts }

def split (f : Frame) : Frame :=
  { f with branches := ofParts f.parts.reverse :: f.branches, parts := [] }

def body (f : Frame) : Pattern :=
  ofBranches f.split.branches.reverse

end Frame

structure Reader where
  options : Options
  group : Frame
  /-- The groups around it, from the inside out. -/
  outer : List Frame
  /-- The names of the groups so far. -/
  names : List String
  /-- How many groups so far capture. -/
  captures : Nat
  deriving Repr

namespace Reader

def start : Reader :=
  ⟨.initial, .opened none .initial, [], [], 0⟩

def push (r : Reader) (part : Pattern) : Reader :=
  { r with group := r.group.push part }

def openGroup (r : Reader) (number? : Option Nat) (options : Options) : Reader :=
  { r with options, group := .opened number? r.options, outer := r.group :: r.outer }

def openCapture (r : Reader) : Reader :=
  { r.openGroup (some (r.captures + 1)) r.options with captures := r.captures + 1 }

def closeGroup? (r : Reader) : Option Reader :=
  match r.outer with
  | [] => none
  | around :: outer =>
      let part := Pattern.group r.group.number? r.group.body
      some { r with options := r.group.outerOptions, group := around.push part, outer }

/-- The last part is to be repeated; there must be one. The flag tells whether the repetition is
marked as the lazy or greedy one that it would not be by itself. -/
def repeat? (r : Reader) (least : Nat) (most : Option Nat) (marked : Bool) : Option Reader :=
  match r.group.parts with
  | [] => none
  | last :: parts =>
      if last.isRepeatable then
        let part := Pattern.repeated least most (marked == r.options.lazyFirst) last
        some { r with group := { r.group with parts := part :: parts } }
      else none

def atom? (r : Reader) (a : Atom) : Option Reader :=
  if a.isAllowed r.options then some (r.push (.atom r.options a)) else none

def isGroupName : List Char → Bool
  | [] => false
  | c :: rest =>
      (c = '_' || Text.isLetter c) &&
        rest.all fun c => c ∈ ['_', '.', '[', ']'] || Text.isLetterOrNumber c

def namedGroup? (r : Reader) (cs : List Char) : Option (Reader × List Char) :=
  let name := cs.takeWhile (· ≠ '>')
  match cs.dropWhile (· ≠ '>') with
  | [] => none
  | _ :: after =>
      if isGroupName name && String.ofList name ∉ r.names then
        some ({ r.openCapture with names := String.ofList name :: r.names }, after)
      else none

def optionGroup? (r : Reader) (cs : List Char) : Option (Reader × List Char) :=
  let letters := cs.takeWhile (fun c => c ≠ ':' && c ≠ ')')
  let options := r.options.set letters
  if !Options.isSetting letters then none
  else match cs.dropWhile (fun c => c ≠ ':' && c ≠ ')') with
    | [] => none
    | ':' :: after => some (r.openGroup none options, after)
    | _ :: after =>
        if letters.isEmpty then none
        else some ({ r.push .setting with options := options }, after)

def parenthesis? (r : Reader) (cs : List Char) : Option (Reader × List Char) :=
  match skip r.options.verbose cs with
  | '?' :: 'P' :: '<' :: rest => namedGroup? r rest
  | '?' :: '<' :: rest => namedGroup? r rest
  | '?' :: rest => optionGroup? r rest
  | rest => some (r.openCapture, rest)

def countLimit : Nat := 4294967295

def count? (cs : List Char) : Option Nat :=
  let digits := Text.trimBlanks cs
  if digits.isEmpty || !digits.all Char.isDigit then none
  else
    let n := digits.foldl (fun n c => 10 * n + (c.toNat - 0x30)) 0
    if n ≤ countLimit then some n else none

def counts? (cs : List Char) : Option (Nat × Option Nat) := do
  let least ← count? (cs.takeWhile (· ≠ ','))
  match cs.dropWhile (· ≠ ',') with
  | [] => pure (least, some least)
  | [_] => pure (least, none)
  | _ :: rest =>
      let most ← count? rest
      if least ≤ most then pure (least, some most) else none

def repeatMarked? (r : Reader) (least : Nat) (most : Option Nat) (cs : List Char) :
    Option (Reader × List Char) :=
  match cs with
  | '?' :: rest => (r.repeat? least most true).map (·, rest)
  | rest => (r.repeat? least most false).map (·, rest)

/-- Reads the part at the front of a text that starts with no layout. -/
def step? (r : Reader) (c : Char) (rest : List Char) : Option (Reader × List Char) :=
  match c with
  | '(' => r.parenthesis? rest
  | ')' => r.closeGroup?.map (·, rest)
  | '|' => some ({ r with group := r.group.split }, rest)
  | '[' => do
      let (negated, set, after) ← CharSet.read? r.options rest
      pure (r.push (.bracket r.options negated set), after)
  | '?' => r.repeatMarked? 0 (some 1) rest
  | '*' => r.repeatMarked? 0 none rest
  | '+' => r.repeatMarked? 1 none rest
  | '{' => do
      let (text, after) ← braced? r.options.verbose rest
      let (least, most) ← counts? text
      r.repeatMarked? least most (skip r.options.verbose after)
  | '\\' => do
      let (a, after) ← Atom.escape? r.options.verbose rest
      (r.atom? a).map (·, after)
  | '.' => (r.atom? .any).map (·, rest)
  | '^' => (r.atom? (.place .lineStart)).map (·, rest)
  | '$' => (r.atom? (.place .lineEnd)).map (·, rest)
  | c => (r.atom? (.character c)).map (·, rest)

def run? : Nat → Reader → List Char → Option Reader
  | 0, _, _ => none
  | fuel + 1, r, cs =>
      match skip r.options.verbose cs with
      | [] => some r
      | c :: rest => do
          let (r, after) ← r.step? c rest
          run? fuel r after

def finish? (r : Reader) : Option Pattern :=
  if r.outer.isEmpty then some r.group.body else none

end Reader

def ofString? (text : String) : Option Pattern :=
  (Reader.run? (text.length + 1) .start text.toList).bind Reader.finish?

end SearchQuery.Pattern
