import SearchQuery.Json

/-!
# Reading JSON

`Json.parse` reads a text that holds one value and blanks around it, and refuses all else: a byte
order mark, comments, trailing commas, numbers with needless zeros, control characters inside
texts. The value of a list or object is read with less fuel than the brackets have characters
after them, so the fuel, the length of the text, never runs out.
-/

namespace SearchQuery.Json

def skipBlanks (cs : List Char) : List Char :=
  cs.dropWhile fun c => c = ' ' || c = '\n' || c = '\t' || c = '\r'

def hexDigit? (c : Char) : Option Nat :=
  if '0' ≤ c && c ≤ '9' then some (c.toNat - '0'.toNat)
  else if 'a' ≤ c && c ≤ 'f' then some (c.toNat - 'a'.toNat + 10)
  else if 'A' ≤ c && c ≤ 'F' then some (c.toNat - 'A'.toNat + 10)
  else none

def hexUnit? (a b c d : Char) : Option Nat := do
  let a ← hexDigit? a
  let b ← hexDigit? b
  let c ← hexDigit? c
  let d ← hexDigit? d
  return ((a * 16 + b) * 16 + c) * 16 + d

inductive TextPart
  | char (c : Char)
  | unit (n : Nat)
  deriving Repr

def textParts? : List Char → Option (List TextPart × List Char)
  | [] => none
  | '"' :: rest => some ([], rest)
  | '\\' :: 'u' :: a :: b :: c :: d :: rest => do
      let unit ← hexUnit? a b c d
      let (parts, after) ← textParts? rest
      return (.unit unit :: parts, after)
  | '\\' :: c :: rest => do
      let plain ← escaped? c
      let (parts, after) ← textParts? rest
      return (.char plain :: parts, after)
  | c :: rest =>
      if c.toNat < 0x20 || c = '\\' then none
      else do
        let (parts, after) ← textParts? rest
        return (.char c :: parts, after)
where
  /-- The character that a backslash and a letter or mark stand for. -/
  escaped? : Char → Option Char
    | '"' => some '"'
    | '\\' => some '\\'
    | '/' => some '/'
    | 'b' => some '\x08'
    | 'f' => some '\x0c'
    | 'n' => some '\n'
    | 'r' => some '\r'
    | 't' => some '\t'
    | _ => none

/-- The characters that parts denote: two escaped halves of a pair make one character, and half
of a pair on its own denotes nothing. -/
def joinParts? : List TextPart → Option (List Char)
  | [] => some []
  | .char c :: rest => (joinParts? rest).map (c :: ·)
  | .unit high :: .unit low :: rest =>
      if 0xD800 ≤ high && high < 0xDC00 then
        if 0xDC00 ≤ low && low < 0xE000 then
          (joinParts? rest).map
            (Char.ofNat (0x10000 + (high - 0xD800) * 0x400 + (low - 0xDC00)) :: ·)
        else none
      else if 0xDC00 ≤ high && high < 0xE000 then none
      else (joinParts? (.unit low :: rest)).map (Char.ofNat high :: ·)
  | .unit n :: rest =>
      if 0xD800 ≤ n && n < 0xE000 then none else (joinParts? rest).map (Char.ofNat n :: ·)

def splitDigits (cs : List Char) : List Char × List Char :=
  (cs.takeWhile Char.isDigit, cs.dropWhile Char.isDigit)

def wholePart? (cs : List Char) : Option (List Char × List Char) :=
  match splitDigits cs with
  | ([], _) => none
  | ('0' :: _ :: _, _) => none
  | parts => some parts

def fractionPart? : List Char → Option (Option (List Char) × List Char)
  | '.' :: rest =>
      match splitDigits rest with
      | ([], _) => none
      | (digits, after) => some (some digits, after)
  | cs => some (none, cs)

def exponentPart? : List Char → Option (Option Int × List Char)
  | [] => some (none, [])
  | c :: rest =>
      if c = 'e' || c = 'E' then
        let (negative, unsigned) :=
          match rest with
          | '+' :: r => (false, r)
          | '-' :: r => (true, r)
          | r => (false, r)
        match splitDigits unsigned with
        | ([], _) => none
        | (digits, after) =>
            let size : Int := digits.foldl (fun n d => n * 10 + (d.toNat - '0'.toNat)) 0
            some (some (if negative then -size else size), after)
      else some (none, c :: rest)

def numberAt? (cs : List Char) : Option (Json × List Char) := do
  let (negative, unsigned) :=
    match cs with
    | '-' :: rest => (true, rest)
    | _ => (false, cs)
  let (whole, afterWhole) ← wholePart? unsigned
  let (part, afterPart) ← fractionPart? afterWhole
  let (exponent, after) ← exponentPart? afterPart
  return ((Number.ofParts? negative whole part exponent).elim .undefined .number, after)

/-- The text whose opening mark was just passed; `none` inside stands for a text that denotes
nothing. -/
def textAt? (cs : List Char) : Option (Option String × List Char) := do
  let (parts, after) ← textParts? cs
  return ((joinParts? parts).map String.ofList, after)

def wordAt? (word : String) (cs : List Char) : Option (List Char) :=
  if word.toList.isPrefixOf cs then some (cs.drop word.length) else none

mutual

def valueAt? : Nat → List Char → Option (Json × List Char)
  | 0, _ => none
  | fuel + 1, cs =>
      match skipBlanks cs with
      | '"' :: rest => do
          let (value, after) ← textAt? rest
          return (value.elim .undefined .text, after)
      | '[' :: rest =>
          match skipBlanks rest with
          | ']' :: after => some (.list [], after)
          | _ => do
              let (items, after) ← itemsAt? fuel rest
              return (.list items, after)
      | '{' :: rest =>
          match skipBlanks rest with
          | '}' :: after => some (.object [], after)
          | _ => do
              let (members, after) ← membersAt? fuel rest
              return (members.elim .undefined .object, after)
      | 'n' :: rest => (wordAt? "ull" rest).map (.null, ·)
      | 't' :: rest => (wordAt? "rue" rest).map (.bool true, ·)
      | 'f' :: rest => (wordAt? "alse" rest).map (.bool false, ·)
      | rest => numberAt? rest

def itemsAt? : Nat → List Char → Option (List Json × List Char)
  | 0, _ => none
  | fuel + 1, cs => do
      let (item, after) ← valueAt? fuel cs
      match skipBlanks after with
      | ',' :: rest => do
          let (items, after) ← itemsAt? fuel rest
          return (item :: items, after)
      | ']' :: rest => return ([item], rest)
      | _ => none

/-- The members of an object up to its closing brace; `none` inside stands for an object with a
key that denotes nothing. -/
def membersAt? : Nat → List Char → Option (Option (List (String × Json)) × List Char)
  | 0, _ => none
  | fuel + 1, cs =>
      match skipBlanks cs with
      | '"' :: rest => do
          let (key, after) ← textAt? rest
          match skipBlanks after with
          | ':' :: rest => do
              let (value, after) ← valueAt? fuel rest
              let first := key.map (·, value)
              match skipBlanks after with
              | ',' :: rest => do
                  let (members, after) ← membersAt? fuel rest
                  return (first.bind fun m => members.map (m :: ·), after)
              | '}' :: rest => return (first.map ([·]), rest)
              | _ => none
          | _ => none
      | _ => none

end

def parse (s : String) : Option Json := do
  let (value, after) ← valueAt? (s.length + 1) s.toList
  if skipBlanks after = [] then some value else none

end SearchQuery.Json
