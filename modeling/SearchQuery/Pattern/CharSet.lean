import SearchQuery.Pattern.Escape

/-!
# Classes in brackets

`CharSet.read?` reads a class of characters from behind its opening bracket to its closing one.
Hyphens directly behind the opening bracket are members, and so is a closing bracket that would
leave the class empty. Classes nest, and `&&`, `--` and `~~` join everything before them in a
class with what follows.
-/

namespace SearchQuery.Pattern.CharSet

structure Frame where
  negated : Bool
  /-- What stands to the left of the last sign that joins, and the sign. -/
  left? : Option (CharSet × SetSign)
  /-- The members behind it, the last one first. -/
  members : List CharSet
  /-- Whether only hyphens have been read. -/
  fresh : Bool
  deriving Repr

namespace Frame

def opened (negated : Bool) : Frame :=
  ⟨negated, none, [], true⟩

def push (f : Frame) (member : CharSet) : Frame :=
  { f with members := member :: f.members, fresh := false }

def set (f : Frame) : CharSet :=
  let last := ofParts f.members.reverse
  match f.left? with
  | some (left, sign) => joined sign left last
  | none => last

def join (f : Frame) (sign : SetSign) : Frame :=
  ⟨f.negated, some (f.set, sign), [], false⟩

end Frame

def posixClasses : List (String × List (Char × Char)) :=
  [ ("alnum", [('0', '9'), ('A', 'Z'), ('a', 'z')]),
    ("alpha", [('A', 'Z'), ('a', 'z')]),
    ("ascii", [('\x00', '\x7f')]),
    ("blank", [('\t', '\t'), (' ', ' ')]),
    ("cntrl", [('\x00', '\x1f'), ('\x7f', '\x7f')]),
    ("digit", [('0', '9')]),
    ("graph", [('!', '~')]),
    ("lower", [('a', 'z')]),
    ("print", [(' ', '~')]),
    ("punct", [('!', '/'), (':', '@'), ('[', '\x60'), ('\x7b', '~')]),
    ("space", [('\t', '\r'), (' ', ' ')]),
    ("upper", [('A', 'Z')]),
    ("word", [('0', '9'), ('A', 'Z'), ('_', '_'), ('a', 'z')]),
    ("xdigit", [('0', '9'), ('A', 'F'), ('a', 'f')]) ]

def posixNamed? (name : String) : Option Unicode.CodeSet :=
  (posixClasses.find? (·.1 = name)).map fun (_, ranges) =>
    .ofRanges (ranges.map fun (first, last) => ⟨first.toNat, last.toNat⟩)

/-- A class such as `[:alpha:]` behind its opening bracket, and what follows it. -/
def posix? (cs : List Char) : Option (Atom × List Char) :=
  match cs with
  | ':' :: '^' :: rest => named true rest
  | ':' :: rest => named false rest
  | _ => none
where
  named (negated : Bool) (rest : List Char) : Option (Atom × List Char) :=
    match rest.dropWhile (· ≠ ':') with
    | ':' :: ']' :: after =>
        (posixNamed? (String.ofList (rest.takeWhile (· ≠ ':')))).map fun codes =>
          (.named (.posix codes) negated, after)
    | _ => none

def atom? (options : Options) : List Char → Option (Atom × List Char)
  | [] => none
  | '\\' :: rest => Atom.escape? options.verbose rest
  | c :: rest => some (.character c, rest)

/-- A member of a class: an atom, or all characters from one to another. A hyphen in front of a
closing bracket or of another hyphen makes no such span. -/
def member? (options : Options) (cs : List Char) : Option (CharSet × List Char) := do
  let (a, rest) ← atom? options cs
  if !a.isMember options then none
  else match skip options.verbose rest with
    | [] => none
    | '-' :: rest =>
        let next := peek options.verbose rest
        if next = some ']' || next = some '-' then pure (single a, '-' :: rest)
        else do
          let (b, after) ← atom? options (skip options.verbose rest)
          let first ← a.character?
          let last ← b.character?
          if b.isMember options && first ≤ last then pure (span first last, after)
          else none
    | rest => pure (single a, rest)

/-- The class with its opening bracket just passed, and what follows. A negated class of bytes would
reach beyond ASCII, so there is none. -/
def open? (options : Options) (cs : List Char) : Option (Frame × List Char) :=
  match skip options.verbose cs with
  | '^' :: rest => if options.unicode then some (.opened true, rest) else none
  | rest => some (.opened false, rest)

/-- Reads on in a class that is open, the classes around it from the inside out. Every step takes
at least one character. -/
def readFrom? (options : Options) :
    Nat → Frame → List Frame → List Char → Option (Bool × CharSet × List Char)
  | 0, _, _, _ => none
  | fuel + 1, frame, outer, cs =>
      match skip options.verbose cs with
      | [] => none
      | '[' :: rest =>
          match posix? rest with
          | some (a, after) =>
              if a.isAllowed options then
                readFrom? options fuel (frame.push (single a)) outer after
              else none
          | none => do
              let (inner, inside) ← open? options rest
              readFrom? options fuel inner (frame :: outer) inside
      | ']' :: rest =>
          if frame.fresh && frame.members.isEmpty then
            readFrom? options fuel (frame.push (single (.character ']'))) outer rest
          else match outer with
            | [] => some (frame.negated, frame.set, rest)
            | around :: outer =>
                let inner := bracketed frame.negated frame.set
                readFrom? options fuel (around.push inner) outer rest
      | '-' :: rest =>
          if frame.fresh then
            let hyphen := single (.character '-')
            readFrom? options fuel { frame.push hyphen with fresh := true } outer rest
          else if rest.head? = some '-' then
            readFrom? options fuel (frame.join .without) outer (rest.drop 1)
          else do
            let (member, after) ← member? options ('-' :: rest)
            readFrom? options fuel (frame.push member) outer after
      | '&' :: '&' :: rest => readFrom? options fuel (frame.join .both) outer rest
      | '~' :: '~' :: rest => readFrom? options fuel (frame.join .either) outer rest
      | shown => do
          let (member, after) ← member? options shown
          readFrom? options fuel (frame.push member) outer after

/-- The class whose opening bracket was just passed, whether it is negated, and what follows its
closing bracket. -/
def read? (options : Options) (cs : List Char) : Option (Bool × CharSet × List Char) := do
  let (frame, inside) ← open? options cs
  readFrom? options (inside.length + 1) frame [] inside

end SearchQuery.Pattern.CharSet
