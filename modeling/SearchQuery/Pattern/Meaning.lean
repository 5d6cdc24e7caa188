import SearchQuery.Pattern.Plan
import SearchQuery.Unicode.Binary
import SearchQuery.Unicode.Folding

/-!
# What a pattern stands for

`Pattern.plan` is the plan of a pattern. The options decide what its characters and signs stand
for: whether letters of either case are meant, whether a class is one of Unicode or of ASCII, and
which places the signs for ends of lines mark. A class is folded before it is negated.
-/

namespace SearchQuery

namespace Pattern

open Unicode (CodeSet Category BinaryProperty)

/-- The characters of words: letters and what goes with them, digits, and signs that connect. -/
def wordCodes : CodeSet :=
  .unions [BinaryProperty.alphabeticCodes, BinaryProperty.joinControl.listed,
    Category.union (.decimalNumber :: .connectorPunctuation :: Category.marks)]

namespace NamedClass

def bytes : NamedClass → CodeSet
  | digit => .span 0x30 0x39
  | space => .ofRanges [⟨0x9, 0xD⟩, ⟨0x20, 0x20⟩]
  | word => .ofRanges [⟨0x30, 0x39⟩, ⟨0x41, 0x5A⟩, ⟨0x5F, 0x5F⟩, ⟨0x61, 0x7A⟩]
  | property codes => codes
  | posix codes => codes

def characters : NamedClass → CodeSet
  | digit => Category.codes .decimalNumber
  | space => BinaryProperty.whiteSpace.listed
  | word => wordCodes
  | property codes => codes
  | posix codes => codes

def isFolded : NamedClass → Bool
  | digit => true
  | space => true
  | word => true
  | property _ => false
  | posix _ => false

end NamedClass

namespace Options

def fold (o : Options) (codes : CodeSet) : CodeSet :=
  if !o.caseless then codes
  else if o.unicode then codes.folded
  else codes.foldedAscii

def negate (negated : Bool) (codes : CodeSet) : CodeSet :=
  if negated then codes.compl else codes

def named (o : Options) (cls : NamedClass) (negated : Bool) : CodeSet :=
  let members := if o.unicode then cls.characters else cls.bytes
  negate negated (if cls.isFolded then members else o.fold members)

def point (o : Options) : CodeSet :=
  if o.dotAll then .full
  else if o.crlf then CodeSet.compl (.ofList [0xA, 0xD])
  else CodeSet.compl (.single 0xA)

def place (o : Options) : Anchor → Place
  | .lineStart => if o.multiline then .lineStart o.crlf else .textStart
  | .lineEnd => if o.multiline then .lineEnd o.crlf else .textEnd
  | .textStart => .textStart
  | .textEnd => .textEnd
  | anchor => .word anchor o.unicode

end Options

def Atom.codes (o : Options) : Atom → CodeSet
  | character c => .single c.toNat
  | byte c => .single c.toNat
  | named cls negated => o.named cls negated
  | _ => .empty

namespace SetSign

def apply : SetSign → CodeSet → CodeSet → CodeSet
  | both => CodeSet.inter
  | without => CodeSet.diff
  | either => CodeSet.symmDiff

end SetSign

namespace CharSet

mutual

def codes (o : Options) : CharSet → CodeSet
  | empty => .empty
  | single a => a.codes o
  | span first last => .span first.toNat last.toNat
  | union parts => .unions (codesAll o parts)
  | bracketed negated inner => Options.negate negated (o.fold (codes o inner))
  | joined sign left right => sign.apply (o.fold (codes o left)) (o.fold (codes o right))

def codesAll (o : Options) : List CharSet → List CodeSet
  | [] => []
  | part :: rest => codes o part :: codesAll o rest

end

end CharSet

def Atom.plan (o : Options) : Atom → Plan
  | character c => .ofSet (!o.unicode) (o.fold (.single c.toNat))
  | byte c => .ofSet (!o.unicode) (o.fold (.single c.toNat))
  | any => .ofSet false o.point
  | place anchor => .place (o.place anchor)
  | named cls negated => .ofSet (!o.unicode) (o.named cls negated)

mutual

def plan : Pattern → Plan
  | empty => .empty
  | atom o a => a.plan o
  | bracket o negated set => .ofSet (!o.unicode) (Options.negate negated (o.fold (set.codes o)))
  | setting => .empty
  | repeated least most greedy body => .ofRepetition least most greedy (plan body)
  | group (some number) body => .capture number (plan body)
  | group none body => plan body
  | sequence parts => .ofParts (planAll parts)
  | choice branches => .ofBranches (planAll branches)

def planAll : List Pattern → List Plan
  | [] => []
  | p :: ps => plan p :: planAll ps

end

end Pattern

end SearchQuery
