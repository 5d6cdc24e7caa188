import SearchQuery.Pattern.Options
import SearchQuery.Unicode.CodeSet

/-!
# Patterns

A pattern is the regular expression between the slashes of a query term. This module holds its
form, with the options that decide what each part stands for, and limits how deep its parts nest.
-/

namespace SearchQuery

namespace Pattern

inductive NamedClass where
  | digit
  | space
  | word
  | property (codes : Unicode.CodeSet)
  /-- One of the classes written `[:name:]`. -/
  | posix (codes : Unicode.CodeSet)
  deriving Repr, DecidableEq

inductive Anchor where
  | lineStart
  | lineEnd
  | textStart
  | textEnd
  | wordBoundary
  /-- A place that is no start and no end of a word. -/
  | notWordBoundary
  | wordStart
  | wordEnd
  /-- A place with no part of a word before it. -/
  | wordStartHalf
  /-- A place with no part of a word behind it. -/
  | wordEndHalf
  deriving Repr, DecidableEq

inductive Atom where
  | character (c : Char)
  /-- A character that is written as a byte, by two hexadecimal digits. -/
  | byte (c : Char)
  | any
  | place (anchor : Anchor)
  | named (cls : NamedClass) (negated : Bool)
  deriving Repr, DecidableEq

inductive SetSign where
  | both
  | without
  | either
  deriving Repr, DecidableEq

inductive CharSet where
  | empty
  | single (atom : Atom)
  | span (first last : Char)
  | union (parts : List CharSet)
  | bracketed (negated : Bool) (inner : CharSet)
  /-- Two sets joined by a sign for intersection, difference or symmetric difference. -/
  | joined (sign : SetSign) (left right : CharSet)
  deriving Repr

namespace CharSet

def ofParts : List CharSet → CharSet
  | [] => empty
  | [part] => part
  | parts => union parts

def nestsWithin : Nat → CharSet → Bool
  | _, empty => true
  | _, single _ => true
  | _, span _ _ => true
  | 0, _ => false
  | depth + 1, union parts => parts.all (nestsWithin depth)
  | depth + 1, bracketed _ inner => nestsWithin depth inner
  | depth + 1, joined _ left right => nestsWithin depth left && nestsWithin depth right

end CharSet

end Pattern

inductive Pattern where
  | empty
  | atom (options : Pattern.Options) (atom : Pattern.Atom)
  | bracket (options : Pattern.Options) (negated : Bool) (set : Pattern.CharSet)
  /-- A change of the options for the rest of the group. -/
  | setting
  | repeated (least : Nat) (most : Option Nat) (greedy : Bool) (body : Pattern)
  /-- A group; one that captures has a number. -/
  | group (number? : Option Nat) (body : Pattern)
  | sequence (parts : List Pattern)
  | choice (branches : List Pattern)
  deriving Repr

namespace Pattern

def ofParts : List Pattern → Pattern
  | [] => empty
  | [part] => part
  | parts => sequence parts

def ofBranches : List Pattern → Pattern
  | [] => empty
  | [branch] => branch
  | branches => choice branches

def isRepeatable : Pattern → Bool
  | empty => false
  | setting => false
  | _ => true

def nestsWithin : Nat → Pattern → Bool
  | _, empty => true
  | _, atom _ _ => true
  | _, setting => true
  | 0, _ => false
  | depth + 1, bracket _ _ set => set.nestsWithin depth
  | depth + 1, repeated _ _ _ body => nestsWithin depth body
  | depth + 1, group _ body => nestsWithin depth body
  | depth + 1, sequence parts => parts.all (nestsWithin depth)
  | depth + 1, choice branches => branches.all (nestsWithin depth)

def depthLimit : Nat := 250

end Pattern

end SearchQuery
