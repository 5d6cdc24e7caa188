import SearchQuery.Proofs.Query.Derivation
import SearchQuery.Proofs.Query.Writable

/-!
# The pieces of a text

`Tree.pieces` is the text of a tree cut into pieces, each a blank or the text of a token. A bound of
a range is a piece of its own kind: it is written as a bare term, whether it was read from one or
from a phrase. `Derivation.pieces` is the text of whatever is derived in this way,
and `Tree.pieces_ofClauses` tells how it is put together when clauses are.
-/

namespace SearchQuery

inductive Piece
  | blank
  | token (token : Token)
  /-- The bound of a range. -/
  | bound (text : String)
  deriving DecidableEq

namespace Piece

def token? : Piece → Option Token
  | blank => none
  | token t => some t
  | bound text => some (.term text)

def chars : Piece → List Char
  | blank => [' ']
  | token t => t.chars
  | bound text => text.toList

end Piece

namespace Attributes

def openingPieces (a : Attributes) : List Piece :=
  (a.sign.map fun sign => .token sign.token).toList ++
    if a.negation.isNegated then [.token .not, .blank] else []

def fieldPieces (a : Attributes) : List Piece :=
  (a.fieldName?.map fun field => .token (.field field)).toList

def closingPieces (a : Attributes) : List Piece :=
  (a.proximity.map fun value => .token (.proximity value)).toList ++
    (a.boost.map fun value => .token (.boost value)).toList

theorem flatMap_openingPieces (a : Attributes) :
    a.openingPieces.flatMap Piece.chars = a.opening := by
  rw [opening, openingPieces]
  rcases a.sign with - | - | - <;> split <;> rfl

theorem flatMap_fieldPieces (a : Attributes) :
    a.fieldPieces.flatMap Piece.chars = a.fieldMark := by
  rw [fieldMark, fieldPieces]
  cases a.fieldName? with
  | none => rfl
  | some field => simp [Piece.chars, Token.chars]

theorem flatMap_closingPieces (a : Attributes) :
    a.closingPieces.flatMap Piece.chars = a.closing := by
  rw [closing, closingPieces]
  cases a.proximity <;> cases a.boost <;> simp [Piece.chars, Token.chars]

end Attributes

namespace Term

def piece (t : Term) : Piece :=
  match t.style with
  | .bare => .token (.term t.text)
  | .quoted => .token (.quoted t.text)
  | .pattern => .token (.pattern t.text)

theorem chars_piece (t : Term) : t.piece.chars = t.chars := by
  rw [piece, chars]
  cases t.style <;> rfl

end Term

namespace Range

def pieces (r : Range) : List Piece :=
  match r.min, r.max with
  | some _, none => [.token (.term (String.ofList r.chars))]
  | none, some _ => [.token (.term (String.ofList r.chars))]
  | min, max =>
      [.token (if r.isMinInclusive then .leftBracket else .leftBrace), .bound (min.getD "*"),
        .blank, .token (.term "TO"), .blank, .bound (max.getD "*"),
        .token (if r.isMaxInclusive then .rightBracket else .rightBrace)]

theorem flatMap_pieces (r : Range) : r.pieces.flatMap Piece.chars = r.chars := by
  have hopen : ∀ inclusive : Bool, (if inclusive then Token.leftBracket else .leftBrace).chars =
      [if inclusive then '[' else '\x7b'] := by decide
  have hclose : ∀ inclusive : Bool, (if inclusive then Token.rightBracket else .rightBrace).chars =
      [if inclusive then ']' else '\x7d'] := by decide
  have hterm : ∀ text, (Token.term text).chars = text.toList := fun _ => rfl
  obtain ⟨min, max, fromMin, toMax⟩ := r
  cases min <;> cases max <;>
    simp [pieces, chars, Piece.chars, hopen, hclose, hterm]

end Range

namespace Leaf

def pieces (a : Attributes) : Leaf → List Piece
  | term t => a.fieldPieces ++ [t.piece]
  | range r => a.fieldPieces ++ r.pieces
  | fieldExists => [.token (.field "_exists_"), .token (.term (a.field.getD ""))]
  | fieldMissing => [.token (.field "_missing_"), .token (.term (a.field.getD ""))]

theorem flatMap_pieces (a : Attributes) (l : Leaf) :
    (l.pieces a).flatMap Piece.chars = l.chars a := by
  cases l with
  | term t => simp [pieces, chars_term, a.flatMap_fieldPieces, t.chars_piece]
  | range r => simp [pieces, chars_range, a.flatMap_fieldPieces, r.flatMap_pieces]
  | fieldExists =>
      rw [chars.eq_def]
      simp [pieces, Piece.chars, Token.chars]
  | fieldMissing =>
      rw [chars.eq_def]
      simp [pieces, Piece.chars, Token.chars]

theorem pieces_of_comparison? {cs : List Char} {r : Range} (h : comparison? cs = some r) :
    r.pieces = [.token (.term (String.ofList r.chars))] := by
  rw [comparison?.eq_def] at h
  split at h
  all_goals first
    | rw [comparison?.atLeast] at h
    | rw [comparison?.atMost] at h
    | simp at h
  all_goals
    split at h
    · simp at h
    · obtain rfl := Option.some.inj h
      rfl

theorem pieces_ofBare (a : Attributes) (text : String) :
    (ofBare text).pieces a = a.fieldPieces ++ [.token (.term text)] := by
  rw [ofBare]
  split
  · next r hr =>
      rw [pieces, pieces_of_comparison? hr, chars_of_comparison? hr, String.ofList_toList]
  · rfl

end Leaf

namespace Operator

def pieces (operator : Operator) : List Piece :=
  operator.tokens.flatMap fun token => [.token token, .blank]

theorem flatMap_pieces (operator : Operator) :
    operator.pieces.flatMap Piece.chars = operator.chars := by
  cases operator <;> rfl

end Operator

namespace Tree

def pieces : Tree → List Piece
  | nil => []
  | leaf _ a l => a.openingPieces ++ (l.pieces a ++ a.closingPieces)
  | group _ a g l r =>
      a.openingPieces ++ (a.fieldPieces ++ ((if g.parens then [.token .leftParen] else []) ++
        (l.pieces ++ ((if r.isNil then []
          else (if l.isNil then [] else [.blank]) ++ (g.operator.pieces ++ r.pieces)) ++
        ((if g.parens then [.token .rightParen] else []) ++ a.closingPieces)))))

theorem flatMap_pieces (t : Tree) : t.pieces.flatMap Piece.chars = t.chars := by
  induction t with
  | nil => rfl
  | leaf id a l =>
      simp only [pieces, chars, List.flatMap_append, a.flatMap_openingPieces, l.flatMap_pieces a,
        a.flatMap_closingPieces, List.append_assoc]
  | group id a g l r ihl ihr =>
      simp only [pieces, chars, List.flatMap_append, a.flatMap_openingPieces, a.flatMap_fieldPieces,
        a.flatMap_closingPieces, ihl, List.append_assoc]
      cases g.parens <;> cases r.isNil <;> cases l.isNil <;>
        simp [ihr, g.operator.flatMap_pieces, Piece.chars, Token.chars]

def following (clauses : List (Operator × Tree)) : List Piece :=
  clauses.flatMap fun c => .blank :: (c.1.pieces ++ c.2.pieces)

def joined : List (Operator × Tree) → List Piece
  | [] => []
  | c :: rest => c.2.pieces ++ following rest

theorem isNil_of_isPrimary {t : Tree} (h : t.isPrimary = true) : t.isNil = false := by
  cases t with
  | nil => cases h
  | leaf => rfl
  | group => rfl

theorem pieces_chain {clauses : List (Operator × Tree)} (next : NodeId)
    (h : ∀ c ∈ clauses, c.2.isPrimary = true) :
    (chain clauses next).1.2.1.pieces ++ (if (chain clauses next).1.2.2.isNil then []
      else (if (chain clauses next).1.2.1.isNil then [] else [.blank]) ++
        ((chain clauses next).1.1.pieces ++ (chain clauses next).1.2.2.pieces)) =
      joined clauses := by
  induction clauses, next using chain.induct with
  | case1 => rfl
  | case2 => rfl
  | case3 before first operator second next =>
      have hfirst := isNil_of_isPrimary (h (before, first) (by simp))
      have hsecond := isNil_of_isPrimary (h (operator, second) (by simp))
      simp [chain, joined, following, hfirst, hsecond]
  | case4 before first operator second third rest next inner l r after hinner ih =>
      have hfirst := isNil_of_isPrimary (h (before, first) (by simp))
      have hrest := ih fun c hc => h c (.tail _ hc)
      rw [hinner] at hrest
      have hplain : (group next .plain ⟨inner, false⟩ l r).pieces =
          joined ((operator, second) :: third :: rest) := by
        rw [← hrest]
        simp [pieces, Attributes.openingPieces, Attributes.fieldPieces, Attributes.closingPieces,
          Attributes.plain, Attributes.fieldName?, Negation.isNegated]
      rw [chain, hinner]
      dsimp only
      rw [hplain, hfirst]
      simp [joined, following, isNil]

theorem pieces_ofClauses {clauses : List (Operator × Tree)}
    (h : ∀ c ∈ clauses, c.2.isPrimary = true) (id : NodeId) (a : Attributes) (parens : Bool)
    (next : NodeId) :
    (ofClauses id a parens clauses next).1.pieces =
      a.openingPieces ++ (a.fieldPieces ++ ((if parens then [.token .leftParen] else []) ++
        (joined clauses ++
          ((if parens then [.token .rightParen] else []) ++ a.closingPieces)))) := by
  rw [← pieces_chain next h]
  simp only [ofClauses, pieces, List.append_assoc]

end Tree

namespace Grammar

def said (marks : List Mark) (field : Option String) (modifiers : List Modifier) : Attributes where
  field := field
  negation := Mark.negation marks
  sign := Mark.sign marks
  boost := (modifiers.filterMap Modifier.boost?).getLast?
  proximity := (modifiers.filterMap Modifier.proximity?).getLast?

/-- The text of what is derived: of the marks and modifiers those that count, without the quotes of
bounds, and with a blank between clauses. -/
def Derivation.pieces {s : Symbol} : Derivation s → List Piece
  | nothing => []
  | first c more => c.pieces ++ more.pieces
  | done => []
  | next operator c more => .blank :: (operator.pieces ++ (c.pieces ++ more.pieces))
  | clause marks field v modifiers =>
      (said marks field modifiers).openingPieces ++ ((said marks field modifiers).fieldPieces ++
        (v.pieces ++ (said marks field modifiers).closingPieces))
  | group cs => .token .leftParen :: (cs.pieces ++ [.token .rightParen])
  | term text => [.token (.term text)]
  | quoted text => [.token (.quoted text)]
  | pattern text => [.token (.pattern text)]
  | range fromMin min max toMax =>
      [.token (if fromMin then .leftBracket else .leftBrace), .bound min.text, .blank,
        .token (.term "TO"), .blank, .bound max.text,
        .token (if toMax then .rightBracket else .rightBrace)]

end Grammar

end SearchQuery
