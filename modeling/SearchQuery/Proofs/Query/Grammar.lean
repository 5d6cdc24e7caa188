import SearchQuery.Query.Printer
import SearchQuery.Query.Reader
import SearchQuery.Proofs.Token.Spelling

/-!
# The tokens of a query

`Tree.Spells part t tokens` derives a tree from the tokens that it is written with. In the trees
that can be derived each clause is a leaf or a group in parentheses, further clauses hang on link
groups, and every text is one that the lexer can have read. A group without parentheses may stand
around a single clause if nothing is written of the group, and around a leaf if what is written of
it is no field.
-/

namespace SearchQuery

namespace Sign

def token : Sign → Token
  | must => .plus
  | mustNot => .minus

end Sign

namespace Attributes

def openingTokens (a : Attributes) : List Token :=
  (a.sign.map Sign.token).toList ++ if a.negation.isNegated then [.not] else []

def fieldTokens (a : Attributes) : List Token :=
  (a.field.map .field).toList

def closingTokens (a : Attributes) : List Token :=
  (a.proximity.map .proximity).toList ++ (a.boost.map .boost).toList

/-- Whether the numbers behind a node are numbers to the lexer. -/
structure LexicalClosing (a : Attributes) : Prop where
  proximity : ∀ value, a.proximity = some value → (Token.proximity value).Lexical
  boost : ∀ value, a.boost = some value → (Token.boost value).Lexical

def LexicalField (a : Attributes) : Prop :=
  ∀ field, a.field = some field → (Token.field field).Lexical

/-- Whether nothing is written of a node but the node itself. -/
structure Silent (a : Attributes) : Prop where
  field : a.field = none
  sign : a.sign = none
  negation : a.negation.isNegated = false
  proximity : a.proximity = none
  boost : a.boost = none

theorem silent_plain : plain.Silent :=
  ⟨rfl, rfl, rfl, rfl, rfl⟩

end Attributes

namespace Operator

def tokens : Operator → List Token
  | default => []
  | and => [.and]
  | or => [.or]

end Operator

namespace Leaf

/-- The tokens that a leaf with these attributes is written with, from its field on. -/
inductive Spells (a : Attributes) : Leaf → List Token → Prop
  | bare {text} (ha : a.LexicalField) (hexists : a.field ≠ some "_exists_")
      (hmissing : a.field ≠ some "_missing_") (h : (Token.term text).Lexical) :
      Spells a (ofBare text) (a.fieldTokens ++ [.term text])
  | quoted {text} (ha : a.LexicalField) (h : (Token.quoted text).Lexical) :
      Spells a (term ⟨text, .quoted⟩) (a.fieldTokens ++ [.quoted text])
  | pattern {text} (ha : a.LexicalField) (h : (Token.pattern text).Lexical) :
      Spells a (term ⟨text, .pattern⟩) (a.fieldTokens ++ [.pattern text])
  | range {min max} {fromMin toMax : Bool} (ha : a.LexicalField) (hmin : (Token.term min).Lexical)
      (hmax : (Token.term max).Lexical) :
      Spells a (range ⟨some min, some max, some fromMin, some toMax⟩)
        (a.fieldTokens ++ [if fromMin then .leftBracket else .leftBrace, .term min, .term "TO",
          .term max, if toMax then .rightBracket else .rightBrace])
  | fieldExists {field} (ha : a.field = some field) (h : (Token.term field).Lexical) :
      Spells a fieldExists [.field "_exists_", .term field]
  | fieldMissing {field} (ha : a.field = some field) (h : (Token.term field).Lexical) :
      Spells a fieldMissing [.field "_missing_", .term field]

end Leaf

namespace Tree

/-- What a tree is to the query around it. -/
inductive Part
  /-- A leaf, or a group in parentheses. -/
  | clause
  /-- The last clause of a sequence, or a link group. -/
  | rest
  /-- What a group holds in its slots. -/
  | body
  deriving DecidableEq

/-- The tokens that a tree is written with. -/
inductive Spells : Part → Tree → List Token → Prop
  | leaf {id a l tokens} (ha : a.LexicalClosing) (h : l.Spells a tokens) :
      Spells .clause (leaf id a l) (a.openingTokens ++ (tokens ++ a.closingTokens))
  | group {id a g l r tokens} (hparens : g.parens = true) (ha : a.LexicalClosing)
      (hfield : a.LexicalField) (h : Spells .body (group id a g l r) tokens) :
      Spells .clause (group id a g l r)
        (a.openingTokens ++ (a.fieldTokens ++ (.leftParen :: tokens ++
          (.rightParen :: a.closingTokens))))
  | marked {id a g leafId b l tokens} (hparens : g.parens = false) (ha : a.LexicalClosing)
      (hfield : a.field = none) (hb : b.LexicalClosing) (h : l.Spells b tokens) :
      Spells .clause (group id a g (leaf leafId b l) nil)
        (a.openingTokens ++ (b.openingTokens ++ (tokens ++ (b.closingTokens ++ a.closingTokens))))
  | silent {id a g l tokens} (hparens : g.parens = false) (ha : a.Silent)
      (h : Spells .clause l tokens) : Spells .clause (group id a g l nil) tokens
  | last {t tokens} (h : Spells .clause t tokens) : Spells .rest t tokens
  | link {id a g l r tokens tokens'} (hparens : g.parens = false) (ha : a.Silent)
      (hl : Spells .clause l tokens) (hr : Spells .rest r tokens') :
      Spells .rest (group id a g l r) (tokens ++ (g.operator.tokens ++ tokens'))
  | empty {id a g} : Spells .body (group id a g nil nil) []
  | single {id a g l tokens} (h : Spells .clause l tokens) :
      Spells .body (group id a g l nil) tokens
  | pair {id a g l r tokens tokens'} (hl : Spells .clause l tokens) (hr : Spells .rest r tokens') :
      Spells .body (group id a g l r) (tokens ++ (g.operator.tokens ++ tokens'))

def inner : Tree → List Char
  | group _ _ g l r =>
      l.chars ++ (if r.isNil then []
        else (if l.isNil then [] else [' ']) ++ g.operator.chars ++ r.chars)
  | _ => []

def Part.chars : Part → Tree → List Char
  | clause, t => t.chars
  | rest, t => t.chars
  | body, t => t.inner

namespace Spells

variable {part : Part} {t : Tree} {tokens : List Token}

theorem isNil_eq_false (h : Spells part t tokens) (hpart : part ≠ .body) :
    t.isNil = false := by
  induction h with
  | last _ ih => exact ih (by decide)
  | leaf | group | marked | silent | link => rfl
  | empty | single | pair => exact absurd rfl hpart

end Spells

end Tree

def Closes (rest : List Char) : Prop :=
  ∀ c ∈ rest.head?, c ∈ [' ', ')', '~', '^']

namespace Closes

variable {rest : List Char}

theorem ends (h : Closes rest) : Token.Ends rest ∧ rest.head? ≠ some ':' := by
  cases rest with
  | nil => simp [Token.Ends]
  | cons c rest =>
      have hc : c ∈ [' ', ')', '~', '^'] := h c rfl
      simp only [List.mem_cons, List.not_mem_nil, or_false] at hc
      rcases hc with rfl | rfl | rfl | rfl <;> simp [Token.Ends] <;> decide

theorem endsNumber (h : Closes rest) : Token.EndsNumber rest := by
  intro c hhead
  have hc := h c hhead
  simp only [List.mem_cons, List.not_mem_nil, or_false] at hc
  rcases hc with rfl | rfl | rfl | rfl <;> decide

end Closes

namespace Token

/-- The text of a token starts with no blank. -/
theorem bindsTo_chars {token : Token} (h : token.Lexical) (rest : List Char) :
    bindsTo (token.chars ++ rest) = true := by
  have hword : ∀ (cs behind : List Char), IsWord cs → Leads cs →
      bindsTo ((cs ++ behind) ++ rest) = true := by
    intro cs behind hword hleads
    cases cs with
    | nil => exact absurd hleads id
    | cons c cs =>
        have hboundary := not_isBoundary_of_isWord hword
        rw [isBoundary, Bool.or_eq_false_iff] at hboundary
        simp [bindsTo, hboundary.1]
  cases token with
  | term text => simpa [chars] using hword text.toList [] h.1 h.2.1
  | field name => exact hword name.toList [':'] h.1 h.2
  | _ => rfl

end Token

end SearchQuery
