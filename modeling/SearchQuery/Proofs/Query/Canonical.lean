import SearchQuery.Proofs.Query.Building
import SearchQuery.Proofs.Query.Writing
import SearchQuery.Proofs.Token.Scanning

/-!
# Canonical trees come back

A tree is canonical when it is made the way the parser makes trees, of texts that the lexer reads
back. `Token.Returns` says so of a text by what the lexer does with it, in front of whatever the
printer may write behind it; `Tree.Canonical` and `Tree.CanonicalQuery` say the rest.

The text of such a tree is always parsed, `Tree.CanonicalQuery.exists_parse_asRead`. What comes
back is `Tree.asRead`: a bare term that looks like a comparison is read as one, and a bare term or a
comparison on one of the two reserved fields is read as the question about the field it names.
Exactly the trees without such leaves come back as they were.
-/

namespace SearchQuery

def MayFollow (rest : List Char) : Prop :=
  ∀ c ∈ rest.head?, c ∈ [' ', ')', ']', '\x7d', '~', '^']

theorem Lexes.unique {cs : List Char} {tokens tokens' : List Token} (h : Lexes cs tokens)
    (h' : Lexes cs tokens') : tokens = tokens' :=
  (h 0).2.symm.trans (h' 0).2

namespace Token

/-- Whether the lexer reads the text of a token as this one token, whatever the printer may write
behind it. -/
def Returns (token : Token) : Prop :=
  ∀ rest later, MayFollow rest → Lexes rest later → Lexes (token.chars ++ rest) (token :: later)

theorem Returns.lexical {token : Token} (h : token.Returns) : token.Lexical := by
  have hparen : Lexes [')'] [.rightParen] :=
    .token (show Token.rightParen.Lexical from trivial) trivial .nil
  have hlexes := h [')'] [.rightParen] (by simp [MayFollow]) hparen
  have hmem : token ∈ (Lexing.ofChars 0 (token.chars ++ [')'])).lexemes.map (·.token) := by
    rw [(hlexes 0).2]
    exact List.mem_cons_self
  obtain ⟨lexeme, hlexeme, rfl⟩ := List.mem_map.1 hmem
  refine (Lexing.lexical_of_mem hlexeme).resolve_right fun hsign => ?_
  -- a sign in front of a parenthesis is a sign
  rcases hsign with hsign | hsign <;> rw [hsign] at hlexes
  · have hplus : Lexes ['+', ')'] [.plus, .rightParen] :=
      .token (show Token.plus.Lexical from trivial) rfl hparen
    exact absurd (hlexes.unique hplus) (by simp)
  · have hminus : Lexes ['-', ')'] [.minus, .rightParen] :=
      .token (show Token.minus.Lexical from trivial) rfl hparen
    exact absurd (hlexes.unique hminus) (by simp)

/-- Behind all but a sign the printer writes nothing that runs into the text. -/
theorem allows_of_mayFollow {token : Token} (hsign : token ∉ [.plus, .minus]) {rest : List Char}
    (hrest : MayFollow rest) : token.Allows rest := by
  have hends : Ends rest ∧ rest.head? ≠ some ':' ∧ EndsNumber rest := by
    cases rest with
    | nil => simp [Ends, EndsNumber]
    | cons c rest =>
        have hc := hrest c rfl
        simp only [List.mem_cons, List.not_mem_nil, or_false] at hc
        rcases hc with rfl | rfl | rfl | rfl | rfl | rfl <;> simp [Ends, EndsNumber] <;> decide
  cases token with
  | term | and | or | not => exact ⟨hends.1, hends.2.1⟩
  | boost | proximity => exact hends.2.2
  | plus | minus => simp at hsign
  | _ => trivial

theorem Returns.of_lexical {token : Token} (h : token.Lexical)
    (hsign : token ∉ [.plus, .minus]) : token.Returns :=
  fun _ _ hrest hlater => .token h (allows_of_mayFollow hsign hrest) hlater

end Token

namespace Attributes

def namesQuestion (a : Attributes) : Bool :=
  a.field = some "_exists_" || a.field = some "_missing_"

/-- Whether the negation is one that the parser gives and the numbers behind the node come back. -/
structure Canonical (a : Attributes) : Prop where
  negation : a.negation ≠ .notNegated
  proximity : ∀ value, a.proximity = some value → (Token.proximity value).Returns
  boost : ∀ value, a.boost = some value → (Token.boost value).Returns

def CanonicalField (a : Attributes) : Prop :=
  ∀ field, a.field = some field → (Token.field field).Returns

end Attributes

namespace Leaf

/-- Whether the texts of a leaf come back and a range has the form that a parsed one has. -/
inductive Canonical (a : Attributes) : Leaf → Prop
  | bare {text} (ha : a.CanonicalField) (h : (Token.term text).Returns) :
      Canonical a (term ⟨text, .bare⟩)
  | quoted {text} (ha : a.CanonicalField) (h : (Token.quoted text).Returns) :
      Canonical a (term ⟨text, .quoted⟩)
  | pattern {text} (ha : a.CanonicalField) (h : (Token.pattern text).Returns) :
      Canonical a (term ⟨text, .pattern⟩)
  | between {min max fromMin toMax} (ha : a.CanonicalField) (hmin : (Token.term min).Returns)
      (hmax : (Token.term max).Returns) :
      Canonical a (range ⟨some min, some max, some fromMin, some toMax⟩)
  | atLeast {min inclusive} (ha : a.CanonicalField) (h : (Token.term min).Returns)
      (hfirst : inclusive = false → min.toList.head? ≠ some '=') :
      Canonical a (range ⟨some min, none, some inclusive, none⟩)
  | atMost {max inclusive} (ha : a.CanonicalField) (h : (Token.term max).Returns)
      (hfirst : inclusive = false → max.toList.head? ≠ some '=') :
      Canonical a (range ⟨none, some max, none, some inclusive⟩)
  | fieldExists {field} (ha : a.field = some field) (h : (Token.term field).Returns) :
      Canonical a fieldExists
  | fieldMissing {field} (ha : a.field = some field) (h : (Token.term field).Returns) :
      Canonical a fieldMissing

/-- Whether a leaf is written like another leaf: a bare term like a comparison, or a bare term or
comparison on a field like the question that the field names. -/
def isMistakable (a : Attributes) : Leaf → Bool
  | term ⟨text, .bare⟩ => (comparison? text.toList).isSome || a.namesQuestion
  | range ⟨some _, none, _, _⟩ => a.namesQuestion
  | range ⟨none, some _, _, _⟩ => a.namesQuestion
  | _ => false

def word? : Leaf → Option String
  | term ⟨text, .bare⟩ => some text
  | range ⟨some min, none, fromMin, toMax⟩ =>
      some (String.ofList (Range.chars ⟨some min, none, fromMin, toMax⟩))
  | range ⟨none, some max, fromMin, toMax⟩ =>
      some (String.ofList (Range.chars ⟨none, some max, fromMin, toMax⟩))
  | _ => none

def asRead (a : Attributes) (l : Leaf) : Attributes × Leaf :=
  match l.word? with
  | none => (a, l)
  | some text =>
      if a.field = some "_exists_" then ({ a with field := some text }, fieldExists)
      else if a.field = some "_missing_" then ({ a with field := some text }, fieldMissing)
      else (a, ofBare text)

end Leaf

namespace Tree

def asRead : Tree → Tree
  | nil => nil
  | leaf id a l => leaf id (l.asRead a).1 (l.asRead a).2
  | group id a g l r => group id a g l.asRead r.asRead

/-- Whether some leaf is written like another one. -/
def isMistakable : Tree → Bool
  | nil => false
  | leaf _ a l => l.isMistakable a
  | group _ _ _ l r => l.isMistakable || r.isMistakable

/-- Trees made the way the parser makes them, of texts that come back. -/
inductive Canonical : Part → Tree → Prop
  | leaf {id a l} (ha : a.Canonical) (h : l.Canonical a) : Canonical .clause (leaf id a l)
  | group {id a g l r} (hparens : g.parens = true) (ha : a.Canonical) (hfield : a.CanonicalField)
      (h : Canonical .body (group id a g l r)) : Canonical .clause (group id a g l r)
  | last {t} (h : Canonical .clause t) : Canonical .rest t
  /-- A link group holds the two or more clauses that are left. -/
  | link {id g l r} (hparens : g.parens = false) (hl : Canonical .clause l)
      (hr : Canonical .rest r) : Canonical .rest (group id .plain g l r)
  | empty {id a g} (hoperator : g.operator = .default) : Canonical .body (group id a g nil nil)
  | single {id a g l} (hoperator : g.operator = .default) (h : Canonical .clause l) :
      Canonical .body (group id a g l nil)
  | pair {id a g l r} (hl : Canonical .clause l) (hr : Canonical .rest r) :
      Canonical .body (group id a g l r)

/-- Canonical trees below a root of which nothing is said. -/
inductive CanonicalQuery : Tree → Prop
  | root {id g l r} (hparens : g.parens = false) (h : Canonical .body (group id .plain g l r)) :
      CanonicalQuery (group id .plain g l r)

end Tree

namespace Attributes

variable {a : Attributes}

theorem Canonical.lexicalClosing (h : a.Canonical) : a.LexicalClosing :=
  ⟨fun value hvalue => (h.proximity value hvalue).lexical,
    fun value hvalue => (h.boost value hvalue).lexical⟩

theorem CanonicalField.lexicalField (h : a.CanonicalField) : a.LexicalField :=
  fun field hfield => (h field hfield).lexical

theorem Canonical.heard (h : a.Canonical) : a.heard = a := by
  obtain ⟨field, negation, sign, boost, proximity⟩ := a
  have hnegation : negation ≠ .notNegated := h.negation
  cases negation with
  | notNegated => exact absurd rfl hnegation
  | _ => rfl

end Attributes

namespace Leaf

theorem lexical_comparison {bound : String} (h : (Token.term bound).Lexical) {c : Char}
    (hc : c = '>' ∨ c = '<') (inclusive : Bool) :
    (Token.term (String.ofList ((if inclusive then [c, '='] else [c]) ++ bound.toList))).Lexical := by
  have hcons : ∀ {d : Char} {cs : List Char}, d ≠ '\\' → Token.isBoundary d = false →
      Token.IsWord cs → Token.IsWord (d :: cs) := by
    intro d cs hne hd hcs
    rw [Token.IsWord, Token.splitTerm?_cons hne hd, hcs]
    rfl
  have hmark : c ≠ '\\' ∧ Token.isBoundary c = false := by
    rcases hc with rfl | rfl <;> decide
  have hwritten : (if inclusive then [c, '='] else [c]) ++ bound.toList =
      c :: ((if inclusive then ['='] else []) ++ bound.toList) := by
    cases inclusive <;> rfl
  rw [Token.Lexical, String.toList_ofList, hwritten]
  refine ⟨hcons hmark.1 hmark.2 ?_, ?_, ?_⟩
  · cases inclusive with
    | true => exact hcons (by decide) (by decide) h.1
    | false => exact h.1
  · rcases hc with rfl | rfl <;> simp [Token.Leads]
  · rcases hc with rfl | rfl <;> simp

theorem bound_ne_nil {bound : String} (h : (Token.term bound).Lexical) : bound.toList ≠ [] := by
  intro hnil
  obtain ⟨-, hleads, -⟩ := h
  rw [hnil] at hleads
  exact hleads

theorem comparison?_greater {cs : List Char} {inclusive : Bool}
    (hfirst : inclusive = false → cs.head? ≠ some '=') :
    comparison? ((if inclusive then ['>', '='] else ['>']) ++ cs) =
      comparison?.atLeast cs inclusive := by
  cases inclusive with
  | true => rfl
  | false =>
      cases cs with
      | nil => rfl
      | cons c cs =>
          have hc : c ≠ '=' := by simpa using hfirst rfl
          simp [comparison?, hc]

theorem comparison?_less {cs : List Char} {inclusive : Bool}
    (hfirst : inclusive = false → cs.head? ≠ some '=') :
    comparison? ((if inclusive then ['<', '='] else ['<']) ++ cs) =
      comparison?.atMost cs inclusive := by
  cases inclusive with
  | true => rfl
  | false =>
      cases cs with
      | nil => rfl
      | cons c cs =>
          have hc : c ≠ '=' := by simpa using hfirst rfl
          simp [comparison?, hc]

/-- A comparison is read as the range it was written for. -/
theorem ofBare_atLeast {min : String} (h : (Token.term min).Lexical) {inclusive : Bool}
    (hfirst : inclusive = false → min.toList.head? ≠ some '=') :
    ofBare (String.ofList (Range.chars ⟨some min, none, some inclusive, none⟩)) =
      range ⟨some min, none, some inclusive, none⟩ := by
  rw [ofBare, String.toList_ofList, Range.chars, Range.isMinInclusive, Option.getD_some,
    comparison?_greater hfirst, comparison?.atLeast, if_neg (bound_ne_nil h), String.ofList_toList]

theorem ofBare_atMost {max : String} (h : (Token.term max).Lexical) {inclusive : Bool}
    (hfirst : inclusive = false → max.toList.head? ≠ some '=') :
    ofBare (String.ofList (Range.chars ⟨none, some max, none, some inclusive⟩)) =
      range ⟨none, some max, none, some inclusive⟩ := by
  rw [ofBare, String.toList_ofList, Range.chars, Range.isMaxInclusive, Option.getD_some,
    comparison?_less hfirst, comparison?.atMost, if_neg (bound_ne_nil h), String.ofList_toList]

theorem ofBare_eq_term_iff (text : String) :
    ofBare text = term ⟨text, .bare⟩ ↔ (comparison? text.toList).isSome = false := by
  rw [ofBare]
  split
  · next hr => simp [hr]
  · next hr => simp [hr]

variable {a : Attributes} {l : Leaf} {text : String}

theorem Canonical.of_word? (h : l.Canonical a) (hword : l.word? = some text) :
    a.LexicalField ∧ (Token.term text).Lexical ∧ l.chars a = a.fieldMark ++ text.toList ∧
      (l.isMistakable a = false ↔ ofBare text = l ∧ a.namesQuestion = false) := by
  cases h with
  | bare ha h =>
      obtain rfl := Option.some.inj hword
      refine ⟨ha.lexicalField, h.lexical, rfl, ?_⟩
      rw [isMistakable, Bool.or_eq_false_iff, ofBare_eq_term_iff]
  | atLeast ha h hfirst =>
      obtain rfl := Option.some.inj hword
      refine ⟨ha.lexicalField, ?_, ?_, ?_⟩
      · exact lexical_comparison h.lexical (.inl rfl) _
      · rw [String.toList_ofList]
        rfl
      · rw [ofBare_atLeast h.lexical hfirst, isMistakable]
        simp
  | atMost ha h hfirst =>
      obtain rfl := Option.some.inj hword
      refine ⟨ha.lexicalField, ?_, ?_, ?_⟩
      · exact lexical_comparison h.lexical (.inr rfl) _
      · rw [String.toList_ofList]
        rfl
      · rw [ofBare_atMost h.lexical hfirst, isMistakable]
        simp
  | quoted | pattern | between | fieldExists | fieldMissing => cases hword

theorem Canonical.spells_of_word?_eq_none (h : l.Canonical a) (hword : l.word? = none) :
    (∃ tokens, l.Spells a tokens) ∧ l.isMistakable a = false := by
  cases h with
  | bare | atLeast | atMost => cases hword
  | quoted ha h => exact ⟨⟨_, .quoted ha.lexicalField h.lexical⟩, rfl⟩
  | pattern ha h => exact ⟨⟨_, .pattern ha.lexicalField h.lexical⟩, rfl⟩
  | between ha hmin hmax => exact ⟨⟨_, .range ha.lexicalField hmin.lexical hmax.lexical⟩, rfl⟩
  | fieldExists ha h => exact ⟨⟨_, .fieldExists ha h.lexical⟩, rfl⟩
  | fieldMissing ha h => exact ⟨⟨_, .fieldMissing ha h.lexical⟩, rfl⟩

theorem asRead_of_word?_eq_none (hword : l.word? = none) : l.asRead a = (a, l) := by
  rw [asRead, hword]

theorem exists_asRead_eq (a : Attributes) (l : Leaf) :
    ∃ field, (l.asRead a).1 = { a with field := field } := by
  rw [asRead]
  split
  · exact ⟨a.field, rfl⟩
  · split
    · exact ⟨_, rfl⟩
    · split
      · exact ⟨_, rfl⟩
      · exact ⟨a.field, rfl⟩

theorem Canonical.asRead (h : l.Canonical a) :
    (∃ tokens, (l.asRead a).2.Spells (l.asRead a).1 tokens) ∧
      (l.asRead a).2.chars (l.asRead a).1 = l.chars a ∧
      (l.asRead a = (a, l) ↔ l.isMistakable a = false) := by
  cases hword : l.word? with
  | none =>
      obtain ⟨hspells, hclear⟩ := h.spells_of_word?_eq_none hword
      rw [asRead_of_word?_eq_none hword]
      exact ⟨hspells, rfl, iff_of_true rfl hclear⟩
  | some text =>
      obtain ⟨ha, htext, hchars, hclear⟩ := h.of_word? hword
      have hexists' : Leaf.fieldExists ≠ l := by
        rintro rfl
        cases hword
      have hmissing' : Leaf.fieldMissing ≠ l := by
        rintro rfl
        cases hword
      rw [hchars, hclear, Leaf.asRead, hword]
      dsimp only
      by_cases hexists : a.field = some "_exists_"
      · rw [if_pos hexists]
        refine ⟨⟨_, .fieldExists rfl htext⟩, ?_, ?_⟩
        · rw [chars_fieldExists rfl, Attributes.fieldMark_eq ha, hexists]
          rfl
        · exact iff_of_false (fun heq => hexists' (congrArg Prod.snd heq))
            (by simp [Attributes.namesQuestion, hexists])
      · by_cases hmissing : a.field = some "_missing_"
        · rw [if_neg hexists, if_pos hmissing]
          refine ⟨⟨_, .fieldMissing rfl htext⟩, ?_, ?_⟩
          · rw [chars_fieldMissing rfl, Attributes.fieldMark_eq ha, hmissing]
            rfl
          · exact iff_of_false (fun heq => hmissing' (congrArg Prod.snd heq))
              (by simp [Attributes.namesQuestion, hmissing])
        · rw [if_neg hexists, if_neg hmissing]
          refine ⟨⟨_, .bare ha hexists hmissing htext⟩, chars_ofBare a text, ?_⟩
          simp [Attributes.namesQuestion, hexists, hmissing]

end Leaf

namespace Tree

variable {part : Part} {t : Tree}

theorem isNil_asRead (t : Tree) : t.asRead.isNil = t.isNil := by
  cases t <;> rfl

theorem Canonical.exists_spells (h : Canonical part t) : ∃ tokens, Spells part t.asRead tokens := by
  induction h with
  | @leaf id a l ha h =>
      obtain ⟨⟨tokens, hspells⟩, -, -⟩ := h.asRead
      obtain ⟨field, hfield⟩ := Leaf.exists_asRead_eq a l
      refine ⟨_, .leaf ?_ hspells⟩
      rw [hfield]
      exact ⟨ha.lexicalClosing.1, ha.lexicalClosing.2⟩
  | group hparens ha hfield _ ih =>
      obtain ⟨tokens, hspells⟩ := ih
      exact ⟨_, .group hparens ha.lexicalClosing hfield.lexicalField hspells⟩
  | last _ ih =>
      obtain ⟨tokens, hspells⟩ := ih
      exact ⟨tokens, .last hspells⟩
  | link hparens _ _ ihl ihr =>
      obtain ⟨tokens, hl⟩ := ihl
      obtain ⟨tokens', hr⟩ := ihr
      exact ⟨_, .link hparens Attributes.silent_plain hl hr⟩
  | empty => exact ⟨[], .empty⟩
  | single _ _ ih =>
      obtain ⟨tokens, hspells⟩ := ih
      exact ⟨tokens, .single hspells⟩
  | pair _ _ ihl ihr =>
      obtain ⟨tokens, hl⟩ := ihl
      obtain ⟨tokens', hr⟩ := ihr
      exact ⟨_, .pair hl hr⟩

theorem Canonical.chars_asRead (h : Canonical part t) : t.asRead.chars = t.chars := by
  have hgroup : ∀ {id : NodeId} {a : Attributes} {g : Group} {l r : Tree},
      l.asRead.chars = l.chars → r.asRead.chars = r.chars →
      (Tree.group id a g l r).asRead.chars = (Tree.group id a g l r).chars := by
    intro id a g l r hl hr
    rw [asRead, chars, chars, hl, hr, isNil_asRead, isNil_asRead]
  induction h with
  | @leaf id a l _ h =>
      obtain ⟨field, hfield⟩ := Leaf.exists_asRead_eq a l
      obtain ⟨-, hchars, -⟩ := h.asRead
      rw [asRead, chars, chars, hchars, hfield]
      rfl
  | group _ _ _ _ ih => exact ih
  | last _ ih => exact ih
  | link _ _ _ ihl ihr => exact hgroup ihl ihr
  | empty => rfl
  | single _ _ ih => exact hgroup ih rfl
  | pair _ _ ihl ihr => exact hgroup ihl ihr

theorem Canonical.isNil_eq_false (h : Canonical part t) (hpart : part ≠ .body) :
    t.isNil = false := by
  cases h with
  | leaf | group | link => rfl
  | last h => cases h <;> rfl
  | empty | single | pair => exact absurd rfl hpart

theorem Canonical.operator_eq {id : NodeId} {a : Attributes} {g : Group} {l r : Tree}
    (h : Canonical .body (.group id a g l r)) :
    (if r.isNil then .default else g.operator) = g.operator := by
  cases h with
  | empty hoperator => exact hoperator.symm
  | single hoperator _ => exact hoperator.symm
  | pair _ hr => rw [hr.isNil_eq_false (by decide)]; rfl

/-- Nothing of what a canonical tree says is lost when its text is read. -/
theorem Canonical.echo_asRead (h : Canonical part t) :
    part.All (fun t => t.echo = t) t.asRead := by
  induction h with
  | @leaf id a l ha _ =>
      obtain ⟨field, hfield⟩ := Leaf.exists_asRead_eq a l
      rw [Part.All, asRead, echo, hfield]
      exact congrArg (Tree.leaf id · _) (congrArg (fun b : Attributes => { b with field := field })
        ha.heard)
  | @group id a g l r hparens ha _ h ih =>
      obtain ⟨hl, hr⟩ := ih
      have hform : (⟨g.operator, true⟩ : Group) = g := by rw [← hparens]
      rw [Part.All, asRead, echo_of_parens hparens, isNil_asRead, h.operator_eq, ha.heard, hl, hr,
        hform]
  | last _ ih => exact ih
  | @link id g l r hparens _ hr ihl ihr =>
      have hform : (⟨g.operator, false⟩ : Group) = g := by rw [← hparens]
      have hnil : r.asRead.isNil = false := (isNil_asRead r).trans (hr.isNil_eq_false (by decide))
      rw [Part.All, asRead, echo_of_link hparens hnil, show l.asRead.echo = l.asRead from ihl,
        show r.asRead.echo = r.asRead from ihr, hform]
  | empty => exact ⟨rfl, rfl⟩
  | single _ _ ih => exact ⟨ih, rfl⟩
  | pair _ _ ihl ihr => exact ⟨ihl, ihr⟩

/-- A canonical tree is read as itself, but for its numbers, unless a leaf is mistaken. -/
theorem Canonical.unnumbered_asRead_eq_iff (h : Canonical part t) :
    t.asRead.unnumbered = t.unnumbered ↔ t.isMistakable = false := by
  have hgroup : ∀ {id : NodeId} {a : Attributes} {g : Group} {l r : Tree},
      (l.asRead.unnumbered = l.unnumbered ↔ l.isMistakable = false) →
      (r.asRead.unnumbered = r.unnumbered ↔ r.isMistakable = false) →
      ((Tree.group id a g l r).asRead.unnumbered = (Tree.group id a g l r).unnumbered ↔
        (Tree.group id a g l r).isMistakable = false) := by
    intro id a g l r hl hr
    rw [isMistakable, Bool.or_eq_false_iff, ← hl, ← hr]
    simp [asRead, unnumbered]
  induction h with
  | @leaf id a l _ h =>
      obtain ⟨-, -, hclear⟩ := h.asRead
      rw [isMistakable, ← hclear, Prod.ext_iff]
      simp [asRead, unnumbered]
  | group _ _ _ _ ih => exact ih
  | last _ ih => exact ih
  | link _ _ _ ihl ihr => exact hgroup ihl ihr
  | empty => exact iff_of_true rfl rfl
  | single _ _ ih => exact hgroup ih (iff_of_true rfl rfl)
  | pair _ _ ihl ihr => exact hgroup ihl ihr

/-- The text of a canonical tree is parsed. What comes back is what the tree is read as, and it is
the tree, but for its numbers, exactly if no leaf is written like another one. -/
theorem CanonicalQuery.exists_parse_asRead (h : CanonicalQuery t) :
    ∃ back, Tree.parse t.render = .ok back ∧ back.unnumbered = t.asRead.unnumbered ∧
      (back.unnumbered = t.unnumbered ↔ t.isMistakable = false) := by
  cases h with
  | @root id g l r hparens hbody =>
      obtain ⟨tokens, hspells⟩ := hbody.exists_spells
      obtain ⟨hl, hr⟩ := hbody.echo_asRead
      have hlexes : Lexes (Tree.group id .plain g l r).render.toList tokens := by
        have hread := (hspells.lexes (show Closes [] by simp [Closes]) .nil).2
        rw [List.append_nil, List.append_nil, Part.chars, asRead,
          ← chars_of_silent Attributes.silent_plain hparens id] at hread
        rw [render, String.toList_ofList, ← hbody.chars_asRead]
        exact hread
      obtain ⟨back, hparse, hback⟩ := hspells.exists_parse_body hlexes
      have hform : (⟨g.operator, false⟩ : Group) = g := by rw [← hparens]
      have hasRead : back.unnumbered = (Tree.group id .plain g l r).asRead.unnumbered := by
        rw [hback, isNil_asRead, hbody.operator_eq, hl, hr, hform]
        rfl
      exact ⟨back, hparse, hasRead, hasRead ▸ hbody.unnumbered_asRead_eq_iff⟩

/-- The query `NOT title:"a b"~2^3 OR (+price:>=10 x) /r/`. -/
theorem parse_render_of_three_clauses :
    let title : Attributes := ⟨some "title", .negated, none, some "3", some "2"⟩
    let price : Attributes := ⟨some "price", .unspecified, some .must, none, none⟩
    let t : Tree := .group 0 .plain ⟨.or, false⟩ (.leaf 1 title (.term ⟨"a b", .quoted⟩))
      (.group 2 .plain .plain
        (.group 3 .plain ⟨.default, true⟩
          (.leaf 4 price (.range ⟨some "10", none, some true, none⟩))
          (.leaf 5 .plain (.term ⟨"x", .bare⟩)))
        (.leaf 6 .plain (.term ⟨"r", .pattern⟩)))
    ∃ back, Tree.parse t.render = .ok back ∧ back.unnumbered = t.unnumbered := by
  intro title price t
  have hnone : ∀ {a : Attributes}, a.field = none → a.CanonicalField := by
    intro a ha field hfield
    cases ha.symm.trans hfield
  have hplain : Attributes.plain.Canonical :=
    ⟨by decide, by simp [Attributes.plain], by simp [Attributes.plain]⟩
  have htitle : title.Canonical := by
    refine ⟨by decide, ?_, ?_⟩
    · rintro _ ⟨⟩
      have htwo : ∀ c ∈ ['2'], Token.isNumeral c = true := List.forall_mem_singleton.2 (by decide)
      exact .of_lexical (show (Token.proximity "2").Lexical from htwo) (by decide)
    · rintro _ ⟨⟩
      have hthree : ∀ c ∈ ['3'], Token.isNumeral c = true := List.forall_mem_singleton.2 (by decide)
      exact .of_lexical (show (Token.boost "3").Lexical from ⟨by decide, hthree⟩) (by decide)
  have htitleField : title.CanonicalField := by
    rintro _ ⟨⟩
    exact .of_lexical ⟨by decide, by simp [Token.Leads]⟩ (by decide)
  have hprice : price.CanonicalField := by
    rintro _ ⟨⟩
    exact .of_lexical ⟨by decide, by simp [Token.Leads]⟩ (by decide)
  have hten : (Token.term "10").Returns :=
    .of_lexical ⟨by decide, by simp [Token.Leads], by decide⟩ (by decide)
  have hx : (Token.term "x").Returns :=
    .of_lexical ⟨by decide, by simp [Token.Leads], by decide⟩ (by decide)
  have hcanonical : CanonicalQuery t := by
    refine .root rfl (.pair (.leaf htitle (.quoted htitleField (.of_lexical rfl (by decide))))
      (.link rfl (.group rfl hplain (hnone rfl) (.pair ?_ ?_)) (.last ?_)))
    · exact .leaf ⟨by decide, by simp [price], by simp [price]⟩ (.atLeast hprice hten (by simp))
    · exact .last (.leaf hplain (.bare (hnone rfl) hx))
    · exact .leaf hplain (.pattern (hnone rfl) (.of_lexical rfl (by decide)))
  obtain ⟨back, hparse, -, hback⟩ := hcanonical.exists_parse_asRead
  exact ⟨back, hparse, hback.2 (by decide)⟩

end Tree

end SearchQuery
