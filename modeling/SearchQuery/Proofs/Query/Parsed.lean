import Mathlib.Data.List.Chain
import SearchQuery.Proofs.Query.Steps
import SearchQuery.Proofs.Query.Writable
import SearchQuery.Proofs.Token.Scanning

/-!
# Queries that were read can be written

A text is `Plain` if no bare term in it is a lone sign and no bound of a range is quoted. What the
reader builds from a plain text can be written again, `Tree.exists_spellsQuery_of_parse`: at every
token all clauses so far are writable, and what is known of the unfinished ones could stand in
front of a value, `Reader.Sound`.

A quoted bound is seen from its neighbour. An opening bracket comes in front of a lower bound only,
and a closing one behind an upper bound only, so the invariant looks back at the last token.
-/

namespace SearchQuery

namespace Token

def opensRange : Token → Bool
  | leftBracket => true
  | leftBrace => true
  | _ => false

def closesRange : Token → Bool
  | rightBracket => true
  | rightBrace => true
  | _ => false

def isQuoted : Token → Bool
  | quoted _ => true
  | _ => false

/-- Whether one of two tokens side by side is a quoted text, and the other the bracket of a range
that it bounds. -/
def IsQuotedBound (token after : Token) : Prop :=
  token.opensRange = true ∧ after.isQuoted = true ∨
    token.isQuoted = true ∧ after.closesRange = true

instance (token after : Token) : Decidable (token.IsQuotedBound after) :=
  inferInstanceAs (Decidable (_ ∨ _))

end Token

/-- Whether no bare term is a lone sign and no bound of a range is quoted. -/
structure Lexing.Plain (l : Lexing) : Prop where
  not_isLoneSign : ∀ token ∈ l.lexemes.map (·.token), ¬ token.IsLoneSign
  not_isQuotedBound : (l.lexemes.map (·.token)).IsChain fun token after => ¬ token.IsQuotedBound after

theorem Lexing.plain_of_lexes {text : String} {tokens : List Token}
    (h : Lexes text.toList tokens) (hsign : ∀ token ∈ tokens, ¬ token.IsLoneSign)
    (hbound : tokens.IsChain fun token after => ¬ token.IsQuotedBound after) :
    (Lexing.ofString text).Plain := by
  obtain ⟨-, htokens⟩ := h 0
  exact ⟨htokens ▸ hsign, htokens ▸ hbound⟩

namespace Tree

theorem Writable.lexicalClosing {t : Tree} (h : Writable .clause t) : t.attrs.LexicalClosing := by
  obtain ⟨_, htokens⟩ := h
  cases htokens with
  | leaf ha => exact ha
  | group _ ha => exact ha
  | marked _ ha => exact ha
  | silent _ ha => exact ha.lexicalClosing

/-- Two clauses or more are held together by link groups that can be written. -/
theorem writable_chain_pair (rest : List (Operator × Tree)) (first second : Operator × Tree)
    (h : ∀ clause ∈ first :: second :: rest, Writable .clause clause.2) (next : NodeId) :
    Writable .clause (chain (first :: second :: rest) next).1.2.1 ∧
      Writable .rest (chain (first :: second :: rest) next).1.2.2 := by
  induction rest generalizing first second next with
  | nil => exact ⟨h first (by simp), (h second (by simp)).last⟩
  | cons third rest ih =>
      obtain ⟨hl, hr⟩ := ih second third (fun clause hclause => h clause (.tail _ hclause)) (next + 1)
      exact ⟨h first (by simp), writable_link rfl Attributes.silent_plain hl hr⟩

theorem writable_ofClauses {clauses : List (Operator × Tree)}
    (h : ∀ clause ∈ clauses, Writable .clause clause.2) (id : NodeId) (a : Attributes)
    (parens : Bool) (next : NodeId) : Writable .body (ofClauses id a parens clauses next).1 := by
  match clauses with
  | [] => exact writable_body (.inl ⟨rfl, rfl⟩) (.inl rfl)
  | [only] => exact writable_body (.inr (h only (by simp))) (.inl rfl)
  | first :: second :: rest =>
      obtain ⟨hl, hr⟩ := writable_chain_pair rest first second h next
      exact writable_body (.inr hl) (.inr hr)

theorem exists_spellsQuery_of_body {id : NodeId} {a : Attributes} {g : Group} {l r : Tree}
    (hparens : g.parens = false) (ha : a.Silent) (h : Writable .body (.group id a g l r)) :
    ∃ tokens, SpellsQuery (.group id a g l r) tokens := by
  obtain ⟨_, htokens⟩ := h
  cases htokens with
  | empty => exact ⟨_, .nothing hparens ha⟩
  | single hl => exact ⟨_, .clauses (.last (.silent hparens ha hl))⟩
  | pair hl hr => exact ⟨_, .clauses (.link hparens ha hl hr)⟩

end Tree

namespace Reader

/-- Whether what is known of a clause before its value could be written there. -/
structure Begun (a : Attributes) : Prop where
  field : a.LexicalField
  proximity : a.proximity = none
  boost : a.boost = none

namespace Begun

variable {a b : Attributes}

theorem plain : Begun .plain :=
  ⟨Attributes.lexicalField_of_none rfl, rfl, rfl⟩

theorem of_field_eq (h : Begun a) (hfield : b.field = a.field) (hproximity : b.proximity = a.proximity)
    (hboost : b.boost = a.boost) : Begun b :=
  ⟨h.field.of_field_eq hfield, hproximity.trans h.proximity, hboost.trans h.boost⟩

theorem lexicalClosing (h : Begun a) : a.LexicalClosing :=
  Attributes.lexicalClosing_of_none h.proximity h.boost

theorem withField (h : Begun a) {field : String} (hfield : (Token.field field).Lexical) :
    Begun { a with field := some field } := by
  refine ⟨fun name hname => ?_, h.proximity, h.boost⟩
  obtain rfl := Option.some.inj hname
  exact hfield

end Begun

def Mode.Sound (last : Token) : Mode → Prop
  | .between => True
  | .marked a => Begun a ∧ a.field = none
  | .value field a => Begun a ∧ a.field = some field
  | .lowerBound range => Begun range.attrs ∧ last.opensRange = true
  | .rangeWord range min => Begun range.attrs ∧ (Token.term min).Lexical
  | .upperBound range min => Begun range.attrs ∧ (Token.term min).Lexical
  | .rangeEnd range min max =>
      Begun range.attrs ∧ (Token.term min).Lexical ∧
        ((Token.term max).Lexical ∨ last.isQuoted = true)
  | .modifiers clause => clause.Writable .clause ∧ clause.isPrimary = true

/-- Whether a group that is being read can be written so far. -/
structure Frame.Sound (f : Frame) : Prop where
  attrs : Begun f.attrs
  clauses : ∀ clause ∈ f.clauses, clause.2.Writable .clause

/-- Whether all that was read can be written again. -/
structure Sound (last : Token) (r : Reader) : Prop where
  mode : r.mode.Sound last
  group : r.group.Sound
  outer : ∀ f ∈ r.outer, f.Sound

theorem Frame.sound_opened {a : Attributes} (h : Begun a) : (Frame.opened a).Sound :=
  ⟨h, by simp [Frame.opened]⟩

theorem sound_start (last : Token) : start.Sound last :=
  ⟨trivial, Frame.sound_opened .plain, by simp [start]⟩

namespace Sound

variable {r r' : Reader} {token last : Token} {a : Attributes}

theorem settled (h : r.Sound last) : r.settled.Sound last := by
  obtain ⟨mode, group, outer, next⟩ := r
  cases mode with
  | modifiers clause =>
      refine ⟨trivial, ⟨h.group.attrs, fun c hc => ?_⟩, h.outer⟩
      rcases List.mem_cons.1 hc with rfl | hc
      · exact h.mode.1
      · exact h.group.clauses c hc
  | _ => exact h

theorem withMode (h : r.Sound last) {mode : Mode} (hmode : mode.Sound token) :
    Sound token { r with mode := mode } :=
  ⟨hmode, h.group, h.outer⟩

theorem begun_of_expects (h : r.Sound last) (hexpects : r.Expects a) :
    Begun a ∧ a.field = none := by
  have hmode := h.mode
  rcases hexpects with hexpects | ⟨-, rfl⟩
  · rwa [hexpects] at hmode
  · exact ⟨.plain, rfl⟩

theorem begun_of_awaits (h : r.Sound last) (hawaits : r.Awaits a) : Begun a := by
  rcases hawaits with hexpects | ⟨field, hvalue⟩
  · exact (h.begun_of_expects hexpects).1
  · have hmode := h.mode
    rw [hvalue] at hmode
    exact hmode.1

/-- A bare term asks nothing about its field where no question was read. -/
theorem field_ne_of_not_asks (h : r.Sound last) (hawaits : r.Awaits a) (hasks : ¬ r.Asks) :
    a.field ≠ some "_exists_" ∧ a.field ≠ some "_missing_" := by
  rcases hawaits with hexpects | ⟨field, hvalue⟩
  · rw [(h.begun_of_expects hexpects).2]
    exact ⟨by simp, by simp⟩
  · have hmode := h.mode
    rw [hvalue] at hmode
    rw [hmode.2]
    refine ⟨fun hfield => hasks ⟨a, .inl ?_⟩, fun hfield => hasks ⟨a, .inr ?_⟩⟩
    · rw [hvalue, Option.some.inj hfield]
    · rw [hvalue, Option.some.inj hfield]

theorem readLeaf (h : r.Sound last) (ha : a.LexicalClosing) {l : Leaf} {tokens : List Token}
    (hl : l.Spells a tokens) : (r.readLeaf a l).Sound token := by
  have hmode : (Mode.modifiers (.leaf r.next a l)).Sound token :=
    ⟨Tree.writable_leaf ha ⟨_, hl⟩, rfl⟩
  exact ⟨hmode, h.group, h.outer⟩

theorem openGroup (h : r.Sound last) (ha : Begun a) : (r.openGroup a).Sound token := by
  refine ⟨trivial, Frame.sound_opened ha, fun f hf => ?_⟩
  rcases List.mem_cons.1 hf with rfl | hf
  · exact h.group
  · exact h.outer f hf

/-- A bound that is not quoted is a bare term. -/
theorem lexical_of_bound? {bound : String} (hlexical : token.Lexical)
    (hbound : bound? token = some bound) :
    (Token.term bound).Lexical ∨ token.isQuoted = true := by
  cases token with
  | term text =>
      obtain rfl := Option.some.inj hbound
      exact .inl hlexical
  | quoted text => exact .inr rfl
  | _ => simp [bound?] at hbound

theorem closeRange (h : r.Sound last) {range : OpenRange} {min max : String} (toMax : Bool)
    (hmode : r.mode = .rangeEnd range min max) (hquoted : ¬ last.isQuoted = true) :
    (r.closeRange range min max toMax).Sound token := by
  have hrange := h.mode
  rw [hmode] at hrange
  obtain ⟨hbegun, hmin, hmax⟩ := hrange
  exact h.readLeaf hbegun.lexicalClosing (.range hbegun.field hmin (hmax.resolve_right hquoted))

theorem modifiers (h : r.Sound last) {clause : Tree} (hmode : r.mode = .modifiers clause)
    {b : Attributes} (hfield : b.field = clause.attrs.field)
    (hb : clause.attrs.LexicalClosing → b.LexicalClosing) :
    Sound token { r with mode := .modifiers (clause.withAttrs b) } := by
  have hclause := h.mode
  rw [hmode] at hclause
  obtain ⟨hwritable, hprimary⟩ := hclause
  exact h.withMode ⟨hwritable.withAttrs hprimary hfield (hb hwritable.lexicalClosing),
    (clause.isPrimary_withAttrs b).trans hprimary⟩

theorem closeGroup (h : r.Sound last) {around : Frame} {outer : List Frame}
    (houter : r.outer = around :: outer) :
    Sound token
      ⟨.modifiers
        (Tree.ofClauses r.next r.group.attrs true r.group.clauses.reverse (r.next + 1)).1,
        around, outer,
        (Tree.ofClauses r.next r.group.attrs true r.group.clauses.reverse (r.next + 1)).2⟩ := by
  have hclauses : ∀ clause ∈ r.group.clauses.reverse, clause.2.Writable .clause :=
    fun clause hclause => h.group.clauses clause (List.mem_reverse.1 hclause)
  have hbody := Tree.writable_ofClauses hclauses r.next r.group.attrs true (r.next + 1)
  have hbegun := h.group.attrs
  exact ⟨⟨Tree.writable_group rfl hbegun.lexicalClosing hbegun.field hbody, rfl⟩,
    h.outer around (by simp [houter]), fun f hf => h.outer f (by simp [houter, hf])⟩

end Sound

variable {r r' : Reader} {token last : Token} {tokens : List Token}

/-- Every token keeps what was read fit to be written. -/
theorem Takes.sound (h : r.Takes token r') (hr : r.Sound last) (hlexical : token.Lexical)
    (hplain : ¬ last.IsQuotedBound token) : r'.Sound token := by
  cases h with
  | plus h | minus h | not h =>
      obtain ⟨hbegun, hfield⟩ := hr.begun_of_expects h
      exact hr.withMode ⟨hbegun.of_field_eq rfl rfl rfl, hfield⟩
  | field h => exact hr.withMode ⟨(hr.begun_of_expects h).1.withField hlexical, rfl⟩
  | leftParen h => exact hr.openGroup (hr.begun_of_awaits h)
  | term h hasks =>
      have hbegun := hr.begun_of_awaits h
      obtain ⟨hexists, hmissing⟩ := hr.field_ne_of_not_asks h hasks
      exact hr.readLeaf hbegun.lexicalClosing (.bare hbegun.field hexists hmissing hlexical)
  | quoted h =>
      have hbegun := hr.begun_of_awaits h
      exact hr.readLeaf hbegun.lexicalClosing (.quoted hbegun.field hlexical)
  | pattern h =>
      have hbegun := hr.begun_of_awaits h
      exact hr.readLeaf hbegun.lexicalClosing (.pattern hbegun.field hlexical)
  | @fieldExists a field h =>
      have hbegun := hr.begun_of_awaits (.inr ⟨_, h⟩)
      have hclosing : Attributes.LexicalClosing { a with field := some field } :=
        Attributes.lexicalClosing_of_none hbegun.proximity hbegun.boost
      exact hr.readLeaf hclosing (.fieldExists rfl hlexical)
  | @fieldMissing a field h =>
      have hbegun := hr.begun_of_awaits (.inr ⟨_, h⟩)
      have hclosing : Attributes.LexicalClosing { a with field := some field } :=
        Attributes.lexicalClosing_of_none hbegun.proximity hbegun.boost
      exact hr.readLeaf hclosing (.fieldMissing rfl hlexical)
  | leftBracket h | leftBrace h => exact hr.withMode ⟨hr.begun_of_awaits h, rfl⟩
  | lowerBound h hbound =>
      have hmode := hr.mode
      rw [h] at hmode
      rcases Sound.lexical_of_bound? hlexical hbound with hmin | hquoted
      · exact hr.withMode ⟨hmode.1, hmin⟩
      · exact absurd (.inl ⟨hmode.2, hquoted⟩) hplain
  | rangeWord h =>
      have hmode := hr.mode
      rw [h] at hmode
      exact hr.withMode hmode
  | upperBound h hbound =>
      have hmode := hr.mode
      rw [h] at hmode
      exact hr.withMode ⟨hmode.1, hmode.2, Sound.lexical_of_bound? hlexical hbound⟩
  | rightBracket h => exact hr.closeRange true h fun hquoted => hplain (.inr ⟨hquoted, rfl⟩)
  | rightBrace h => exact hr.closeRange false h fun hquoted => hplain (.inr ⟨hquoted, rfl⟩)
  | boost h =>
      refine hr.modifiers h rfl fun hclosing => ⟨hclosing.proximity, fun value hvalue => ?_⟩
      obtain rfl := Option.some.inj hvalue
      exact hlexical
  | proximity h =>
      refine hr.modifiers h rfl fun hclosing => ⟨fun value hvalue => ?_, hclosing.boost⟩
      obtain rfl := Option.some.inj hvalue
      exact hlexical
  | and h | or h =>
      have hmode := hr.mode
      rw [h] at hmode
      exact ⟨by rw [h]; trivial, ⟨hr.group.attrs, hr.group.clauses⟩, hr.outer⟩
  | rightParen _ _ houter => exact hr.closeGroup houter

theorem Sound.step (hr : r.Sound last) (hlexical : token.Lexical)
    (hplain : ¬ last.IsQuotedBound token) (h : r.step token = .ok r') : r'.Sound token := by
  rcases takes_of_step h with h | h
  · exact h.sound hr hlexical hplain
  · exact h.sound hr.settled hlexical hplain

/-- What was read is fit to be written after any number of tokens. -/
theorem Reads.sound (h : Reads r tokens r') (hr : r.Sound last)
    (hlexical : ∀ token ∈ tokens, token.Lexical)
    (hplain : (last :: tokens).IsChain fun token after => ¬ token.IsQuotedBound after) :
    ∃ last, r'.Sound last := by
  induction tokens generalizing r last with
  | nil =>
      obtain rfl := Except.ok.inj h
      exact ⟨last, hr⟩
  | cons token tokens ih =>
      obtain ⟨middle, hstep, hrest⟩ := h.exists_step
      obtain ⟨hfirst, hplain⟩ := List.isChain_cons_cons.1 hplain
      exact ih hrest (hr.step (hlexical token (by simp)) hfirst hstep)
        (fun token htoken => hlexical token (.tail _ htoken)) hplain

end Reader

theorem Tree.exists_spellsQuery_of_parse {text : String} {t : Tree} (h : Tree.parse text = .ok t)
    (hplain : (Lexing.ofString text).Plain) : ∃ tokens, SpellsQuery t tokens := by
  obtain ⟨r, hreads, -, rfl⟩ := exists_reads_of_parse h
  have hlexical : ∀ token ∈ (Lexing.ofString text).lexemes.map (·.token), token.Lexical := by
    intro token htoken
    obtain ⟨lexeme, hlexeme, rfl⟩ := List.mem_map.1 htoken
    exact (Lexing.lexical_of_mem hlexeme).resolve_right (hplain.not_isLoneSign _ htoken)
  -- a token that is no bracket and not quoted stands for the beginning of the text
  have hchain : (Token.and :: (Lexing.ofString text).lexemes.map (·.token)).IsChain
      fun token after => ¬ token.IsQuotedBound after := by
    refine hplain.not_isQuotedBound.cons fun token _ => ?_
    simp [Token.IsQuotedBound, Token.opensRange, Token.isQuoted]
  obtain ⟨last, hsound⟩ := hreads.sound (Reader.sound_start .and) hlexical hchain
  exact exists_spellsQuery_of_body rfl Attributes.silent_plain (writable_ofClauses
    (fun clause hclause => hsound.settled.group.clauses clause (List.mem_reverse.1 hclause)) ..)

end SearchQuery
