import SearchQuery.Proofs.Query.Describing
import SearchQuery.Proofs.Store.Query

/-!
# The reader accepts its grammar

What a reader has read so far is always the beginning of something that the grammar derives,
`Reader.Derived`: of each open group the clauses that are complete can be followed by any clause,
and the tokens of the unfinished clause are those of its marks, its field and a part of its value.
So the tokens of a text that is parsed have a derivation, and `Store.parse_iff_derives` puts this
together with what the reader builds from a derivation.
-/

namespace SearchQuery

namespace Reader

open Grammar

def lead (marks : List Mark) (field : Option String) : List Token :=
  marks.map Mark.token ++ (field.map Token.field).toList

/-- The tokens of a group so far, without its unfinished clause: any clause and rest can follow,
where no operator is pending behind a clause also with an operator before them, and where none is
pending the group can end. -/
structure Frame.Derived (f : Frame) (tokens : List Token) : Prop where
  next : ∀ (c : Derivation .clause) (more : Derivation .rest),
    ∃ d : Derivation .clauses, d.tokens = tokens ++ (c.tokens ++ more.tokens)
  join : f.operator = .default → f.clauses ≠ [] →
    ∀ (operator : Operator) (c : Derivation .clause) (more : Derivation .rest),
      ∃ d : Derivation .clauses, d.tokens = tokens ++ (operator.tokens ++ (c.tokens ++ more.tokens))
  close : f.operator = .default → ∃ d : Derivation .clauses, d.tokens = tokens

def Mode.Derived : Mode → List Token → Prop
  | between, tokens => tokens = []
  | marked _, tokens => ∃ marks, tokens = lead marks none
  | value field _, tokens => ∃ marks, tokens = lead marks (some field)
  | lowerBound range, tokens =>
      ∃ marks field, tokens =
        lead marks field ++ [if range.minInclusive then .leftBracket else .leftBrace]
  | rangeWord range _, tokens =>
      ∃ marks field, ∃ min : Bound, tokens =
        lead marks field ++ [if range.minInclusive then .leftBracket else .leftBrace, min.token]
  | upperBound range _, tokens =>
      ∃ marks field, ∃ min : Bound, tokens =
        lead marks field ++ [if range.minInclusive then .leftBracket else .leftBrace, min.token,
          .term "TO"]
  | rangeEnd range _ _, tokens =>
      ∃ marks field, ∃ min max : Bound, tokens =
        lead marks field ++ [if range.minInclusive then .leftBracket else .leftBrace, min.token,
          .term "TO", max.token]
  | modifiers _, tokens => ∃ c : Derivation .clause, tokens = c.tokens

/-- The tokens of the open groups around, each up to the parenthesis that opens the next one. -/
inductive Around : List Frame → List Token → Prop
  | root : Around [] []
  | group {f outer before inside marks field} (houter : Around outer before)
      (hf : f.Derived inside) :
      Around (f :: outer) (before ++ (inside ++ (lead marks field ++ [.leftParen])))

/-- The tokens that a reader has read. -/
inductive Derived (r : Reader) : List Token → Prop
  | read {before inside clause} (houter : Around r.outer before) (hgroup : r.group.Derived inside)
      (hmode : r.mode.Derived clause) : Derived r (before ++ (inside ++ clause))

namespace Frame

theorem derived_opened (a : Attributes) : (opened a).Derived [] :=
  ⟨fun c more => ⟨.first c more, rfl⟩, fun _ h => absurd rfl h, fun _ => ⟨.nothing, rfl⟩⟩

theorem Derived.push {f : Frame} {tokens : List Token} (h : f.Derived tokens)
    (c : Derivation .clause) (clause : Tree) : (f.push clause).Derived (tokens ++ c.tokens) := by
  refine ⟨fun c' more => ?_, fun _ _ operator c' more => ?_, fun _ => ?_⟩
  · obtain ⟨d, hd⟩ := h.next c (.next .default c' more)
    exact ⟨d, by rw [hd, List.append_assoc]; rfl⟩
  · obtain ⟨d, hd⟩ := h.next c (.next operator c' more)
    exact ⟨d, by rw [hd, List.append_assoc]; rfl⟩
  · obtain ⟨d, hd⟩ := h.next c .done
    exact ⟨d, by rw [hd, Derivation.tokens, List.append_nil]⟩

theorem Derived.operator {f : Frame} {tokens : List Token} (h : f.Derived tokens)
    (hoperator : f.operator = .default) (hclauses : f.clauses ≠ []) {operator : Operator}
    (hne : operator ≠ .default) :
    ({ f with operator := operator } : Frame).Derived (tokens ++ operator.tokens) := by
  refine ⟨fun c more => ?_, fun h => absurd h hne, fun h => absurd h hne⟩
  obtain ⟨d, hd⟩ := h.join hoperator hclauses operator c more
  exact ⟨d, by rw [hd, List.append_assoc]⟩

end Frame

variable {r r' : Reader} {token : Token} {tokens : List Token} {a : Attributes}

theorem derived_start : start.Derived [] :=
  .read (r := start) .root (Frame.derived_opened _) rfl

/-- A clause that is over belongs to its group. -/
theorem Derived.settled (h : r.Derived tokens) : r.settled.Derived tokens := by
  obtain ⟨houter, hgroup, hmode⟩ := h
  obtain ⟨mode, group, outer, next⟩ := r
  cases mode with
  | modifiers clause =>
      obtain ⟨c, rfl⟩ := hmode
      rw [← List.append_nil (_ ++ _), List.append_assoc]
      exact .read houter (hgroup.push c clause) rfl
  | _ => exact .read houter hgroup hmode

theorem exists_lead_of_expects (h : r.Expects a) {clause : List Token}
    (hmode : r.mode.Derived clause) : ∃ marks, clause = lead marks none := by
  rcases h with h | ⟨h, -⟩
  · rw [h] at hmode
    exact hmode
  · rw [h] at hmode
    exact ⟨[], hmode⟩

theorem exists_lead_of_awaits (h : r.Awaits a) {clause : List Token}
    (hmode : r.mode.Derived clause) : ∃ marks field, clause = lead marks field := by
  rcases h with h | ⟨field, h⟩
  · obtain ⟨marks, hclause⟩ := exists_lead_of_expects h hmode
    exact ⟨marks, none, hclause⟩
  · rw [h] at hmode
    obtain ⟨marks, hclause⟩ := hmode
    exact ⟨marks, some field, hclause⟩

theorem exists_tokens_eq_lead_append (marks : List Mark) (field : Option String)
    (v : Derivation .value) :
    ∃ c : Derivation .clause, lead marks field ++ v.tokens = c.tokens := by
  refine ⟨.clause marks field v [], ?_⟩
  simp [lead, Derivation.tokens]

theorem exists_tokens_eq_append_modifier (c : Derivation .clause) (modifier : Modifier) :
    ∃ c' : Derivation .clause, c.tokens ++ [modifier.token] = c'.tokens := by
  cases c with
  | clause marks field v modifiers =>
      refine ⟨.clause marks field v (modifiers ++ [modifier]), ?_⟩
      simp [Derivation.tokens]

theorem exists_eq_token_of_bound? {text : String} (h : bound? token = some text) :
    ∃ b : Bound, token = b.token := by
  cases token with
  | term text => exact ⟨.term text, rfl⟩
  | quoted text => exact ⟨.quoted text, rfl⟩
  | _ => simp [bound?] at h

theorem Derived.append (h : r.Derived tokens) {mode : Mode} {next : NodeId}
    (hmode : ∀ clause, r.mode.Derived clause → mode.Derived (clause ++ [token])) :
    Derived { r with mode := mode, next := next } (tokens ++ [token]) := by
  obtain ⟨houter, hgroup, hclause⟩ := h
  rw [List.append_assoc, List.append_assoc]
  exact .read houter hgroup (hmode _ hclause)

theorem Derived.value (h : r.Derived tokens) (hawaits : r.Awaits a) (b : Attributes) (l : Leaf)
    {v : Derivation .value} (hv : v.tokens = [token]) :
    (r.readLeaf b l).Derived (tokens ++ [token]) := by
  refine h.append fun clause hclause => ?_
  obtain ⟨marks, field, rfl⟩ := exists_lead_of_awaits hawaits hclause
  rw [← hv]
  exact exists_tokens_eq_lead_append marks field v

theorem Derived.mark (h : r.Derived tokens) (hexpects : r.Expects a) (mark : Mark)
    (b : Attributes) : Derived { r with mode := .marked b } (tokens ++ [mark.token]) := by
  refine h.append fun clause hclause => ?_
  obtain ⟨marks, rfl⟩ := exists_lead_of_expects hexpects hclause
  exact ⟨marks ++ [mark], by simp [lead]⟩

theorem Derived.closeRange (h : r.Derived tokens) {range : OpenRange} {min max : String}
    (hmode : r.mode = .rangeEnd range min max) (toMax : Bool) :
    (r.closeRange range min max toMax).Derived
      (tokens ++ [if toMax then .rightBracket else .rightBrace]) := by
  refine h.append fun clause hclause => ?_
  rw [hmode] at hclause
  obtain ⟨marks, field, min, max, rfl⟩ := hclause
  rw [List.append_assoc]
  exact exists_tokens_eq_lead_append marks field (.range range.minInclusive min max toMax)

theorem Derived.openRange (h : r.Derived tokens) (hawaits : r.Awaits a) (minInclusive : Bool) :
    Derived { r with mode := .lowerBound ⟨a, minInclusive⟩ }
      (tokens ++ [if minInclusive then .leftBracket else .leftBrace]) := by
  refine h.append fun clause hclause => ?_
  obtain ⟨marks, field, rfl⟩ := exists_lead_of_awaits hawaits hclause
  exact ⟨marks, field, rfl⟩

theorem Derived.modifier (h : r.Derived tokens) {clause : Tree} (hmode : r.mode = .modifiers clause)
    (modifier : Modifier) (clause' : Tree) :
    Derived { r with mode := .modifiers clause' } (tokens ++ [modifier.token]) := by
  refine h.append fun inside hinside => ?_
  rw [hmode] at hinside
  obtain ⟨c, rfl⟩ := hinside
  exact exists_tokens_eq_append_modifier c modifier

theorem Derived.operator (h : r.Derived tokens) (hmode : r.mode = .between)
    (hclauses : r.group.clauses ≠ []) (hoperator : r.group.operator = .default)
    {operator : Operator} (hne : operator ≠ .default) :
    Derived { r with group := { r.group with operator := operator } }
      (tokens ++ operator.tokens) := by
  obtain ⟨houter, hgroup, hclause⟩ := h
  rw [hmode] at hclause
  obtain rfl := hclause
  have hnext := hgroup.operator hoperator hclauses hne
  rw [List.append_nil, List.append_assoc, ← List.append_nil (_ ++ operator.tokens)]
  refine .read houter hnext ?_
  change r.mode.Derived []
  rw [hmode]
  rfl

theorem Derived.openGroup (h : r.Derived tokens) (hawaits : r.Awaits a) :
    (r.openGroup a).Derived (tokens ++ [.leftParen]) := by
  obtain ⟨houter, hgroup, hclause⟩ := h
  obtain ⟨marks, field, rfl⟩ := exists_lead_of_awaits hawaits hclause
  rw [List.append_assoc, List.append_assoc, ← List.append_nil (_ ++ (_ ++ _))]
  exact .read (r := r.openGroup a) (.group houter hgroup) (Frame.derived_opened a) rfl

theorem Derived.closeGroup (h : r.Derived tokens) (hmode : r.mode = .between)
    (hoperator : r.group.operator = .default) {around : Frame} {outer : List Frame}
    (houter : r.outer = around :: outer) (clause : Tree) (next : NodeId) :
    Derived ⟨.modifiers clause, around, outer, next⟩ (tokens ++ [.rightParen]) := by
  obtain ⟨hopen, hgroup, hclause⟩ := h
  rw [hmode] at hclause
  obtain rfl := hclause
  rw [houter] at hopen
  obtain ⟨cs, hcs⟩ := hgroup.close hoperator
  rw [← hcs]
  cases hopen with
  | @group _ _ before inside marks field hopen hinside =>
      obtain ⟨c, hc⟩ := exists_tokens_eq_lead_append marks field (.group cs)
      have htokens : before ++ (inside ++ (lead marks field ++ [.leftParen])) ++
          (cs.tokens ++ []) ++ [.rightParen] = before ++ (inside ++ c.tokens) := by
        rw [← hc]
        simp [Derivation.tokens]
      rw [htokens]
      exact .read hopen hinside ⟨c, rfl⟩

theorem Takes.derived (h : r.Takes token r') (hr : r.Derived tokens) :
    r'.Derived (tokens ++ [token]) := by
  cases h with
  | plus h => exact hr.mark h .plus _
  | minus h => exact hr.mark h .minus _
  | not h => exact hr.mark h .not _
  | field h =>
      refine hr.append fun clause hclause => ?_
      obtain ⟨marks, rfl⟩ := exists_lead_of_expects h hclause
      exact ⟨marks, by simp [lead]⟩
  | leftParen h => exact hr.openGroup h
  | @term a text h => exact hr.value h a _ (v := .term text) rfl
  | @quoted a text h => exact hr.value h a _ (v := .quoted text) rfl
  | @pattern a text h => exact hr.value h a _ (v := .pattern text) rfl
  | @fieldExists a name h => exact hr.value (.inr ⟨_, h⟩) _ _ (v := .term name) rfl
  | @fieldMissing a name h => exact hr.value (.inr ⟨_, h⟩) _ _ (v := .term name) rfl
  | leftBracket h => exact hr.openRange h true
  | leftBrace h => exact hr.openRange h false
  | lowerBound h hbound =>
      refine hr.append fun clause hclause => ?_
      rw [h] at hclause
      obtain ⟨marks, field, rfl⟩ := hclause
      obtain ⟨min, rfl⟩ := exists_eq_token_of_bound? hbound
      exact ⟨marks, field, min, by simp⟩
  | rangeWord h =>
      refine hr.append fun clause hclause => ?_
      rw [h] at hclause
      obtain ⟨marks, field, min, rfl⟩ := hclause
      exact ⟨marks, field, min, by simp⟩
  | upperBound h hbound =>
      refine hr.append fun clause hclause => ?_
      rw [h] at hclause
      obtain ⟨marks, field, min, rfl⟩ := hclause
      obtain ⟨max, rfl⟩ := exists_eq_token_of_bound? hbound
      exact ⟨marks, field, min, max, by simp⟩
  | rightBracket h => exact hr.closeRange h true
  | rightBrace h => exact hr.closeRange h false
  | boost h => exact hr.modifier h (.boost _) _
  | proximity h => exact hr.modifier h (.proximity _) _
  | and h hclauses hoperator => exact hr.operator h hclauses hoperator (by decide)
  | or h hclauses hoperator => exact hr.operator h hclauses hoperator (by decide)
  | rightParen h hoperator houter => exact hr.closeGroup h hoperator houter _ _

theorem Derived.step (hr : r.Derived tokens) (h : r.step token = .ok r') :
    r'.Derived (tokens ++ [token]) := by
  rcases takes_of_step h with h | h
  · exact h.derived hr
  · exact h.derived hr.settled

/-- Whatever has been read is the beginning of something that the grammar derives. -/
theorem Reads.derived {more : List Token} (h : Reads r more r') (hr : r.Derived tokens) :
    r'.Derived (tokens ++ more) := by
  induction more generalizing r tokens with
  | nil =>
      obtain rfl := Except.ok.inj h
      rwa [List.append_nil]
  | cons token more ih =>
      obtain ⟨middle, hstep, hrest⟩ := h.exists_step
      rw [List.append_cons]
      exact ih hrest (hr.step hstep)

/-- Where the end of the text may come no clause is unfinished and no operator is pending. -/
theorem settled_of_finish_eq_ok {t : Tree} (h : r.finish = .ok t) :
    r.settled.mode = .between ∧ r.settled.group.operator = .default := by
  have hbetween : ∀ {r : Reader}, r.finishBetween = .ok t → r.group.operator = .default := by
    intro r h
    by_contra hoperator
    simp [finishBetween, hoperator] at h
  obtain ⟨mode, group, outer, next⟩ := r
  cases mode with
  | between => exact ⟨rfl, hbetween h⟩
  | modifiers clause => exact ⟨rfl, hbetween h⟩
  | _ => simp [finish] at h

theorem Derived.exists_derivation (h : r.Derived tokens) {t : Tree} (hfinish : r.finish = .ok t) :
    ∃ d : Derivation .clauses, d.tokens = tokens := by
  obtain ⟨hmode, hoperator⟩ := settled_of_finish_eq_ok hfinish
  obtain ⟨hopen, hgroup, hclause⟩ := h.settled
  rw [hmode] at hclause
  obtain rfl := hclause
  rw [(of_finish_eq_ok hfinish).1] at hopen
  cases hopen
  obtain ⟨d, hd⟩ := hgroup.close hoperator
  exact ⟨d, by simp [hd]⟩

end Reader

namespace Tree

open Grammar

variable {text : String} {t : Tree}

theorem fault?_of_parse (h : Tree.parse text = .ok t) : (Lexing.ofString text).fault? = none := by
  cases hfault : (Lexing.ofString text).fault? with
  | none => rfl
  | some fault =>
      rw [Tree.parse, Lexing.query] at h
      cases hsteps : Reader.start.steps (Lexing.ofString text).lexemes <;>
        simp [hsteps, bind, Except.bind, Lexing.error?, hfault] at h

theorem exists_derivation_of_parse (h : Tree.parse text = .ok t) :
    ∃ d : Derivation .clauses, d.tokens = (Lexing.ofString text).lexemes.map (·.token) := by
  obtain ⟨r, hreads, hfinish⟩ := exists_finish_of_parse h
  exact (hreads.derived Reader.derived_start).exists_derivation hfinish

theorem exists_parse_of_derivation (hfault : (Lexing.ofString text).fault? = none)
    (d : Derivation .clauses) (hd : d.tokens = (Lexing.ofString text).lexemes.map (·.token)) :
    ∃ t, Tree.parse text = .ok t ∧ t.pieces = d.pieces ∧ Lists 0 d t := by
  obtain ⟨clauses, next, r, hreads, hsettled, hle, hgathers⟩ :=
    d.derives .start rfl rfl rfl Nat.zero_lt_one
  have hfinish : r.finish = .ok (ofClauses 0 .plain false clauses.reverse.reverse next).1 := by
    rw [← r.finish_settled, hsettled]
    rfl
  rw [List.reverse_reverse] at hfinish
  refine ⟨_, parse_of_fault? hfault (hd ▸ hreads) hfinish, ?_, ?_⟩
  · rw [pieces_ofClauses hgathers.isPrimary, hgathers.pieces_eq]
    simp [Attributes.openingPieces, Attributes.fieldPieces, Attributes.closingPieces,
      Attributes.plain, Attributes.fieldName?, Negation.isNegated]
  · exact lists_ofClauses hgathers.describes hgathers.operators_eq hgathers.isPrimary
      (Nat.lt_of_lt_of_le Nat.zero_lt_one hle) 0 .plain false

end Tree

namespace Store

open Grammar

theorem exists_eq_ofTree_of_parse {text : String} {s : Store} (h : Store.parse text = .ok s) :
    ∃ t, Tree.parse text = .ok t ∧ s = ofTree t := by
  rw [Store.parse] at h
  cases ht : Tree.parse text with
  | error fault =>
      rw [ht] at h
      cases h
  | ok t =>
      rw [ht] at h
      exact ⟨t, rfl, (Except.ok.inj h).symm⟩

/-- A query that was read holds the tree that was read, with its root at the first place. -/
theorem isQuery_of_parse {text : String} {t : Tree} (h : Tree.parse text = .ok t) :
    (ofTree t).IsQuery ∧ (ofTree t).tree = t ∧ (ofTree t).root = 0 := by
  obtain ⟨-, hnodup⟩ := Tree.nodup_ids_of_parse h
  obtain ⟨operator, l, r, rfl⟩ := Tree.exists_eq_group_of_parse h
  exact ⟨⟨wellFormed_ofTree rfl hnodup, isGroup_ofTree hnodup⟩, tree_ofTree rfl hnodup,
    root_ofTree rfl⟩

/-- A text is parsed just if its tokens are derived by the grammar. The root then lists what the
derivation describes, and what is a group of the tree is a sequence of the store. -/
theorem parse_iff_derives (text : String) :
    ((∃ s, Store.parse text = .ok s) ↔ (Lexing.ofString text).fault? = none ∧
      ∃ d : Derivation .clauses, d.tokens = (Lexing.ofString text).lexemes.map (·.token)) ∧
    ∀ s, Store.parse text = .ok s → ∀ d : Derivation .clauses,
      d.tokens = (Lexing.ofString text).lexemes.map (·.token) →
      Lists s.root d s.tree ∧ ∀ id ∈ s.tree.ids,
        s.sequence id = ((s.tree.find id).clauses s.root).filterMap Tree.id? := by
  refine ⟨⟨?_, ?_⟩, ?_⟩
  · rintro ⟨s, hs⟩
    obtain ⟨t, ht, -⟩ := exists_eq_ofTree_of_parse hs
    exact ⟨Tree.fault?_of_parse ht, Tree.exists_derivation_of_parse ht⟩
  · rintro ⟨hfault, d, hd⟩
    obtain ⟨t, ht, -⟩ := Tree.exists_parse_of_derivation hfault d hd
    exact ⟨ofTree t, by rw [Store.parse, ht]; rfl⟩
  · intro s hs d hd
    obtain ⟨t, ht, rfl⟩ := exists_eq_ofTree_of_parse hs
    obtain ⟨t', ht', -, hlists⟩ := Tree.exists_parse_of_derivation (Tree.fault?_of_parse ht) d hd
    obtain rfl := Except.ok.inj (ht.symm.trans ht')
    obtain ⟨hquery, htree, hroot⟩ := isQuery_of_parse ht
    refine ⟨?_, fun id hid => ?_⟩
    · rw [htree, hroot]
      exact hlists
    · rw [sequence, hquery.view_eq_find hid]

/-- Two clauses with marks and modifiers, the second one a group on a field. -/
theorem lists_of_marked_pair :
    let inner : Derivation .clauses :=
      .first (.clause [] none (.range true (.term "1") (.quoted "2") false) [])
        (.next .default (.clause [] none (.term "b") [])
          (.next .and (.clause [.not] none (.quoted "c") []) .done))
    let d : Derivation .clauses :=
      .first (.clause [.plus, .not, .minus, .not] none (.term "a") [.boost "1", .boost "2"])
        (.next .or (.clause [] (some "f") (.group inner) [.proximity "3"]) .done)
    ∃ s, Store.parse "+NOT -NOT a^1^2 OR f:([1 TO \"2\"\x7d b AND NOT \"c\")~3" = .ok s ∧
      Lists s.root d s.tree := by
  intro inner d
  obtain ⟨haccepts, hlists⟩ :=
    parse_iff_derives "+NOT -NOT a^1^2 OR f:([1 TO \"2\"\x7d b AND NOT \"c\")~3"
  have hd : d.tokens = (Lexing.ofString
      "+NOT -NOT a^1^2 OR f:([1 TO \"2\"\x7d b AND NOT \"c\")~3").lexemes.map (·.token) := by
    decide +kernel
  obtain ⟨s, hs⟩ := haccepts.2 ⟨by decide +kernel, d, hd⟩
  exact ⟨s, hs, (hlists s hs d hd).1⟩

end Store

end SearchQuery
