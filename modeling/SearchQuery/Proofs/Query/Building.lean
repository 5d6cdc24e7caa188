import SearchQuery.Proofs.Query.Echo
import SearchQuery.Proofs.Query.Steps

/-!
# Building a tree from its tokens

The reader of tokens builds from the tokens of a tree what is heard of the tree, but for the
numbers, `Tree.Spells.builds`. From the tokens of a body it makes a whole query,
`Tree.Spells.exists_parse_body`.
-/

namespace SearchQuery

namespace Tree

theorem withAttrs_attrs (t : Tree) : t.withAttrs t.attrs = t := by
  cases t <;> rfl

theorem withAttrs_withAttrs (t : Tree) (f : Attributes → Attributes) (g : Attributes → Attributes) :
    (t.withAttrs (f t.attrs)).withAttrs (g (t.withAttrs (f t.attrs)).attrs) =
      t.withAttrs (g (f t.attrs)) := by
  cases t <;> rfl

end Tree

namespace Reader

def Begins (tokens : List Token) : Prop :=
  ∃ token rest, tokens = token :: rest ∧ token.isModifier = false

theorem Begins.append {tokens : List Token} (h : Begins tokens) (tokens' : List Token) :
    Begins (tokens ++ tokens') := by
  obtain ⟨token, rest, rfl, htoken⟩ := h
  exact ⟨token, rest ++ tokens', rfl, htoken⟩

theorem reads_of_settled {r r' : Reader} {tokens : List Token} (htokens : Begins tokens)
    (h : Reads r.settled tokens r') : Reads r tokens r' := by
  obtain ⟨token, rest, rfl, htoken⟩ := htokens
  obtain ⟨next, hstep, hrest⟩ := h.exists_step
  exact .cons ((r.step_settled htoken).symm.trans hstep) hrest

variable {r next : Reader} {a m : Attributes} {token : Token} {tokens : List Token}

theorem step_of_expects (h : r.Expects m) (htoken : token ∉ [.rightParen, .and, .or]) :
    r.step token = r.readClause m token := by
  obtain ⟨mode, group, outer, number⟩ := r
  rcases h with hmode | ⟨hmode, rfl⟩
  · obtain rfl : mode = .marked m := hmode
    rfl
  · obtain rfl : mode = .between := hmode
    cases token <;> first | rfl | simp at htoken

def opened (m a : Attributes) : Attributes :=
  { m with sign := a.sign.or m.sign, negation := m.negation.merge a.negation.heard }

/-- What is known of a clause when the modifiers of a node have been read. -/
def closed (m a : Attributes) : Attributes :=
  { m with proximity := a.proximity.or m.proximity, boost := a.boost.or m.boost }

theorem reads_opening (h : r.Expects m) (a : Attributes) :
    ∃ mode, Reads r a.openingTokens { r with mode := mode } ∧
      ({ r with mode := mode } : Reader).Expects (opened m a) := by
  have hsign : ∃ mode, Reads r (a.sign.map Sign.token).toList { r with mode := mode } ∧
      ({ r with mode := mode } : Reader).Expects { m with sign := a.sign.or m.sign } := by
    cases a.sign with
    | none => exact ⟨r.mode, .nil r, h⟩
    | some sign =>
        cases sign with
        | must => exact ⟨_, .one (step_of_expects h (by simp [Sign.token])), .inl rfl⟩
        | mustNot => exact ⟨_, .one (step_of_expects h (by simp [Sign.token])), .inl rfl⟩
  obtain ⟨mode, hreads, hexpects⟩ := hsign
  rw [Attributes.openingTokens]
  by_cases hnegated : a.negation.isNegated = true
  · rw [if_pos hnegated]
    have hheard : a.negation.heard = .negated := by
      cases hnegation : a.negation <;> simp [hnegation, Negation.isNegated] at hnegated
      rfl
    rw [opened, hheard]
    exact ⟨_, hreads.append (.one (step_of_expects hexpects (by decide))), .inl rfl⟩
  · rw [if_neg hnegated, opened, Negation.heard_of_not_isNegated (by simpa using hnegated),
      Negation.merge_unspecified]
    exact ⟨mode, hreads.append (.nil _), hexpects⟩

theorem reads_value (h : r.Expects m) (hm : m.field = none)
    (htoken : token ∉ [.rightParen, .and, .or])
    (hclause : ∀ (r : Reader) attrs, r.readClause attrs token = r.readValue .between attrs token)
    (hfield : ∀ (r : Reader) field attrs, a.field = some field →
      r.readFieldValue field attrs token = r.readValue (.value field attrs) attrs token)
    (hvalue : ∀ mode wording, ({ r with mode := mode } : Reader).readValue wording
      { m with field := a.field } token = .ok next) : Reads r (a.fieldTokens ++ [token]) next := by
  rw [Attributes.fieldTokens]
  cases hname : a.field with
  | none =>
      refine .one ((step_of_expects h htoken).trans ((hclause r m).trans ?_))
      have hvalue := hvalue r.mode .between
      rw [hname, ← hm] at hvalue
      exact hvalue
  | some name =>
      rw [hname] at hvalue
      refine .cons (step_of_expects h (by simp)) (.one ?_)
      exact (hfield _ name _ hname).trans (hvalue _ _)

theorem reads_leaf {l : Leaf} (hl : l.Spells a tokens) (h : r.Expects m) (hm : m.field = none) :
    Reads r tokens (r.readLeaf { m with field := a.field } l) := by
  cases hl with
  | bare ha hexists hmissing _ =>
      refine reads_value h hm (by simp) (fun _ _ => rfl) (fun r field attrs hfield => ?_)
        (fun _ _ => rfl)
      rw [readFieldValue, if_neg, if_neg]
      · rintro rfl
        exact hmissing hfield
      · rintro rfl
        exact hexists hfield
  | quoted => exact reads_value h hm (by simp) (fun _ _ => rfl) (fun _ _ _ _ => rfl) (fun _ _ => rfl)
  | pattern => exact reads_value h hm (by simp) (fun _ _ => rfl) (fun _ _ _ _ => rfl) (fun _ _ => rfl)
  | @range min max fromMin toMax =>
      have hopen : Reads r (a.fieldTokens ++ [if fromMin then .leftBracket else .leftBrace])
          { r with mode := .lowerBound ⟨{ m with field := a.field }, fromMin⟩ } := by
        cases fromMin <;>
          exact reads_value h hm (by simp) (fun _ _ => rfl) (fun _ _ _ _ => rfl) (fun _ _ => rfl)
      have hbounds : ({ r with mode := .lowerBound ⟨{ m with field := a.field }, fromMin⟩ } :
          Reader).Reads
          [.term min, .term "TO", .term max, if toMax then .rightBracket else .rightBrace]
          (r.readLeaf { m with field := a.field }
            (.range ⟨some min, some max, some fromMin, some toMax⟩)) := by
        cases toMax <;> exact .cons rfl (.cons rfl (.cons rfl (.one rfl)))
      have hreads := hopen.append hbounds
      rwa [List.append_assoc] at hreads
  | fieldExists ha =>
      refine .cons (step_of_expects h (by simp)) (.one ?_)
      rw [ha]
      rfl
  | fieldMissing ha =>
      refine .cons (step_of_expects h (by simp)) (.one ?_)
      rw [ha]
      rfl

theorem reads_closing {clause : Tree} (h : r.mode = .modifiers clause) (a : Attributes) :
    Reads r a.closingTokens
      { r with mode := .modifiers (clause.withAttrs (closed clause.attrs a)) } := by
  obtain ⟨mode, group, outer, number⟩ := r
  obtain rfl : mode = .modifiers clause := h
  have hproximity : Reads ⟨.modifiers clause, group, outer, number⟩
      (a.proximity.map Token.proximity).toList
      ⟨.modifiers (clause.withAttrs
        { clause.attrs with proximity := a.proximity.or clause.attrs.proximity }),
        group, outer, number⟩ := by
    cases a.proximity with
    | none =>
        rw [Option.none_or, clause.withAttrs_attrs]
        exact .nil _
    | some value => exact .one rfl
  have hboost : ∀ clause : Tree, Reads ⟨.modifiers clause, group, outer, number⟩
      (a.boost.map Token.boost).toList
      ⟨.modifiers (clause.withAttrs { clause.attrs with boost := a.boost.or clause.attrs.boost }),
        group, outer, number⟩ := by
    intro clause
    cases a.boost with
    | none =>
        rw [Option.none_or, clause.withAttrs_attrs]
        exact .nil _
    | some value => exact .one rfl
  have hreads := hproximity.append (hboost _)
  rwa [Tree.withAttrs_withAttrs clause
    (fun b => { b with proximity := a.proximity.or b.proximity })
    (fun b => { b with boost := a.boost.or b.boost })] at hreads

theorem reads_operator (h : r.mode = .between) (hclauses : r.group.clauses ≠ [])
    (hoperator : r.group.operator = .default) (operator : Operator) :
    Reads r operator.tokens { r with group := { r.group with operator := operator } } := by
  obtain ⟨mode, ⟨attrs, clauses, before⟩, outer, next⟩ := r
  obtain rfl : mode = .between := h
  obtain rfl : before = .default := hoperator
  have hstep : ¬ (clauses = [] ∨ Operator.default ≠ .default) := by simpa using hclauses
  cases operator with
  | default => exact .nil _
  | and => exact .one (if_neg hstep)
  | or => exact .one (if_neg hstep)

/-- What the reader does with the tokens of a tree. From those of a clause it builds what is heard
of the clause; from those of the rest of a sequence, behind the operator before it, clauses which
with the first one are held together as the rest says; and from those of a body the clauses of the
body. -/
def Builds : Tree.Part → Tree → List Token → Prop
  | .clause, t, tokens =>
      Begins tokens ∧ ∀ r : Reader, r.mode = .between →
        ∃ clause next, Reads r tokens { r with mode := .modifiers clause, next := next } ∧
          clause.unnumbered = t.echo.unnumbered
  | .rest, t, tokens =>
      ∀ (r : Reader) operator, r.settled.mode = .between → r.settled.group.clauses ≠ [] →
        r.settled.group.operator = .default →
        ∃ clauses next r', clauses ≠ [] ∧ Reads r (operator.tokens ++ tokens) r' ∧
          r'.settled = { r.settled with
            group := { r.settled.group with
              clauses := clauses.reverse ++ r.settled.group.clauses }, next := next } ∧
          ∀ before first number, ∃ right,
            (Tree.chain ((before, first) :: clauses) number).1 = (operator, first, right) ∧
              right.unnumbered = t.echo.unnumbered
  | .body, .group _ _ g left right, tokens =>
      ∀ r : Reader, r.mode = .between → r.group.clauses = [] → r.group.operator = .default →
        ∃ clauses next r', Reads r tokens r' ∧
          r'.settled = { r with
            group := { r.group with clauses := clauses.reverse }, next := next } ∧
          ∀ number, ∃ left' right',
            (Tree.chain clauses number).1 =
                (if right.isNil then .default else g.operator, left', right') ∧
              left'.unnumbered = left.echo.unnumbered ∧ right'.unnumbered = right.echo.unnumbered
  | .body, _, _ => True

theorem Begins.opening {tokens : List Token} (h : Begins tokens) (a : Attributes) :
    Begins (a.openingTokens ++ tokens) := by
  rw [Attributes.openingTokens, List.append_assoc]
  rcases a.sign with - | - | -
  · split
    · exact ⟨.not, _, rfl, rfl⟩
    · exact h
  · exact ⟨.plus, _, rfl, rfl⟩
  · exact ⟨.minus, _, rfl, rfl⟩

theorem Begins.field {token : Token} (h : token.isModifier = false) (a : Attributes)
    (tokens : List Token) : Begins (a.fieldTokens ++ token :: tokens) := by
  rw [Attributes.fieldTokens]
  cases a.field with
  | none => exact ⟨token, tokens, rfl, h⟩
  | some field => exact ⟨.field field, _, rfl, rfl⟩

theorem begins_of_spells {l : Leaf} (h : l.Spells a tokens) : Begins tokens := by
  cases h with
  | bare | quoted | pattern => exact .field rfl a []
  | @range _ _ fromMin _ _ _ _ => exact .field (by cases fromMin <;> rfl) a _
  | fieldExists | fieldMissing => exact ⟨_, _, rfl, rfl⟩

def announced (a : Attributes) : Attributes :=
  { opened .plain a with field := a.field }

theorem closed_announced (a : Attributes) : closed (announced a) a = a.heard := by
  simp [closed, announced, opened, Attributes.heard, Attributes.plain]

theorem builds_leaf {id : NodeId} {l : Leaf} (h : l.Spells a tokens) :
    Builds .clause (.leaf id a l) (a.openingTokens ++ (tokens ++ a.closingTokens)) := by
  refine ⟨((begins_of_spells h).append _).opening a, fun r hr => ?_⟩
  obtain ⟨mode, hopening, hexpects⟩ := reads_opening (.inr ⟨hr, rfl⟩) a
  have hleaf := reads_leaf h hexpects rfl
  have hclosing := reads_closing (r := readLeaf { r with mode := mode } (announced a) l) rfl a
  refine ⟨_, _, hopening.append (hleaf.append hclosing), ?_⟩
  rw [Tree.attrs, closed_announced]
  rfl

/-- What is known of a leaf when all of it and of a group right around it has been read. -/
theorem closed_closed_opened_opened {b : Attributes} (a : Attributes) :
    closed (closed { opened (opened .plain a) b with field := b.field } b) a = a.around b.heard := by
  simp [closed, opened, Attributes.heard, Attributes.around, Attributes.plain]

theorem builds_marked {id leafId : NodeId} {g : Group} {b : Attributes} {l : Leaf}
    (hparens : g.parens = false) (h : l.Spells b tokens) :
    Builds .clause (.group id a g (.leaf leafId b l) .nil)
      (a.openingTokens ++ (b.openingTokens ++ (tokens ++ (b.closingTokens ++ a.closingTokens)))) := by
  refine ⟨(((begins_of_spells h).append _).opening b).opening a, fun r hr => ?_⟩
  obtain ⟨mode, hopening, hexpects⟩ := reads_opening (.inr ⟨hr, rfl⟩) a
  obtain ⟨mode', hopening', hexpects⟩ := reads_opening hexpects b
  have hleaf := reads_leaf h hexpects rfl
  have hclosing := reads_closing (r := readLeaf { r with mode := mode' }
    { opened (opened .plain a) b with field := b.field } l) rfl b
  have hreads := hopening.append (hopening'.append (hleaf.append
    (hclosing.append (reads_closing rfl a))))
  refine ⟨_, _, hreads, ?_⟩
  rw [Tree.echo_of_marked hparens, Tree.echo_leaf]
  simp only [Tree.withAttrs, Tree.attrs, closed_closed_opened_opened]
  rfl

theorem builds_silent {id : NodeId} {g : Group} {left : Tree} (hparens : g.parens = false)
    (ha : a.Silent) (h : Builds .clause left tokens) :
    Builds .clause (.group id a g left .nil) tokens := by
  rw [Builds, Tree.echo_of_silent ha hparens]
  exact h

theorem step_rightParen {around : Frame} {outer : List Frame} (hmode : r.settled.mode = .between)
    (hoperator : r.settled.group.operator = .default) (houter : r.settled.outer = around :: outer) :
    r.step .rightParen =
      let group := Tree.ofClauses r.settled.next r.settled.group.attrs true
        r.settled.group.clauses.reverse (r.settled.next + 1)
      .ok ⟨.modifiers group.1, around, outer, group.2⟩ := by
  rw [← r.step_settled rfl]
  generalize r.settled = r at hmode hoperator houter ⊢
  obtain ⟨mode, ⟨attrs, clauses, before⟩, outer', next⟩ := r
  obtain rfl : mode = .between := hmode
  obtain rfl : before = .default := hoperator
  obtain rfl : outer' = around :: outer := houter
  rfl

theorem builds_group {id : NodeId} {g : Group} {left right : Tree} (hparens : g.parens = true)
    (h : Builds .body (.group id a g left right) tokens) :
    Builds .clause (.group id a g left right)
      (a.openingTokens ++ (a.fieldTokens ++ (.leftParen :: tokens ++
        (.rightParen :: a.closingTokens)))) := by
  refine ⟨(Begins.field rfl a _).opening a, fun r hr => ?_⟩
  obtain ⟨mode, hopening, hexpects⟩ := reads_opening (.inr ⟨hr, rfl⟩) a
  have hopen : ({ r with mode := mode } : Reader).Reads (a.fieldTokens ++ [.leftParen])
      (r.openGroup (announced a)) :=
    reads_value hexpects rfl (by simp) (fun _ _ => rfl) (fun _ _ _ _ => rfl) (fun _ _ => rfl)
  obtain ⟨clauses, next, r', hbody, hsettled, hchain⟩ := h (r.openGroup (announced a)) rfl rfl rfl
  obtain ⟨left', right', hchain, hleft, hright⟩ := hchain (next + 1)
  have hclose : r'.step .rightParen = .ok ⟨.modifiers (.group next (announced a)
      ⟨if right.isNil then .default else g.operator, true⟩ left' right'), r.group, r.outer,
      (Tree.chain clauses (next + 1)).2⟩ := by
    rw [step_rightParen (by rw [hsettled]; rfl) (by rw [hsettled]; rfl) (by rw [hsettled]; rfl),
      hsettled]
    simp only [Tree.ofClauses, List.reverse_reverse, hchain]
    rfl
  have hclosing := reads_closing (r := ⟨.modifiers (.group next (announced a)
      ⟨if right.isNil then .default else g.operator, true⟩ left' right'), r.group, r.outer,
      (Tree.chain clauses (next + 1)).2⟩) rfl a
  have hreads := hopening.append (hopen.append (hbody.append (.cons hclose hclosing)))
  simp only [List.append_assoc, List.cons_append, List.nil_append] at hreads
  refine ⟨_, _, hreads, ?_⟩
  simp only [Tree.attrs, closed_announced, Tree.withAttrs, Tree.echo_of_parens hparens,
    Tree.unnumbered, hleft, hright]

theorem reads_next (hmode : r.settled.mode = .between) (hclauses : r.settled.group.clauses ≠ [])
    (hoperator : r.settled.group.operator = .default) (operator : Operator) (htokens : Begins tokens)
    {clause : Tree} {number : NodeId}
    (h : Reads { r.settled with group := { r.settled.group with operator := operator } } tokens
      ⟨.modifiers clause, { r.settled.group with operator := operator }, r.settled.outer, number⟩) :
    ∃ r', Reads r (operator.tokens ++ tokens) r' ∧
      r'.settled = { r.settled with
        group := { r.settled.group with
          clauses := (operator, clause) :: r.settled.group.clauses }, next := number } := by
  have hbegins : Begins (operator.tokens ++ tokens) := by
    cases operator with
    | default => exact htokens
    | and => exact ⟨.and, _, rfl, rfl⟩
    | or => exact ⟨.or, _, rfl, rfl⟩
  have hreads := (reads_operator hmode hclauses hoperator operator).append h
  refine ⟨_, reads_of_settled hbegins hreads, ?_⟩
  rw [settled]
  dsimp only [endClause, Frame.push]
  rw [hmode, hoperator]

theorem exists_reads_next {t : Tree} (h : Builds .clause t tokens) (hmode : r.settled.mode = .between)
    (hclauses : r.settled.group.clauses ≠ []) (hoperator : r.settled.group.operator = .default)
    (operator : Operator) :
    ∃ clause next r', Reads r (operator.tokens ++ tokens) r' ∧
      r'.settled = { r.settled with
        group := { r.settled.group with
          clauses := (operator, clause) :: r.settled.group.clauses }, next := next } ∧
      clause.unnumbered = t.echo.unnumbered := by
  obtain ⟨hbegins, hclause⟩ := h
  obtain ⟨clause, next, hreads, hunnumbered⟩ :=
    hclause { r.settled with group := { r.settled.group with operator := operator } } hmode
  obtain ⟨r', hreads', hsettled⟩ := reads_next hmode hclauses hoperator operator hbegins hreads
  exact ⟨clause, next, r', hreads', hsettled, hunnumbered⟩

theorem builds_last {t : Tree} (h : Builds .clause t tokens) : Builds .rest t tokens := by
  intro r operator hmode hclauses hoperator
  obtain ⟨clause, next, r', hreads, hsettled, hunnumbered⟩ :=
    exists_reads_next h hmode hclauses hoperator operator
  exact ⟨[(operator, clause)], next, r', by simp, hreads, hsettled, fun before first number =>
    ⟨clause, rfl, hunnumbered⟩⟩

theorem builds_link {id : NodeId} {g : Group} {left right : Tree} {tokens' : List Token}
    (hparens : g.parens = false) (hnil : right.isNil = false)
    (hleft : Builds .clause left tokens) (hright : Builds .rest right tokens') :
    Builds .rest (.group id a g left right) (tokens ++ (g.operator.tokens ++ tokens')) := by
  intro r before hmode hclauses hoperator
  obtain ⟨clause, next, r', hreads, hsettled, hunnumbered⟩ :=
    exists_reads_next hleft hmode hclauses hoperator before
  obtain ⟨clauses, next', r'', hsome, hreads', hsettled', hchain⟩ := hright r' g.operator
    (by rw [hsettled]; exact hmode) (by rw [hsettled]; simp) (by rw [hsettled]; exact hoperator)
  refine ⟨(before, clause) :: clauses, next', r'', by simp, ?_, ?_, fun around first number => ?_⟩
  · have hboth := hreads.append hreads'
    simpa only [List.append_assoc] using hboth
  · rw [hsettled', hsettled]
    simp
  · obtain ⟨second, others, rfl⟩ := List.exists_cons_of_ne_nil hsome
    obtain ⟨rest, hrest, hrest'⟩ := hchain before clause (number + 1)
    refine ⟨.group number .plain ⟨g.operator, false⟩ clause rest, ?_, ?_⟩
    · simp only [Tree.chain, hrest]
    · simp only [Tree.echo_of_link hparens hnil, Tree.unnumbered, hunnumbered, hrest']

theorem builds_pair {id : NodeId} {g : Group} {left right : Tree} {tokens' : List Token}
    (hnil : right.isNil = false) (hleft : Builds .clause left tokens)
    (hright : Builds .rest right tokens') :
    Builds .body (.group id a g left right) (tokens ++ (g.operator.tokens ++ tokens')) := by
  intro r hmode hclauses hoperator
  obtain ⟨clause, next, hreads, hunnumbered⟩ := hleft.2 r hmode
  have hsettled : ({ r with mode := .modifiers clause, next := next } : Reader).settled =
      { r with group := { r.group with clauses := [(.default, clause)] }, next := next } := by
    dsimp only [settled, endClause, Frame.push]
    rw [hclauses, hoperator, hmode]
  obtain ⟨clauses, next', r', hsome, hreads', hsettled', hchain⟩ := hright
    { r with mode := .modifiers clause, next := next } g.operator
    (by rw [hsettled]; exact hmode) (by rw [hsettled]; simp) (by rw [hsettled]; exact hoperator)
  refine ⟨(.default, clause) :: clauses, next', r', hreads.append hreads', ?_, fun number => ?_⟩
  · rw [hsettled', hsettled]
    simp
  · obtain ⟨rest, hrest, hrest'⟩ := hchain .default clause number
    exact ⟨clause, rest, by rw [hnil]; exact hrest, hunnumbered, hrest'⟩

theorem builds_single {id : NodeId} {g : Group} {left : Tree} (hleft : Builds .clause left tokens) :
    Builds .body (.group id a g left .nil) tokens := by
  intro r hmode hclauses hoperator
  obtain ⟨clause, next, hreads, hunnumbered⟩ := hleft.2 r hmode
  refine ⟨[(.default, clause)], next, _, hreads, ?_, fun _ => ⟨clause, .nil, rfl, hunnumbered, rfl⟩⟩
  dsimp only [settled, endClause, Frame.push]
  rw [hclauses, hoperator, hmode]
  rfl

theorem builds_empty {id : NodeId} {g : Group} : Builds .body (.group id a g .nil .nil) [] := by
  intro r hmode hclauses hoperator
  refine ⟨[], r.next, r, .nil r, ?_, fun _ => ⟨.nil, .nil, rfl, rfl, rfl⟩⟩
  rw [settled_of_between hmode, List.reverse_nil, ← hclauses]

end Reader

theorem Tree.parse_of_fault? {text : String} {r : Reader} {t : Tree}
    (hfault : (Lexing.ofString text).fault? = none)
    (hreads : Reader.start.Reads ((Lexing.ofString text).lexemes.map (·.token)) r)
    (hfinish : r.finish = .ok t) : Tree.parse text = .ok t := by
  rw [Tree.parse, Lexing.query, Reader.Reads.steps_iff.2 hreads]
  simp only [bind, Except.bind, Lexing.error?, hfault, Option.map_none, hfinish]

theorem Tree.parse_of_reads {text : String} {tokens : List Token} {r : Reader} {t : Tree}
    (htext : Lexes text.toList tokens) (hreads : Reader.start.Reads tokens r)
    (hfinish : r.finish = .ok t) : Tree.parse text = .ok t := by
  obtain ⟨hfault, htokens⟩ := htext 0
  exact parse_of_fault? hfault (htokens.symm ▸ hreads) hfinish

namespace Tree.Spells

variable {part : Part} {t : Tree} {tokens : List Token}

theorem builds (h : Spells part t tokens) : Reader.Builds part t tokens := by
  induction h with
  | leaf _ h => exact Reader.builds_leaf h
  | group hparens _ _ _ ih => exact Reader.builds_group hparens ih
  | marked hparens _ _ _ h => exact Reader.builds_marked hparens h
  | silent hparens ha _ ih => exact Reader.builds_silent hparens ha ih
  | last _ ih => exact Reader.builds_last ih
  | link hparens _ _ hr ihl ihr =>
      exact Reader.builds_link hparens (hr.isNil_eq_false (by decide)) ihl ihr
  | empty => exact Reader.builds_empty
  | single _ ih => exact Reader.builds_single ih
  | pair _ hr ihl ihr => exact Reader.builds_pair (hr.isNil_eq_false (by decide)) ihl ihr

theorem exists_parse_body {id : NodeId} {a : Attributes} {g : Group} {l r : Tree} {text : String}
    (h : Spells .body (.group id a g l r) tokens) (htext : Lexes text.toList tokens) :
    ∃ t, Tree.parse text = .ok t ∧ t.unnumbered =
      .group 0 .plain ⟨if r.isNil then .default else g.operator, false⟩ l.echo.unnumbered
        r.echo.unnumbered := by
  obtain ⟨clauses, next, reader, hreads, hsettled, hchain⟩ := h.builds .start rfl rfl rfl
  obtain ⟨left, right, hchain, hleft, hright⟩ := hchain next
  have hfinish : reader.finish =
      .ok (.group 0 .plain ⟨if r.isNil then .default else g.operator, false⟩ left right) := by
    rw [← reader.finish_settled, hsettled]
    have hclauses : (Tree.ofClauses 0 .plain false clauses.reverse.reverse next).1 =
        .group 0 .plain ⟨if r.isNil then .default else g.operator, false⟩ left right := by
      simp only [List.reverse_reverse, Tree.ofClauses, hchain]
    exact congrArg Except.ok hclauses
  refine ⟨Tree.group 0 .plain ⟨if r.isNil then .default else g.operator, false⟩ left right,
    parse_of_reads htext hreads hfinish, ?_⟩
  rw [unnumbered, hleft, hright]

end Tree.Spells

end SearchQuery
