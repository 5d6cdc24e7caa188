import SearchQuery.Query.Reader

/-!
# The steps of the reader

`Reader.Takes` lists what a reader can do with a token, and `Reader.takes_of_step` says that it
does nothing else, so that what a step keeps is a matter of one case for each way to go on. A
clause is over only when the next token is no modifier; what has been read is therefore told by
`Reader.settled`, the reader with its last clause put into the group. `Reader.Reads` says that the
reader gets through some tokens without a fault.
-/

namespace SearchQuery

def Token.isModifier : Token → Bool
  | boost _ => true
  | proximity _ => true
  | _ => false

namespace Reader

def settled (r : Reader) : Reader :=
  match r.mode with
  | .modifiers clause => r.endClause clause
  | _ => r

theorem settled_of_between {r : Reader} (h : r.mode = .between) : r.settled = r := by
  rw [settled, h]

theorem step_settled (r : Reader) {token : Token} (h : token.isModifier = false) :
    r.settled.step token = r.step token := by
  obtain ⟨mode, group, outer, next⟩ := r
  cases mode with
  | modifiers clause => cases token <;> first | rfl | simp [Token.isModifier] at h
  | _ => rfl

theorem finish_settled (r : Reader) : r.settled.finish = r.finish := by
  obtain ⟨mode, group, outer, next⟩ := r
  cases mode <;> rfl

def Expects (r : Reader) (a : Attributes) : Prop :=
  r.mode = .marked a ∨ r.mode = .between ∧ a = .plain

def Awaits (r : Reader) (a : Attributes) : Prop :=
  r.Expects a ∨ ∃ field, r.mode = .value field a

/-- Whether a bare term would name the field that a question is about. -/
def Asks (r : Reader) : Prop :=
  ∃ a, r.mode = .value "_exists_" a ∨ r.mode = .value "_missing_" a

/-- What a reader can do with a token. -/
inductive Takes (r : Reader) : Token → Reader → Prop
  | plus {a} (h : r.Expects a) :
      Takes r .plus { r with mode := .marked { a with sign := some .must } }
  | minus {a} (h : r.Expects a) :
      Takes r .minus { r with mode := .marked { a with sign := some .mustNot } }
  | not {a} (h : r.Expects a) :
      Takes r .not { r with mode := .marked { a with negation := a.negation.merge .negated } }
  | field {a name} (h : r.Expects a) :
      Takes r (.field name) { r with mode := .value name { a with field := some name } }
  | leftParen {a} (h : r.Awaits a) : Takes r .leftParen (r.openGroup a)
  | term {a text} (h : r.Awaits a) (hasks : ¬ r.Asks) :
      Takes r (.term text) (r.readLeaf a (.ofBare text))
  | quoted {a text} (h : r.Awaits a) :
      Takes r (.quoted text) (r.readLeaf a (.term ⟨text, .quoted⟩))
  | pattern {a text} (h : r.Awaits a) :
      Takes r (.pattern text) (r.readLeaf a (.term ⟨text, .pattern⟩))
  | fieldExists {a name} (h : r.mode = .value "_exists_" a) :
      Takes r (.term name) (r.readLeaf { a with field := some name } .fieldExists)
  | fieldMissing {a name} (h : r.mode = .value "_missing_" a) :
      Takes r (.term name) (r.readLeaf { a with field := some name } .fieldMissing)
  | leftBracket {a} (h : r.Awaits a) :
      Takes r .leftBracket { r with mode := .lowerBound ⟨a, true⟩ }
  | leftBrace {a} (h : r.Awaits a) :
      Takes r .leftBrace { r with mode := .lowerBound ⟨a, false⟩ }
  | lowerBound {range token min} (h : r.mode = .lowerBound range) (hbound : bound? token = some min) :
      Takes r token { r with mode := .rangeWord range min }
  | rangeWord {range min} (h : r.mode = .rangeWord range min) :
      Takes r (.term "TO") { r with mode := .upperBound range min }
  | upperBound {range min token max} (h : r.mode = .upperBound range min)
      (hbound : bound? token = some max) : Takes r token { r with mode := .rangeEnd range min max }
  | rightBracket {range min max} (h : r.mode = .rangeEnd range min max) :
      Takes r .rightBracket (r.closeRange range min max true)
  | rightBrace {range min max} (h : r.mode = .rangeEnd range min max) :
      Takes r .rightBrace (r.closeRange range min max false)
  | boost {clause value} (h : r.mode = .modifiers clause) :
      Takes r (.boost value)
        { r with mode := .modifiers (clause.withAttrs { clause.attrs with boost := some value }) }
  | proximity {clause value} (h : r.mode = .modifiers clause) :
      Takes r (.proximity value)
        { r with
          mode := .modifiers (clause.withAttrs { clause.attrs with proximity := some value }) }
  | and (h : r.mode = .between) (hclauses : r.group.clauses ≠ [])
      (hoperator : r.group.operator = .default) :
      Takes r .and { r with group := { r.group with operator := .and } }
  | or (h : r.mode = .between) (hclauses : r.group.clauses ≠ [])
      (hoperator : r.group.operator = .default) :
      Takes r .or { r with group := { r.group with operator := .or } }
  | rightParen {around outer} (h : r.mode = .between) (hoperator : r.group.operator = .default)
      (houter : r.outer = around :: outer) :
      Takes r .rightParen
        ⟨.modifiers
          (Tree.ofClauses r.next r.group.attrs true r.group.clauses.reverse (r.next + 1)).1,
          around, outer,
          (Tree.ofClauses r.next r.group.attrs true r.group.clauses.reverse (r.next + 1)).2⟩

section Takes

variable {r r' : Reader} {token : Token} {a : Attributes}

/-- A token that says nothing of a clause begins its value. -/
theorem readClause_eq (htoken : token ∉ [.plus, .minus, .not])
    (hfield : ∀ name, token ≠ .field name) :
    r.readClause a token = r.readValue .between a token := by
  cases token <;> first | rfl | exact (hfield _ rfl).elim | simp at htoken

theorem readFieldValue_eq {field : String} (htoken : ∀ text, token ≠ .term text) :
    r.readFieldValue field a token = r.readValue (.value field a) a token := by
  cases token <;> first | rfl | simp at htoken

/-- A token that neither ends a group nor joins clauses begins a clause. -/
theorem readBetween_eq (htoken : token ∉ [.rightParen, .and, .or]) :
    r.readBetween token = r.readClause .plain token := by
  cases token <;> first | rfl | simp at htoken

theorem takes_readValue {wording : Mode} (h : r.Awaits a)
    (hasks : ∀ text, token = .term text → ¬ r.Asks)
    (hread : r.readValue wording a token = .ok r') : r.Takes token r' := by
  cases token with
  | leftParen =>
      obtain rfl := Except.ok.inj hread
      exact .leftParen h
  | term text =>
      obtain rfl := Except.ok.inj hread
      exact .term h (hasks text rfl)
  | quoted text =>
      obtain rfl := Except.ok.inj hread
      exact .quoted h
  | pattern text =>
      obtain rfl := Except.ok.inj hread
      exact .pattern h
  | leftBracket =>
      obtain rfl := Except.ok.inj hread
      exact .leftBracket h
  | leftBrace =>
      obtain rfl := Except.ok.inj hread
      exact .leftBrace h
  | _ => simp [readValue] at hread

theorem not_asks_of_expects (h : r.Expects a) : ¬ r.Asks := by
  rintro ⟨b, hvalue | hvalue⟩ <;> rcases h with h | h <;> simp [hvalue] at h

theorem takes_readClause (h : r.Expects a) (hread : r.readClause a token = .ok r') :
    r.Takes token r' := by
  cases token with
  | plus =>
      obtain rfl := Except.ok.inj hread
      exact .plus h
  | minus =>
      obtain rfl := Except.ok.inj hread
      exact .minus h
  | not =>
      obtain rfl := Except.ok.inj hread
      exact .not h
  | field name =>
      obtain rfl := Except.ok.inj hread
      exact .field h
  | _ =>
      exact takes_readValue (.inl h) (fun _ _ => not_asks_of_expects h)
        ((readClause_eq (by simp) (by simp)).symm.trans hread)

theorem takes_readFieldValue {field : String} (h : r.mode = .value field a)
    (hread : r.readFieldValue field a token = .ok r') : r.Takes token r' := by
  have hawaits : r.Awaits a := .inr ⟨field, h⟩
  cases token with
  | term name =>
      rw [readFieldValue] at hread
      split at hread
      · next hexists =>
          obtain rfl := Except.ok.inj hread
          exact .fieldExists (hexists ▸ h)
      · next hexists =>
          split at hread
          · next hmissing =>
              obtain rfl := Except.ok.inj hread
              exact .fieldMissing (hmissing ▸ h)
          · next hmissing =>
              refine takes_readValue hawaits (fun text _ => ?_) hread
              rintro ⟨b, hasks | hasks⟩
              · exact hexists (Mode.value.inj (h.symm.trans hasks)).1
              · exact hmissing (Mode.value.inj (h.symm.trans hasks)).1
  | _ => exact takes_readValue hawaits (by simp) ((readFieldValue_eq (by simp)).symm.trans hread)

theorem takes_readBetween (h : r.mode = .between) (hread : r.readBetween token = .ok r') :
    r.Takes token r' := by
  have hoperator : ∀ operator found, r.readOperator operator found = .ok r' →
      r.group.clauses ≠ [] ∧ r.group.operator = .default ∧
        r' = { r with group := { r.group with operator := operator } } := by
    intro operator found hread
    rw [readOperator] at hread
    split at hread
    · simp at hread
    · next hready =>
        simp only [not_or, Decidable.not_not] at hready
        refine ⟨hready.1, hready.2, ?_⟩
        rw [← Except.ok.inj hread, h]
  cases token with
  | rightParen =>
      change r.closeGroup = .ok r' at hread
      rw [closeGroup] at hread
      split at hread
      · simp at hread
      · next hdefault =>
          split at hread
          · simp at hread
          · next houter =>
              obtain rfl := Except.ok.inj hread
              exact .rightParen h (by simpa using hdefault) houter
  | and =>
      obtain ⟨hclauses, hdefault, rfl⟩ := hoperator _ _ hread
      exact .and h hclauses hdefault
  | or =>
      obtain ⟨hclauses, hdefault, rfl⟩ := hoperator _ _ hread
      exact .or h hclauses hdefault
  | _ => exact takes_readClause (.inr ⟨h, rfl⟩) ((readBetween_eq (by simp)).symm.trans hread)

theorem step_of_between (h : r.mode = .between) (token : Token) :
    r.step token = r.readBetween token := by
  rw [step, h]

theorem takes_of_step (hstep : r.step token = .ok r') : r.Takes token r' ∨ r.settled.Takes token r' := by
  obtain ⟨mode, group, outer, next⟩ := r
  cases mode with
  | between => exact .inl (takes_readBetween rfl hstep)
  | marked a => exact .inl (takes_readClause (.inl rfl) hstep)
  | value field a => exact .inl (takes_readFieldValue rfl hstep)
  | lowerBound range =>
      cases token with
      | term text =>
          obtain rfl := Except.ok.inj hstep
          exact .inl (.lowerBound rfl rfl)
      | quoted text =>
          obtain rfl := Except.ok.inj hstep
          exact .inl (.lowerBound rfl rfl)
      | _ => simp [step, bound?] at hstep
  | rangeWord range min =>
      rw [step] at hstep
      dsimp only at hstep
      split at hstep
      · next hword =>
          obtain rfl := Except.ok.inj hstep
          rw [hword]
          exact .inl (.rangeWord rfl)
      · simp at hstep
  | upperBound range min =>
      cases token with
      | term text =>
          obtain rfl := Except.ok.inj hstep
          exact .inl (.upperBound rfl rfl)
      | quoted text =>
          obtain rfl := Except.ok.inj hstep
          exact .inl (.upperBound rfl rfl)
      | _ => simp [step, bound?] at hstep
  | rangeEnd range min max =>
      cases token with
      | rightBracket =>
          obtain rfl := Except.ok.inj hstep
          exact .inl (.rightBracket rfl)
      | rightBrace =>
          obtain rfl := Except.ok.inj hstep
          exact .inl (.rightBrace rfl)
      | _ => simp [step] at hstep
  | modifiers clause =>
      cases token with
      | boost value =>
          obtain rfl := Except.ok.inj hstep
          exact .inl (.boost rfl)
      | proximity value =>
          obtain rfl := Except.ok.inj hstep
          exact .inl (.proximity rfl)
      | _ =>
          refine .inr (takes_readBetween rfl ?_)
          exact (step_of_between rfl _).symm.trans ((step_settled _ rfl).trans hstep)

end Takes

/-- What the end of the text asks of the reader, and the tree that it makes of it. -/
theorem of_finish_eq_ok {r : Reader} {t : Tree} (h : r.finish = .ok t) :
    r.settled.outer = [] ∧
      t = (Tree.ofClauses 0 r.settled.group.attrs false r.settled.group.clauses.reverse
        r.settled.next).1 := by
  have hbetween : ∀ {r : Reader}, r.finishBetween = .ok t → r.outer = [] ∧
      t = (Tree.ofClauses 0 r.group.attrs false r.group.clauses.reverse r.next).1 := by
    intro r h
    rw [finishBetween] at h
    split at h
    · simp at h
    · split at h
      · simp at h
      · next houter => exact ⟨by simpa using houter, (Except.ok.inj h).symm⟩
  obtain ⟨mode, group, outer, next⟩ := r
  cases mode with
  | between => exact hbetween h
  | modifiers clause => exact hbetween h
  | _ => simp [finish] at h

def ground? (r : Reader) : Option Attributes :=
  ((r.group :: r.outer).map (·.attrs)).getLast?

theorem ground?_settled (r : Reader) : r.settled.ground? = r.ground? := by
  obtain ⟨mode, group, outer, next⟩ := r
  cases mode <;> rfl

theorem Takes.ground?_eq {r r' : Reader} {token : Token} (h : r.Takes token r') :
    r'.ground? = r.ground? := by
  cases h with
  | leftParen => exact List.getLast?_cons_cons
  | rightParen _ _ houter =>
      rw [ground?, ground?, houter]
      exact List.getLast?_cons_cons.symm
  | _ => rfl

theorem ground?_step {r r' : Reader} {token : Token} (h : r.step token = .ok r') :
    r'.ground? = r.ground? := by
  rcases takes_of_step h with h | h
  · exact h.ground?_eq
  · exact h.ground?_eq.trans r.ground?_settled

def Reads (r : Reader) (tokens : List Token) (r' : Reader) : Prop :=
  tokens.foldlM step r = .ok r'

namespace Reads

variable {r r' r'' : Reader} {token : Token} {tokens tokens' : List Token}

theorem nil (r : Reader) : Reads r [] r := rfl

theorem cons (h : r.step token = .ok r') (h' : Reads r' tokens r'') :
    Reads r (token :: tokens) r'' := by
  rw [Reads, List.foldlM_cons, h]
  exact h'

theorem one (h : r.step token = .ok r') : Reads r [token] r' :=
  cons h (nil r')

theorem append (h : Reads r tokens r') (h' : Reads r' tokens' r'') :
    Reads r (tokens ++ tokens') r'' := by
  rw [Reads] at h
  rw [Reads, List.foldlM_append, h]
  exact h'

theorem exists_step (h : Reads r (token :: tokens) r'') :
    ∃ r', r.step token = .ok r' ∧ Reads r' tokens r'' := by
  rw [Reads, List.foldlM_cons] at h
  cases hstep : r.step token with
  | error fault =>
      rw [hstep] at h
      cases h
  | ok r' =>
      rw [hstep] at h
      exact ⟨r', rfl, h⟩

theorem of_step {motive : Reader → Reader → Prop} (refl : ∀ r, motive r r)
    (trans : ∀ {r r' r''}, motive r r' → motive r' r'' → motive r r'')
    (step : ∀ {r r' : Reader} {token}, r.step token = .ok r' → motive r r')
    (h : Reads r tokens r') : motive r r' := by
  induction tokens generalizing r with
  | nil =>
      obtain rfl := Except.ok.inj h
      exact refl r
  | cons token tokens ih =>
      obtain ⟨middle, hstep, hrest⟩ := h.exists_step
      exact trans (step hstep) (ih hrest)

theorem ground?_eq (h : Reads r tokens r') : r'.ground? = r.ground? := by
  have hground := h.of_step (motive := fun r r' => r.ground? = r'.ground?) (fun _ => rfl)
    (fun h h' => h.trans h') (fun hstep => (ground?_step hstep).symm)
  exact hground.symm

/-- The places of the tokens matter only for faults. -/
theorem steps_iff {lexemes : List Lexeme} :
    r.steps lexemes = .ok r' ↔ Reads r (lexemes.map (·.token)) r' := by
  induction lexemes generalizing r with
  | nil =>
      rw [steps]
      exact ⟨fun h => congrArg Except.ok (Except.ok.inj h),
        fun h => congrArg Except.ok (Except.ok.inj h)⟩
  | cons lexeme rest ih =>
      rw [steps, List.map_cons]
      cases hstep : r.step lexeme.token with
      | error fault =>
          refine iff_of_false (by simp) fun h => ?_
          obtain ⟨_, hok, -⟩ := h.exists_step
          simp [hstep] at hok
      | ok next =>
          refine ih.trans ⟨fun h => .cons hstep h, fun h => ?_⟩
          obtain ⟨next', hok, hrest⟩ := h.exists_step
          obtain rfl := Except.ok.inj (hstep.symm.trans hok)
          exact hrest

end Reads

end Reader

namespace Tree

theorem exists_finish_of_parse {text : String} {t : Tree} (h : Tree.parse text = .ok t) :
    ∃ r, Reader.start.Reads ((Lexing.ofString text).lexemes.map (·.token)) r ∧
      r.finish = .ok t := by
  rw [Tree.parse, Lexing.query] at h
  cases hsteps : Reader.start.steps (Lexing.ofString text).lexemes with
  | error error =>
      rw [hsteps] at h
      cases h
  | ok r =>
      refine ⟨r, Reader.Reads.steps_iff.1 hsteps, ?_⟩
      rw [hsteps] at h
      dsimp only [bind, Except.bind] at h
      split at h
      · cases h
      · split at h
        · next hfinish => rw [hfinish, Except.ok.inj h]
        · cases h

/-- A text that is parsed leaves no group open, and the root of which nothing is said takes up all
clauses. -/
theorem exists_reads_of_parse {text : String} {t : Tree} (h : Tree.parse text = .ok t) :
    ∃ r, Reader.start.Reads ((Lexing.ofString text).lexemes.map (·.token)) r ∧
      r.settled.outer = [] ∧
      t = (ofClauses 0 .plain false r.settled.group.clauses.reverse r.settled.next).1 := by
  obtain ⟨r, hreads, hfinish⟩ := exists_finish_of_parse h
  obtain ⟨houter, htree⟩ := Reader.of_finish_eq_ok hfinish
  have hground := r.ground?_settled.trans hreads.ground?_eq
  rw [Reader.ground?, houter] at hground
  have hattrs : r.settled.group.attrs = .plain := Option.some.inj hground
  rw [hattrs] at htree
  exact ⟨r, hreads, houter, htree⟩

theorem exists_eq_group_of_parse {text : String} {t : Tree} (h : Tree.parse text = .ok t) :
    ∃ operator l r, t = .group 0 .plain ⟨operator, false⟩ l r := by
  obtain ⟨reader, -, -, rfl⟩ := exists_reads_of_parse h
  exact ⟨_, _, _, rfl⟩

end Tree

end SearchQuery
