import SearchQuery.Proofs.Token.Scanning

/-!
# The lexemes of a text

Asked again and again for the next token, `Lexing.answer`, the lexer comes to the end of a text or
to a fault after at most one question more than the text has characters. The lexemes found on the
way lie in the text one behind the other, each is a spelling of its token, and what lies between
them is blank, `Lexing.lexemes_cover_text`.
-/

namespace SearchQuery

namespace Lexeme

def slice (x : Lexeme) (cs : List Char) : List Char :=
  (cs.take x.stop).drop x.start

def Spans (x : Lexeme) (i : Nat) : Prop :=
  x.start ≤ i ∧ i < x.stop

end Lexeme

namespace Lexing

/-- What the lexer has to say when it is asked for the next token. -/
inductive Answer
  /-- A lexeme, and the text that is left behind it. -/
  | found (lexeme : Lexeme) (rest : List Char)
  /-- The end of the text, or a fault, at a place. -/
  | ended (fault? : Option ParseFault) (place : Nat)

def answer (position : Nat) : List Char → Answer
  | [] => .ended none position
  | c :: rest =>
      if Text.isBlank c then answer (position + 1) rest
      else match Token.scan c rest with
        | .error fault => .ended (some fault) position
        | .ok (token, width) => .found ⟨token, position, position + width⟩ (rest.drop (width - 1))

/-- What the lexer has found when it comes to an end, if it does within so many questions. -/
def within : Nat → Nat → List Char → Option Lexing
  | 0, _, _ => none
  | questions + 1, position, cs =>
      match answer position cs with
      | .ended fault? place => some ⟨[], fault?, place⟩
      | .found lexeme rest =>
          (within questions lexeme.stop rest).map fun later =>
            { later with lexemes := lexeme :: later.lexemes }

theorem ofChars_of_ended {position place : Nat} {cs : List Char} {fault? : Option ParseFault}
    (h : answer position cs = .ended fault? place) :
    ofChars position cs = ⟨[], fault?, place⟩ := by
  induction cs generalizing position with
  | nil =>
      cases h
      rw [ofChars]
  | cons c rest ih =>
      rw [answer] at h
      rw [ofChars]
      split at h
      · next hc => rw [if_pos hc, ih h]
      · next hc =>
          rw [if_neg hc]
          cases hscan : Token.scan c rest with
          | error fault =>
              rw [hscan] at h
              cases h
              rfl
          | ok scanned =>
              rw [hscan] at h
              cases h

/-- A question leaves less of the text, and the lexemes are those found later and this one. -/
theorem ofChars_of_found {position : Nat} {cs rest : List Char} {lexeme : Lexeme}
    (h : answer position cs = .found lexeme rest) :
    rest.length < cs.length ∧ ofChars position cs =
      { ofChars lexeme.stop rest with
        lexemes := lexeme :: (ofChars lexeme.stop rest).lexemes } := by
  induction cs generalizing position with
  | nil => cases h
  | cons c cs ih =>
      rw [answer] at h
      rw [ofChars, List.length_cons]
      split at h
      · next hc =>
          obtain ⟨hlength, heq⟩ := ih h
          rw [if_pos hc]
          exact ⟨Nat.lt_succ_of_lt hlength, heq⟩
      · next hc =>
          rw [if_neg hc]
          cases hscan : Token.scan c cs with
          | error fault =>
              rw [hscan] at h
              cases h
          | ok scanned =>
              rw [hscan] at h
              cases h
              rw [List.length_drop]
              exact ⟨Nat.lt_succ_of_le (Nat.sub_le _ _), rfl⟩

theorem within_eq {questions : Nat} {cs : List Char} (h : cs.length < questions)
    (position : Nat) : within questions position cs = some (ofChars position cs) := by
  induction questions generalizing position cs with
  | zero => exact absurd h (Nat.not_lt_zero _)
  | succ questions ih =>
      rw [within]
      cases hanswer : answer position cs with
      | ended fault? place => rw [ofChars_of_ended hanswer]
      | found lexeme rest =>
          obtain ⟨hlength, heq⟩ := ofChars_of_found hanswer
          dsimp only
          rw [ih (by omega), heq, Option.map_some]

/-- Where there is no fault the whole text is read, and a fault is in front of the end. -/
theorem stop_bounds (position : Nat) (cs : List Char) :
    (ofChars position cs).stop ≤ position + cs.length ∧
      ((ofChars position cs).fault? = none ↔ (ofChars position cs).stop = position + cs.length) := by
  induction position, cs using ofChars.induct with
  | case1 position => simp [ofChars]
  | case2 position c rest hc ih =>
      rw [ofChars, if_pos hc, List.length_cons, Nat.add_comm rest.length, ← Nat.add_assoc]
      exact ih
  | case3 position c rest hc fault hscan =>
      rw [ofChars, if_neg hc, hscan]
      simp
  | case4 position c rest hc token width hscan ih =>
      obtain ⟨cs, after, rfl, rfl, -⟩ := Token.stands_of_scan (by simpa using hc) hscan
      rw [ofChars, if_neg hc, hscan]
      dsimp only
      rw [Nat.add_sub_cancel, List.drop_left] at ih ⊢
      have hlength : (c :: (cs ++ after)).length = cs.length + 1 + after.length := by
        rw [List.length_cons, List.length_append, Nat.add_right_comm]
      rwa [hlength, ← Nat.add_assoc position (cs.length + 1)]

namespace Passes

variable {behind front : List Char} {position : Nat} {lexemes : List Lexeme}

theorem bounds (h : Passes behind front position lexemes) :
    ∀ x ∈ lexemes, position ≤ x.start ∧ x.start < x.stop ∧ x.stop ≤ position + front.length := by
  induction h with
  | done => simp
  | blank _ _ ih =>
      intro x hx
      have hbounds := ih x hx
      rw [List.length_cons]
      omega
  | token hstands _ ih =>
      have hpos := List.length_pos_iff.2 hstands.ne_nil
      refine List.forall_mem_cons.2 ⟨?_, fun x hx => ?_⟩
      · dsimp only
        rw [List.length_append]
        omega
      · have hbounds := ih x hx
        rw [List.length_append]
        omega

theorem pairwise (h : Passes behind front position lexemes) :
    lexemes.Pairwise fun x y => x.start < y.start ∧ x.stop ≤ y.start := by
  induction h with
  | done => exact .nil
  | blank _ _ ih => exact ih
  | token hstands hpasses ih =>
      have hpos := List.length_pos_iff.2 hstands.ne_nil
      refine List.pairwise_cons.2 ⟨fun y hy => ?_, ih⟩
      have hbounds := hpasses.bounds y hy
      dsimp only
      omega

theorem slice_mem_spellings (h : Passes behind front position lexemes) (before : List Char)
    (hbefore : before.length = position) :
    ∀ x ∈ lexemes, x.slice (before ++ (front ++ behind)) ∈ x.token.spellings := by
  induction h generalizing before with
  | done => simp
  | @blank c front position lexemes _ _ ih =>
      rw [List.cons_append, List.append_cons]
      exact ih _ (by simp [hbefore])
  | @token token spelled front position lexemes hstands _ ih =>
      refine List.forall_mem_cons.2 ⟨?_, ?_⟩
      · rw [← hbefore, Lexeme.slice, List.take_length_add_append, List.drop_left, List.append_assoc,
          List.take_left]
        exact hstands.mem_spellings
      · rw [List.append_assoc spelled, ← List.append_assoc before]
        exact ih _ (by simp [hbefore])

theorem isBlank_of_not_spans (h : Passes behind front position lexemes) {i : Nat} {c : Char}
    (hc : front[i]? = some c) (hfree : ∀ x ∈ lexemes, ¬ x.Spans (position + i)) :
    Text.isBlank c = true := by
  induction h generalizing i with
  | done => simp at hc
  | blank hblank _ ih =>
      cases i with
      | zero => exact Option.some.inj hc ▸ hblank
      | succ i =>
          refine ih hc ?_
          rwa [Nat.add_right_comm]
  | token _ _ ih =>
      obtain ⟨hfirst, hlater⟩ := List.forall_mem_cons.1 hfree
      have hi : ¬ i < _ := fun hi => hfirst ⟨Nat.le_add_right _ _, Nat.add_lt_add_left hi _⟩
      rw [List.getElem?_append_right (Nat.le_of_not_lt hi)] at hc
      refine ih hc ?_
      rwa [Nat.add_assoc, Nat.add_sub_cancel' (Nat.le_of_not_lt hi)]

end Passes

/-- Asked for the next token at most once for each character and once more, the lexer comes to the
end of the text or to a fault. What it has found starts further and further on, one lexeme behind
the other, each of them a spelling of its token, and all other characters are blank. -/
theorem lexemes_cover_text (text : String) :
    let l := ofString text
    within (text.length + 1) 0 text.toList = some l ∧
      l.stop ≤ text.length ∧ (l.fault? = none ↔ l.stop = text.length) ∧
      (l.lexemes.Pairwise fun x y => x.start < y.start ∧ x.stop ≤ y.start) ∧
      (∀ x ∈ l.lexemes, x.start < x.stop ∧ x.stop ≤ l.stop ∧
        x.slice text.toList ∈ x.token.spellings) ∧
      ∀ i c, i < l.stop → text.toList[i]? = some c → (∀ x ∈ l.lexemes, ¬ x.Spans i) →
        Text.isBlank c = true := by
  intro l
  have hlength : text.toList.length = text.length := String.length_toList
  obtain ⟨front, behind, htext, hpasses, hstop⟩ :=
    exists_passes (List.append_nil (ofChars 0 text.toList).lexemes).symm
  have hstop : front.length = l.stop := (Nat.zero_add _).symm.trans hstop
  obtain ⟨hle, hend⟩ := stop_bounds 0 text.toList
  rw [Nat.zero_add, hlength] at hle hend
  refine ⟨within_eq (by omega) 0, hle, hend, hpasses.pairwise, fun x hx => ?_, ?_⟩
  · obtain ⟨-, hlt, hx_stop⟩ := hpasses.bounds x hx
    refine ⟨hlt, by omega, ?_⟩
    rw [htext]
    exact hpasses.slice_mem_spellings [] rfl x hx
  · intro i c hi hc hfree
    rw [htext, List.getElem?_append_left (by omega)] at hc
    refine hpasses.isBlank_of_not_spans hc ?_
    rwa [Nat.zero_add]

end Lexing

end SearchQuery
