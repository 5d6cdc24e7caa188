import Mathlib.Data.List.DropRight
import SearchQuery.Proofs.Query.Escaping
import SearchQuery.Proofs.Validation.Repetition

/-!
# Bare terms and their wildcards

In a query a bare term counts as the operation `wildcard` or `term`. A backslash is to take a
wildcard literally, and whether it does is a matter of how many backslashes stand in front of the
wildcard, `Text.escapesNext`. But the label of a term is read off the text that is searched for,
where all wildcards of the written text are found again, with or without a backslash,
`Term.hasWildcard_iff`. So the label is right unless each wildcard of the term has a backslash,
`Pass.operations_of_bare_terms`.
-/

namespace SearchQuery

namespace Text

/-- Whether the text takes the character behind it literally: an odd number of backslashes ends
it. -/
def escapesNext (before : List Char) : Bool :=
  (before.rtakeWhile (· = '\\')).length % 2 = 1

variable {before : List Char} {c : Char}

theorem escapesNext_backslash (before : List Char) :
    escapesNext (before ++ ['\\']) = !escapesNext before := by
  rw [escapesNext, escapesNext, List.rtakeWhile_concat_pos _ _ _ rfl, List.length_append,
    List.length_singleton]
  rcases Nat.mod_two_eq_zero_or_one (before.rtakeWhile (· = '\\')).length with h | h <;>
    simp [Nat.add_mod, h]

theorem escapesNext_concat (hc : c ≠ '\\') : escapesNext (before ++ [c]) = false := by
  rw [escapesNext, List.rtakeWhile_concat_neg _ _ _ (by simpa using hc)]
  rfl

/-- Behind a text that takes nothing literally a text is read as from its beginning, and otherwise
its first character is taken as it is. -/
theorem unescapeChars_append (before : List Char) :
    (escapesNext before = false → ∀ rest,
      unescapeChars (before ++ rest) = unescapeChars before ++ unescapeChars rest) ∧
    (escapesNext before = true → ∀ c rest,
      unescapeChars (before ++ c :: rest) = unescapeChars before ++ c :: unescapeChars rest) := by
  induction before using List.reverseRecOn with
  | nil => exact ⟨fun _ _ => rfl, fun h => absurd h Bool.false_ne_true⟩
  | append_singleton before d ih =>
      obtain ⟨hopen, hescaped⟩ := ih
      simp only [List.append_assoc, List.singleton_append]
      by_cases hd : d = '\\'
      · subst hd
        rw [escapesNext_backslash]
        cases hbefore : escapesNext before with
        | false =>
            have hlast : unescapeChars (before ++ ['\\']) = unescapeChars before :=
              (hopen hbefore _).trans (List.append_nil _)
            refine ⟨fun h => absurd h Bool.noConfusion, fun _ c rest => ?_⟩
            rw [hopen hbefore, unescapeChars_escaped, hlast]
        | true =>
            refine ⟨fun _ rest => ?_, fun h => nomatch h⟩
            rw [hescaped hbefore, hescaped hbefore]
            exact (List.append_cons ..)
      · refine ⟨fun _ rest => ?_, fun h => nomatch h.symm.trans (escapesNext_concat hd)⟩
        cases hbefore : escapesNext before with
        | false =>
            rw [hopen hbefore, hopen hbefore, unescapeChars_cons hd, unescapeChars_cons hd]
            exact (List.append_cons ..)
        | true =>
            rw [hescaped hbefore, hescaped hbefore]
            exact (List.append_cons ..)

theorem mem_unescapeChars {text : List Char} (hc : c ≠ '\\') (h : c ∈ text) :
    c ∈ unescapeChars text := by
  obtain ⟨before, after, rfl⟩ := List.append_of_mem h
  obtain ⟨hopen, hescaped⟩ := unescapeChars_append before
  cases hbefore : escapesNext before with
  | false =>
      rw [hopen hbefore, unescapeChars_cons hc]
      exact List.mem_append_right _ List.mem_cons_self
  | true =>
      rw [hescaped hbefore]
      exact List.mem_append_right _ List.mem_cons_self

theorem mem_of_mem_unescapeChars {text : List Char} (h : c ∈ unescapeChars text) : c ∈ text := by
  induction text using unescapeChars.induct with
  | case1 => exact h
  | case2 => cases h
  | case3 d text ih =>
      rw [unescapeChars_escaped] at h
      exact List.mem_cons_of_mem _ (List.mem_cons.2 ((List.mem_cons.1 h).imp_right ih))
  | case4 d text hne hcons ih =>
      rw [unescapeChars] at h
      · exact List.mem_cons.2 ((List.mem_cons.1 h).imp_right ih)
      all_goals assumption

end Text

namespace Term

variable {t : Term}

def WritesWildcard (t : Term) (escaped : Bool) : Prop :=
  ∃ i : Fin t.text.toList.length, isWildcard t.text.toList[i] ∧
    Text.escapesNext (t.text.toList.take i) = escaped

instance (escaped : Bool) : Decidable (t.WritesWildcard escaped) :=
  inferInstanceAs (Decidable (∃ i : Fin t.text.toList.length, isWildcard t.text.toList[i] ∧ _))

theorem ne_backslash_of_isWildcard {c : Char} (h : isWildcard c) : c ≠ '\\' := by
  rintro rfl
  exact absurd h (by decide)

theorem hasWildcard_iff (hbare : t.style = .bare) :
    t.hasWildcard ↔ t.WritesWildcard false ∨ t.WritesWildcard true := by
  have hunescaped : t.unescaped.toList = Text.unescapeChars t.text.toList := by
    rw [unescaped, if_neg (by rw [hbare]; decide), Text.unescape, String.toList_ofList]
  have hany : t.hasWildcard ↔ ∃ c ∈ Text.unescapeChars t.text.toList, isWildcard c := by
    rw [hasWildcard, hunescaped, hbare, decide_eq_true rfl, Bool.true_and, List.any_eq_true]
  rw [hany]
  constructor
  · rintro ⟨c, hmem, hc⟩
    obtain ⟨i, hi, rfl⟩ := List.getElem_of_mem (Text.mem_of_mem_unescapeChars hmem)
    cases hbefore : Text.escapesNext (t.text.toList.take i) with
    | false => exact .inl ⟨⟨i, hi⟩, hc, hbefore⟩
    | true => exact .inr ⟨⟨i, hi⟩, hc, hbefore⟩
  · have hmem {escaped : Bool} (h : t.WritesWildcard escaped) :
        ∃ c ∈ Text.unescapeChars t.text.toList, isWildcard c := by
      obtain ⟨i, hi, -⟩ := h
      exact ⟨_, Text.mem_unescapeChars (ne_backslash_of_isWildcard hi) (List.getElem_mem i.2), hi⟩
    exact fun h => h.elim hmem hmem

theorem label_eq_wildcard_iff (hbare : t.style = .bare) :
    (Leaf.term t).label = "wildcard" ↔ t.hasWildcard := by
  rw [Leaf.label, if_neg (by rw [hbare]; decide)]
  split
  · exact iff_of_true rfl ‹_›
  · exact iff_of_false (by decide) ‹_›

end Term

/-- A check adds to the table of operations what is found. -/
theorem ValidationResult.files_validate {r : ValidationResult} {type : QueryType}
    {o : ValidationOptions} {found : Findings} {operation field : String} :
    (r.validate type o found).operations.Files operation field ↔
      r.operations.Files operation field ∨ found.operations.Files operation field := by
  rw [(adds_validate ..).operations]
  exact NameTable.files_union

namespace Pass

open Findings (Applies Asks)

/-- A check of a query adds to the table of operations what applies to some node, for the fields
that the node asks about. To a bare term without a note its label applies and nothing else. The
label is `wildcard` if a wildcard is written in the term at all, so that it says whether one is
written without a backslash, exactly if one is or none is written with a backslash. -/
theorem operations_of_bare_terms {s : Session} (hquery : s.context.queryType = .query)
    (own : Option ValidationOptions) :
    let filed (operation field : String) :=
      ((validation own).run s.store.root s).2.context.validation.operations.Files operation field
    (∀ operation field, filed operation field ↔
      s.context.validation.operations.Files operation field ∨
        ∃ path ∈ s.store.tree.paths [], ∃ spot ∈ path.head?,
          Applies (setting s) path operation ∧ Asks (setting s) spot field) ∧
    ∀ id a t above, ⟨id, a, .inl (.term t)⟩ :: above ∈ s.store.tree.paths [] → t.style = .bare →
      s.store.annotations.get? .operationType id = none →
      let label := (Leaf.term t).label
      (∀ operation,
        Applies (setting s) (⟨id, a, .inl (.term t)⟩ :: above) operation ↔ operation = label) ∧
      (∀ field, Asks (setting s) ⟨id, a, .inl (.term t)⟩ field → filed label field) ∧
      (label = "wildcard" ↔ t.WritesWildcard false ∨ t.WritesWildcard true) ∧
      ((label = "wildcard" ↔ t.WritesWildcard false) ↔
        (t.WritesWildcard true → t.WritesWildcard false)) := by
  intro filed
  have hfiled (operation field : String) : filed operation field ↔
      s.context.validation.operations.Files operation field ∨
        ∃ path ∈ s.store.tree.paths [], ∃ spot ∈ path.head?,
          Applies (setting s) path operation ∧ Asks (setting s) spot field :=
    ValidationResult.files_validate.trans (or_congr_right Findings.files_findings)
  refine ⟨hfiled, ?_⟩
  intro id a t above hpath hbare hnote label
  have happlies (operation : String) :
      Applies (setting s) (⟨id, a, .inl (.term t)⟩ :: above) operation ↔ operation = label := by
    have himplied : (setting s).impliedOperation? (.term t)
        (above.map fun group => (setting s).operation? group.id) = some label := if_pos hquery
    rw [Findings.applies_leaf, show (setting s).operation? id = none from hnote, himplied,
      Option.none_or, Option.some.injEq, eq_comm]
  have hlabel : label = "wildcard" ↔ t.WritesWildcard false ∨ t.WritesWildcard true :=
    (Term.label_eq_wildcard_iff hbare).trans (Term.hasWildcard_iff hbare)
  refine ⟨happlies, fun field hasks => ?_, hlabel, ?_⟩
  · exact (hfiled label field).2 (.inr ⟨_, hpath, _, rfl, (happlies label).2 rfl, hasks⟩)
  · rw [hlabel]
    exact ⟨fun h htrue => h.1 (.inr htrue), fun h => ⟨fun hor => hor.elim (fun hopen => hopen) h, .inl⟩⟩

/-- In `\\*` the second backslash is all that the first one takes literally. -/
theorem operations_of_open_wildcard :
    let t : Tree := .ofTerm ⟨"\\\\*", .bare⟩
    let s : Session := ⟨.ofTree t, .empty⟩
    Tree.parse "\\\\*" = .ok t ∧ Term.WritesWildcard ⟨"\\\\*", .bare⟩ false ∧
      ((validation none).run 0 s).2.context.validation.operations.Files "wildcard" "" := by
  intro t s
  have htext : Lexes "\\\\*".toList [.term "\\\\*"] := .of_scan (by decide) rfl .nil
  have hopen : Term.WritesWildcard ⟨"\\\\*", .bare⟩ false := by decide
  obtain ⟨-, hterms⟩ := operations_of_bare_terms (s := s) rfl none
  obtain ⟨-, hfiles, -, hright⟩ := hterms 1 .plain ⟨"\\\\*", .bare⟩ _
    (by rw [Store.tree_ofTree rfl (by decide)]; exact List.mem_cons_of_mem _ List.mem_cons_self) rfl rfl
  have hlabel := (hright.2 fun _ => hopen).2 hopen
  exact ⟨Tree.parse_of_lexes_single htext rfl, hopen, hlabel ▸ hfiles "" (.unnamed rfl rfl)⟩

/-- In `a\*` the backslash takes the wildcard literally, and still the term counts as one with a
wildcard. -/
theorem operations_of_escaped_wildcard :
    let t : Tree := .ofTerm ⟨"a\\*", .bare⟩
    let s : Session := ⟨.ofTree t, .empty⟩
    Tree.parse "a\\*" = .ok t ∧ (Leaf.term ⟨"a\\*", .bare⟩).label = "wildcard" ∧
      ¬ Term.WritesWildcard ⟨"a\\*", .bare⟩ false ∧
      ((validation none).run 0 s).2.context.validation.operations =
        ⟨[("wildcard", .ofList [""])]⟩ := by
  intro t s
  have htext : Lexes "a\\*".toList [.term "a\\*"] := .of_scan (by decide) rfl .nil
  exact ⟨Tree.parse_of_lexes_single htext rfl, by decide, by decide, by decide +kernel⟩

end Pass

end SearchQuery
