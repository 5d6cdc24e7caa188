import SearchQuery.Proofs.Cleanup.Echo
import SearchQuery.Proofs.Command.Format

/-!
# Formatting a query again

The text that `format` yields can be formatted again, `Command.format_format`. It gets no longer,
and it is a fixed point exactly if the tidied query is heard as it is: no marks are scattered, and no
leaf is heard with marks of a group that it could have taken out of the parentheses around it.
-/

namespace SearchQuery

namespace Tree

variable {t back : Tree} {tokens : List Token}

/-- A tidy query whose text is read and tidied up again. -/
theorem SpellsQuery.chars_cleanup_back (h : SpellsQuery t tokens) (htidy : t.IsTidy true)
    (hform : t.RootForm) (hback : back.unnumbered = t.reread.unnumbered) :
    (back.cleanup true).chars.length ≤ t.chars.length ∧
      ((back.cleanup true).chars = t.chars ↔
        t.scattersMarks = false ∧ t.echo.dropsParens = false) := by
  obtain ⟨hecho, hiff⟩ := h.chars_echo
  obtain ⟨hle, hlt⟩ := length_chars_cleanup t.reread true
  rw [chars_reread] at hle hlt
  rw [dropsParens_reread] at hlt
  rw [chars_cleanup_of_unnumbered_eq hback]
  refine ⟨Nat.le_trans hle hecho, fun hsame => ?_, fun ⟨hscatters, hkept⟩ => ?_⟩
  · have hkept : t.echo.dropsParens = false := by
      rw [← Bool.not_eq_true]
      intro hdrops
      have hshorter := Nat.lt_of_lt_of_le (hlt hdrops) hecho
      exact Nat.ne_of_lt hshorter (congrArg List.length hsame)
    exact ⟨hiff.1 ((h.chars_cleanup_reread htidy hform hkept).symm.trans hsame), hkept⟩
  · exact (h.chars_cleanup_reread htidy hform hkept).trans (hiff.2 hscatters)

end Tree

namespace Command

variable {text : String} {t : Tree}

/-- The text that a query is formatted as is formatted again. It gets no longer, and stays the same
exactly if in the tidied query no marks are scattered and in what is heard of it there are no
parentheses around a leaf that needs none. -/
theorem format_format (h : Tree.parse text = .ok t) (hplain : (Lexing.ofString text).Plain) :
    ∃ out again, format text = .ok out ∧ format out = .ok again ∧ again.length ≤ out.length ∧
      (again = out ↔
        (t.cleanup true).scattersMarks = false ∧ (t.cleanup true).echo.dropsParens = false) := by
  obtain ⟨_, htokens⟩ := Tree.exists_spellsQuery_of_parse h hplain
  obtain ⟨_, htidied⟩ := Tree.exists_spellsQuery_cleanup htokens
  obtain ⟨back, hparse, hback⟩ := htidied.exists_parse_render
  obtain ⟨operator, l, r, rfl⟩ := Tree.exists_eq_group_of_parse h
  obtain ⟨hlength, hiff⟩ := htidied.chars_cleanup_back (Tree.isTidy_cleanup _ true)
    (Tree.rootForm_cleanup 0 operator l r) hback
  refine ⟨_, _, format_eq h, format_eq hparse, ?_, ?_⟩
  · simpa [Tree.render, ← String.length_toList] using hlength
  · rw [← hiff, Tree.render, Tree.render, String.ofList_inj]

/-- The query `-NOT (a)`, whose text loses its parentheses and then stays as it is. -/
theorem format_format_of_signed_negation :
    ∃ out, format "-NOT (a)" = .ok out ∧ format out = .ok out := by
  have htext : Lexes "-NOT (a)".toList [.minus, .not, .leftParen, .term "a", .rightParen] :=
    .of_scan (by decide) rfl (.of_scan (by decide) rfl (.blank (by decide)
      (.of_scan (by decide) rfl (.of_scan (by decide) rfl (.of_scan (by decide) rfl .nil)))))
  have hparse : Tree.parse "-NOT (a)" = .ok
      (.group 0 .plain .plain
        (.group 2 { Attributes.plain with negation := .negated, sign := some .mustNot }
          ⟨.default, true⟩ (.leaf 1 .plain (.term ⟨"a", .bare⟩)) .nil) .nil) :=
    Tree.parse_of_reads htext rfl rfl
  obtain ⟨out, again, hformat, hagain, -, hiff⟩ := format_format hparse
    (Lexing.plain_of_lexes htext (by decide) (by decide))
  obtain rfl := hiff.2 (by decide)
  exact ⟨again, hformat, hagain⟩

/-- The query `NOT (+a)`. Without the parentheses the sign is heard in front of the negation, and is
written there from then on. -/
theorem format_of_negated_sign :
    (∃ t, Tree.parse "NOT (+a)" = .ok t) ∧ (Lexing.ofString "NOT (+a)").Plain ∧
      format "NOT (+a)" = .ok "NOT +a" ∧ format "NOT +a" = .ok "+NOT a" := by
  have htext : Lexes "NOT (+a)".toList [.not, .leftParen, .plus, .term "a", .rightParen] :=
    .of_scan (by decide) rfl (.blank (by decide) (.of_scan (by decide) rfl
      (.of_scan (by decide) rfl (.of_scan (by decide) rfl (.of_scan (by decide) rfl .nil)))))
  have hout : Lexes "NOT +a".toList [.not, .plus, .term "a"] :=
    .of_scan (by decide) rfl (.blank (by decide) (.of_scan (by decide) rfl
      (.of_scan (by decide) rfl .nil)))
  have hparse : Tree.parse "NOT (+a)" = .ok
      (.group 0 .plain .plain
        (.group 2 { Attributes.plain with negation := .negated } ⟨.default, true⟩
          (.leaf 1 { Attributes.plain with sign := some .must } (.term ⟨"a", .bare⟩)) .nil)
        .nil) :=
    Tree.parse_of_reads htext rfl rfl
  have hback : Tree.parse "NOT +a" = .ok
      (.group 0 .plain .plain
        (.leaf 1 { Attributes.plain with negation := .negated, sign := some .must }
          (.term ⟨"a", .bare⟩)) .nil) :=
    Tree.parse_of_reads hout rfl rfl
  exact ⟨⟨_, hparse⟩, Lexing.plain_of_lexes htext (by decide) (by decide),
    (format_eq hparse).trans rfl, (format_eq hback).trans rfl⟩

end Command

end SearchQuery
