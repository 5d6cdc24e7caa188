import SearchQuery.Command
import SearchQuery.Proofs.Cleanup.Meaning
import SearchQuery.Proofs.Cleanup.Writable
import SearchQuery.Proofs.Query.Counting
import SearchQuery.Proofs.Query.Parsed

/-!
# Formatting a query

The command `format` writes the query of a text after tidying it up, `Command.format_eq`. The text
that it yields is parsed again; `Command.reading_format` tells which query comes back, and what it
says.
-/

namespace SearchQuery

/-- Tidying up complements no leaf. -/
theorem Tree.polarities_cleanup (t : Tree) (isRoot c : Bool) :
    (t.cleanup isRoot).polarities c = t.polarities c := by
  have hplace := (t.tidies_cleanup isRoot).occurrences ⟨none, c, []⟩
  have hcomplemented := Occurrence.Agrees.map_complemented_eq hplace
  rwa [map_complemented_occurrences, map_complemented_occurrences] at hcomplemented

theorem Tree.questions_cleanup (t : Tree) (isRoot : Bool) (p : Place) :
    (t.cleanup isRoot).questions p = t.questions p := by
  have hasked := map_asked_eq ((t.tidies_cleanup isRoot).occurrences p)
  have hquestion : ∀ os : List Occurrence, os.map (·.question) =
      (os.map (·.asked)).map fun asked => (asked.2.1, asked.2.2.2) := fun os => by
    rw [List.map_map]
    rfl
  rw [questions, questions, hquestion, hasked, ← hquestion]

namespace Command

variable {text : String} {t : Tree}

theorem sessionOf_eq (h : Tree.parse text = .ok t) :
    sessionOf text = .ok ⟨.ofTree t, .empty⟩ := by
  rw [sessionOf, Store.parse, h]
  rfl

theorem runPipeline_single {pass : Pass} {s s' : Session} (kind : PassKind) (priority : Int32)
    (h : pass.run s.store.root s = (.ok s.store.root, s')) :
    runPipeline (PipelineBuilder.empty.add kind (.pass pass) priority).build s = .ok s' := by
  have hrun : (PipelineBuilder.empty.add kind (.pass pass) priority).build.run s =
      s.runAll s.store.root [pass] := rfl
  rw [runPipeline, hrun, Session.runAll, h]
  rfl

theorem format_eq (h : Tree.parse text = .ok t) : format text = .ok (t.cleanup true).render := by
  obtain ⟨hid, hnodup⟩ := Tree.nodup_ids_of_parse h
  have htree := Store.tree_ofTree hid hnodup
  obtain ⟨operator, l, r, rfl⟩ := Tree.exists_eq_group_of_parse h
  let session : Session := ⟨.ofTree (.group 0 .plain ⟨operator, false⟩ l r), .empty⟩
  obtain ⟨s', hrun, -, htree', -⟩ := @Pass.exists_run_cleanup session
    ⟨Store.wellFormed_ofTree hid hnodup, Store.isGroup_ofTree hnodup⟩
  have hpipeline := runPipeline_single .cleanup 0 hrun
  have hrender : s'.store.render =
      ((Tree.group 0 .plain ⟨operator, false⟩ l r).cleanup true).render := by
    rw [Store.render, Store.print]
    exact congrArg Tree.render (htree'.trans (congrArg (Tree.cleanup true) htree))
  rw [format, sessionOf_eq h]
  dsimp only [bind, Except.bind]
  rw [hpipeline]
  exact congrArg Except.ok hrender

/-- The text that a query is formatted as is parsed again. The query that comes back says what the
query said without the signs that are overwritten once it is tidied up; it complements the same
leaves exactly if there are no such signs. Then it says the same as before, and only then if no
question is asked twice. -/
theorem reading_format (h : Tree.parse text = .ok t) (hplain : (Lexing.ofString text).Plain) :
    ∃ out back, format text = .ok out ∧ Tree.parse out = .ok back ∧
      (∀ i, back.reading i none = (t.cleanup true).withoutOverwritten.reading i none) ∧
      (back.polarities false = t.polarities false ↔ (t.cleanup true).overwritesSign = false) ∧
      ((t.cleanup true).overwritesSign = false → ∀ i, back.reading i none = t.reading i none) ∧
      ((t.questions .top).Nodup → (∀ i, back.reading i none = t.reading i none) →
        (t.cleanup true).overwritesSign = false) := by
  obtain ⟨_, htokens⟩ := Tree.exists_spellsQuery_of_parse h hplain
  obtain ⟨_, htidy⟩ := Tree.exists_spellsQuery_cleanup htokens
  obtain ⟨back, hparse, hback⟩ := htidy.exists_parse_render
  have hreading : ∀ i, back.reading i none =
      (t.cleanup true).withoutOverwritten.reading i none := by
    intro i
    rw [← back.reading_unnumbered, hback, Tree.reading_unnumbered, Tree.reading_reread,
      htidy.reading_echo]
  have hpolarities : back.polarities false =
      (t.cleanup true).withoutOverwritten.polarities false := by
    rw [← back.polarities_unnumbered, hback, Tree.polarities_unnumbered, Tree.polarities_reread,
      htidy.polarities_echo]
  have hkept := htidy.polarities_withoutOverwritten false
  refine ⟨_, back, format_eq h, hparse, hreading, ?_, fun hsign i => ?_, fun hnodup hsame => ?_⟩
  · rwa [hpolarities, ← t.polarities_cleanup true]
  · rw [hreading, Tree.withoutOverwritten_eq_self hsign]
    exact (t.tidies_cleanup true).reading i none
  · have hask : (t.cleanup true).withoutOverwritten.questions .top = t.questions .top :=
      (Tree.questions_withoutOverwritten _ rfl).trans (t.questions_cleanup true .top)
    have hcomplemented := Tree.polarities_eq_of_reading_eq hnodup hask fun i =>
      (hreading i).symm.trans (hsame i)
    rw [Tree.map_complemented_occurrences, Tree.map_complemented_occurrences] at hcomplemented
    exact hkept.1 (hcomplemented.trans (t.polarities_cleanup true false).symm)

/-- The query `-NOT (a)`, which comes back as it was. -/
theorem reading_format_of_signed_negation :
    ∃ out back, format "-NOT (a)" = .ok out ∧ Tree.parse out = .ok back ∧
      ∀ i, back.reading i none = some (i.holds (.term ⟨"a", .bare⟩) "") := by
  have htext : Lexes "-NOT (a)".toList [.minus, .not, .leftParen, .term "a", .rightParen] :=
    .of_scan (by decide) rfl (.of_scan (by decide) rfl (.blank (by decide)
      (.of_scan (by decide) rfl (.of_scan (by decide) rfl (.of_scan (by decide) rfl .nil)))))
  have hparse : Tree.parse "-NOT (a)" = .ok
      (.group 0 .plain .plain
        (.group 2 { Attributes.plain with negation := .negated, sign := some .mustNot }
          ⟨.default, true⟩ (.leaf 1 .plain (.term ⟨"a", .bare⟩)) .nil) .nil) :=
    Tree.parse_of_reads htext rfl rfl
  obtain ⟨out, back, hformat, hback, -, -, hreading, -⟩ := reading_format hparse
    (Lexing.plain_of_lexes htext (by decide) (by decide))
  refine ⟨out, back, hformat, hback, fun i => (hreading (by decide) i).trans ?_⟩
  rw [Tree.reading_group_nil, Tree.reading_group_nil, Tree.reading_leaf]
  change some (false ^^ (false ^^ (false ^^ i.holds (.term ⟨"a", .bare⟩) ""))) = _
  rw [Bool.false_xor, Bool.false_xor, Bool.false_xor]

/-- The query `-NOT (-a)`, whose first sign is lost when the parentheses go. -/
theorem format_of_two_signs :
    ∃ t back, Tree.parse "-NOT (-a)" = .ok t ∧ (Lexing.ofString "-NOT (-a)").Plain ∧
      format "-NOT (-a)" = .ok "-NOT -a" ∧ Tree.parse "-NOT -a" = .ok back ∧
      ¬ ∀ i, back.reading i none = t.reading i none := by
  have htext : Lexes "-NOT (-a)".toList
      [.minus, .not, .leftParen, .minus, .term "a", .rightParen] :=
    .of_scan (by decide) rfl (.of_scan (by decide) rfl (.blank (by decide)
      (.of_scan (by decide) rfl (.of_scan (by decide) rfl (.of_scan (by decide) rfl
        (.of_scan (by decide) rfl .nil))))))
  have hout : Lexes "-NOT -a".toList [.minus, .not, .minus, .term "a"] :=
    .of_scan (by decide) rfl (.of_scan (by decide) rfl (.blank (by decide)
      (.of_scan (by decide) rfl (.of_scan (by decide) rfl .nil))))
  have hparse : Tree.parse "-NOT (-a)" = .ok
      (.group 0 .plain .plain
        (.group 2 { Attributes.plain with negation := .negated, sign := some .mustNot }
          ⟨.default, true⟩
          (.leaf 1 { Attributes.plain with sign := some .mustNot } (.term ⟨"a", .bare⟩)) .nil)
        .nil) :=
    Tree.parse_of_reads htext rfl rfl
  have hback : Tree.parse "-NOT -a" = .ok
      (.group 0 .plain .plain
        (.leaf 1 { Attributes.plain with negation := .negated, sign := some .mustNot }
          (.term ⟨"a", .bare⟩)) .nil) :=
    Tree.parse_of_reads hout rfl rfl
  refine ⟨_, _, hparse, Lexing.plain_of_lexes htext (by decide) (by decide),
    (format_eq hparse).trans rfl, hback, fun hreading => ?_⟩
  exact absurd (hreading ⟨fun b _ => b, fun _ _ => true⟩) (by decide)

end Command

end SearchQuery
