import SearchQuery.Proofs.Query.Building
import SearchQuery.Proofs.Query.Writing

/-!
# Reading what was written

The text of a query is parsed, and the tree that comes back is what is heard of the query,
`Tree.SpellsQuery.exists_parse_render`. It says the same unless a sign is overwritten, and exactly
then all of its leaves are complemented as before.
-/

namespace SearchQuery.Tree

theorem reading_unnumbered (t : Tree) (i : Interpretation) (inherited : Option String) :
    t.unnumbered.reading i inherited = t.reading i inherited := by
  induction t generalizing inherited with
  | nil => rfl
  | leaf => rfl
  | group id a g l r ihl ihr => rw [unnumbered, reading_group, reading_group, ihl, ihr]

theorem polarities_unnumbered (t : Tree) (c : Bool) : t.unnumbered.polarities c = t.polarities c := by
  induction t generalizing c with
  | nil => rfl
  | leaf => rfl
  | group id a g l r ihl ihr => rw [unnumbered, polarities, polarities, ihl, ihr]

/-- The tokens that a query is written with. -/
inductive SpellsQuery : Tree → List Token → Prop
  | nothing {id a g} (hparens : g.parens = false) (ha : a.Silent) :
      SpellsQuery (group id a g nil nil) []
  | clauses {t tokens} (h : Spells .rest t tokens) : SpellsQuery t tokens

variable {t : Tree} {tokens : List Token}

/-- The query that the text of a tree is read as. A clause stands alone in the root. -/
def reread (t : Tree) : Tree :=
  match t.echo with
  | nil => group 0 .plain .plain nil nil
  | leaf id a l => group 0 .plain .plain (leaf id a l) nil
  | group id a g l r =>
      if g.parens then group 0 .plain .plain (group id a g l r) nil else group 0 a g l r

theorem reading_plain_group (t : Tree) (i : Interpretation) (inherited : Option String) :
    (group 0 .plain .plain t nil).reading i inherited = t.reading i inherited := by
  rw [reading_group_nil, Attributes.scope_plain, Attributes.complements_plain, map_false_xor]

theorem polarities_plain_group (t : Tree) (c : Bool) :
    (group 0 .plain .plain t nil).polarities c = t.polarities c := by
  rw [polarities, polarities, List.append_nil, Attributes.complements_plain, Bool.xor_false]

/-- What is heard of a tree stands in the root, or is the root itself. -/
theorem reread_cases (t : Tree) : t.reread = group 0 .plain .plain t.echo nil ∨
    ∃ id a g l r, t.echo = group id a g l r ∧ t.reread = group 0 a g l r := by
  rw [reread]
  split
  · next hecho => exact .inl (by rw [hecho])
  · next hecho => exact .inl (by rw [hecho])
  · next hecho =>
      split
      · exact .inl (by rw [hecho])
      · exact .inr ⟨_, _, _, _, _, hecho, rfl⟩

theorem reading_reread (t : Tree) (i : Interpretation) (inherited : Option String) :
    t.reread.reading i inherited = t.echo.reading i inherited := by
  obtain h | ⟨_, _, _, _, _, hecho, h⟩ := reread_cases t
  · rw [h, reading_plain_group]
  · rw [h, hecho]
    rfl

theorem polarities_reread (t : Tree) (c : Bool) :
    t.reread.polarities c = t.echo.polarities c := by
  obtain h | ⟨_, _, _, _, _, hecho, h⟩ := reread_cases t
  · rw [h, polarities_plain_group]
  · rw [h, hecho]
    rfl

/-- A clause is heard as a leaf or as a group in parentheses, so it stands alone in the root. -/
theorem reread_of_clause (h : Spells .clause t tokens) :
    t.reread = group 0 .plain .plain t.echo nil := by
  have hclause : ∀ part, part = .clause → Spells part t tokens →
      t.reread = group 0 .plain .plain t.echo nil := by
    clear h
    intro part hpart h
    induction h with
    | leaf => rfl
    | group hparens => rw [reread, echo_of_parens hparens]; rfl
    | marked hparens => rw [reread, echo_of_marked hparens]; rfl
    | silent hparens ha _ ih =>
        have hecho := echo_of_silent ha hparens
        rw [reread, hecho, ← ih rfl]
        rfl
    | last | link | empty | single | pair => simp at hpart
  exact hclause _ rfl h

namespace SpellsQuery

theorem reading_echo (h : SpellsQuery t tokens) (i : Interpretation) (inherited : Option String) :
    t.echo.reading i inherited = t.withoutOverwritten.reading i inherited := by
  cases h with
  | @nothing id a g hparens ha =>
      rw [echo_of_silent ha hparens, withoutOverwritten, echo, withoutOverwritten,
        reading_group_nil]
      rfl
  | clauses h => exact all_reading_echo h i inherited

theorem polarities_echo (h : SpellsQuery t tokens) (c : Bool) :
    t.echo.polarities c = t.withoutOverwritten.polarities c := by
  cases h with
  | @nothing id a g hparens ha =>
      rw [echo_of_silent ha hparens]
      rfl
  | clauses h => exact all_polarities_echo h c

/-- All leaves are complemented as before without the signs that are overwritten, exactly if there
are no such signs. -/
theorem polarities_withoutOverwritten (h : SpellsQuery t tokens) (c : Bool) :
    t.withoutOverwritten.polarities c = t.polarities c ↔ t.overwritesSign = false := by
  cases h with
  | nothing hparens ha =>
      refine iff_of_true rfl ?_
      simp [overwritesSign, Attributes.signOverwritten, ha.sign]
  | clauses h => exact all_polarities_withoutOverwritten h c

theorem exists_parse_render (h : SpellsQuery t tokens) :
    ∃ back, Tree.parse t.render = .ok back ∧ back.unnumbered = t.reread.unnumbered := by
  have hrender : t.render.toList = t.chars := String.toList_ofList
  cases h with
  | @nothing id a g hparens ha =>
      have hecho : (group id a g nil nil).echo = nil := echo_of_silent ha hparens id nil
      have hspells : Spells .body (group 0 .plain .plain nil nil) [] := .empty
      rw [reread, hecho]
      refine hspells.exists_parse_body ?_
      rw [hrender, chars_of_silent ha hparens]
      exact .nil
  | clauses h =>
      have hlexes : Lexes t.render.toList tokens := by
        have hlexes := (h.lexes (show Closes [] by simp [Closes]) .nil).2
        rw [List.append_nil, List.append_nil] at hlexes
        rwa [hrender]
      cases h with
      | last h =>
          have hbody : Spells .body (group 0 .plain .plain t nil) tokens := .single h
          rw [reread_of_clause h]
          exact hbody.exists_parse_body hlexes
      | @link id a g l r _ _ hparens ha hl hr =>
          have hnil := hr.isNil_eq_false (by decide)
          have hbody : Spells .body (group id a g l r) _ := .pair hl hr
          obtain ⟨back, hparse, hback⟩ := hbody.exists_parse_body hlexes
          refine ⟨back, hparse, ?_⟩
          rw [hback, hnil, reread, echo_of_link hparens hnil]
          rfl

end SpellsQuery

end SearchQuery.Tree
