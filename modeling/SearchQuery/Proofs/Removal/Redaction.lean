import SearchQuery.Proofs.Cleanup.Meaning
import SearchQuery.Proofs.Cleanup.Writable
import SearchQuery.Proofs.Pass.Runs
import SearchQuery.Proofs.Query.Counting
import SearchQuery.Proofs.Query.Leaves
import SearchQuery.Proofs.Query.Parsed

/-!
# Redacting a query

Dropping unwanted fields takes all paths out of a tree that lead through an unwanted node and leaves
the others as they are, `paths_removeBelow`. The groups that this empties are tidied up afterwards,
and what is left can be written, whichever nodes went, `Tree.exists_spellsQuery_redacted`. Reading
the text again gives just the leaves at the paths that are left, `Pass.redaction`.
-/

namespace SearchQuery

namespace Tree

variable {unwanted : String → Bool} {t t' : Tree} {above : List Spot}

def isWanted (unwanted : String → Bool) (path : List Spot) : Bool :=
  path.all fun spot => !isUnwanted unwanted spot.attrs

theorem isWanted_cons (unwanted : String → Bool) (spot : Spot) (path : List Spot) :
    isWanted unwanted (spot :: path) =
      (!isUnwanted unwanted spot.attrs && isWanted unwanted path) := rfl

theorem isWanted_of_mem_paths (h : isWanted unwanted above = false) {path : List Spot}
    (hpath : path ∈ t.paths above) : isWanted unwanted path = false := by
  induction t generalizing above with
  | nil => cases hpath
  | leaf id a l =>
      obtain rfl := List.mem_singleton.1 hpath
      rw [isWanted_cons, h, Bool.and_false]
  | group id a g l r ihl ihr =>
      have hhere : isWanted unwanted (⟨id, a, .inr g⟩ :: above) = false := by
        rw [isWanted_cons, h, Bool.and_false]
      rw [paths_group, List.mem_cons, List.mem_append] at hpath
      rcases hpath with rfl | hpath | hpath
      · exact hhere
      · exact ihl hhere hpath
      · exact ihr hhere hpath

/-- Just the paths that lead through an unwanted node go. -/
theorem paths_removeBelow (h : isWanted unwanted above = true) (t : Tree) :
    (t.removeBelow unwanted).paths above = (t.paths above).filter (isWanted unwanted) := by
  induction t generalizing above with
  | nil => rfl
  | leaf id a l =>
      rw [removeBelow, paths, List.filter_singleton, isWanted_cons, h, Bool.and_true]
      cases isUnwanted unwanted a <;> rfl
  | group id a g l r ihl ihr =>
      rw [removeBelow]
      split
      · next hunwanted =>
          refine (List.filter_eq_nil_iff.2 fun path hpath => ?_).symm
          have hhere : isWanted unwanted (⟨id, a, .inr g⟩ :: above) = false := by
            rw [isWanted_cons, hunwanted]
            rfl
          rw [paths_group, List.mem_cons, List.mem_append] at hpath
          rw [Bool.not_eq_true]
          rcases hpath with rfl | hpath | hpath
          · exact hhere
          · exact isWanted_of_mem_paths hhere hpath
          · exact isWanted_of_mem_paths hhere hpath
      · next hwanted =>
          have hhere : isWanted unwanted (⟨id, a, .inr g⟩ :: above) = true := by
            rw [isWanted_cons, h, Bool.eq_false_iff.2 hwanted]
            rfl
          rw [paths_group, paths_group, List.filter_cons_of_pos hhere, List.filter_append,
            ihl hhere, ihr hhere]

section Fields

def Shuns (unwanted : String → Bool) : Tree → Prop
  | nil => True
  | leaf _ a _ => isUnwanted unwanted a = false
  | group _ a _ l r => isUnwanted unwanted a = false ∧ l.Shuns unwanted ∧ r.Shuns unwanted

theorem isUnwanted_congr {a b : Attributes} (h : b.field = a.field) :
    isUnwanted unwanted b = isUnwanted unwanted a := by
  rw [isUnwanted, isUnwanted, Attributes.fieldName?, Attributes.fieldName?, h]

theorem isUnwanted_of_field_eq_none {a : Attributes} (h : a.field = none) :
    isUnwanted unwanted a = false := by
  rw [isUnwanted, Attributes.fieldName?, h]
  rfl

theorem Shuns.isWanted (h : t.Shuns unwanted) (habove : isWanted unwanted above = true)
    {path : List Spot} (hpath : path ∈ t.paths above) : Tree.isWanted unwanted path = true := by
  induction t generalizing above with
  | nil => cases hpath
  | leaf id a l =>
      obtain rfl := List.mem_singleton.1 hpath
      rw [isWanted_cons, habove, show isUnwanted unwanted a = false from h]
      rfl
  | group id a g l r ihl ihr =>
      have hhere : Tree.isWanted unwanted (⟨id, a, .inr g⟩ :: above) = true := by
        rw [isWanted_cons, habove, h.1]
        rfl
      rw [paths_group, List.mem_cons, List.mem_append] at hpath
      rcases hpath with rfl | hpath | hpath
      · exact hhere
      · exact ihl h.2.1 hhere hpath
      · exact ihr h.2.2 hhere hpath

theorem shuns_removeBelow (unwanted : String → Bool) (t : Tree) :
    (t.removeBelow unwanted).Shuns unwanted := by
  induction t with
  | nil => trivial
  | leaf id a l =>
      rw [removeBelow]
      split
      · trivial
      · next h => exact Bool.eq_false_iff.2 h
  | group id a g l r ihl ihr =>
      rw [removeBelow]
      split
      · trivial
      · next h => exact ⟨Bool.eq_false_iff.2 h, ihl, ihr⟩

theorem Shuns.tidies (h : t.Shuns unwanted) (htidies : Tidies t t') : t'.Shuns unwanted := by
  induction htidies with
  | refl => exact h
  | trans _ _ ih ih' => exact ih' (ih h)
  | sides _ _ ihl ihr => exact ⟨h.1, ihl h.2.1, ihr h.2.2⟩
  | drop => trivial
  | shift => exact ⟨h.1, h.2.2, trivial⟩
  | absorb hfield => exact ⟨(isUnwanted_congr hfield).trans h.1, h.2.1.2⟩
  | share hfield hleaf =>
      exact ⟨(isUnwanted_congr hfield).trans h.1, (isUnwanted_congr hleaf).trans h.2.1, trivial⟩
  | hoist _ hleaf => exact (isUnwanted_congr hleaf).trans h.2.1

theorem Shuns.withAttrs (h : t.Shuns unwanted) {a : Attributes} (ha : a.field = t.attrs.field) :
    (t.withAttrs a).Shuns unwanted := by
  cases t with
  | nil => trivial
  | leaf => exact (isUnwanted_congr ha).trans h
  | group => exact ⟨(isUnwanted_congr ha).trans h.1, h.2⟩

theorem Shuns.echo (h : t.Shuns unwanted) : t.echo.Shuns unwanted := by
  induction t with
  | nil => trivial
  | leaf => exact h
  | group id a g l r ihl ihr =>
      obtain ⟨ha, hl, hr⟩ := h
      rw [Tree.echo]
      split
      · exact ⟨ha, ihl hl, ihr hr⟩
      · split
        · exact (ihl hl).withAttrs rfl
        · exact ⟨isUnwanted_of_field_eq_none rfl, ihl hl, ihr hr⟩

theorem Shuns.reread (h : t.Shuns unwanted) : t.reread.Shuns unwanted := by
  obtain heq | ⟨_, _, _, _, _, hecho, heq⟩ := reread_cases t
  · rw [heq]
    exact ⟨isUnwanted_of_field_eq_none rfl, h.echo, trivial⟩
  · have hshuns := h.echo
    rw [hecho] at hshuns
    rw [heq]
    exact hshuns

theorem shuns_unnumbered (t : Tree) : t.unnumbered.Shuns unwanted ↔ t.Shuns unwanted := by
  induction t with
  | nil => exact .rfl
  | leaf => exact .rfl
  | group id a g l r ihl ihr => exact and_congr .rfl (and_congr ihl ihr)

end Fields

section Writing

/-- What is left of a part of a query without unwanted fields once it has been tidied up, and of
what a group holds. -/
def Part.Redacted (unwanted : String → Bool) : Part → Tree → Prop
  | .body, .group _ _ _ l r =>
      Left false .clause ((l.removeBelow unwanted).cleanup false) ∧
        Left false .rest ((r.removeBelow unwanted).cleanup false)
  | .body, _ => True
  | part, t => Left false part ((t.removeBelow unwanted).cleanup false)

variable {part : Part} {tokens : List Token}

theorem redacted (unwanted : String → Bool) (h : Spells part t tokens) :
    part.Redacted unwanted t := by
  have hgone : ∀ part, Left false part (nil.cleanup false) := fun _ => .inl rfl
  have hsilent : ∀ {a : Attributes} {g : Group}, a.Silent → Encloses a g := fun ha =>
    ⟨ha.lexicalClosing, Attributes.lexicalField_of_none ha.field, fun _ => ha⟩
  induction h with
  | @leaf id a l _ ha h =>
      change Left false .clause (((leaf id a l).removeBelow unwanted).cleanup false)
      rw [removeBelow]
      split
      · exact hgone _
      · exact .inr (writable_leaf ha ⟨_, h⟩)
  | @group id a g l r _ hparens ha hfield _ ih =>
      change Left false .clause (((group id a g l r).removeBelow unwanted).cleanup false)
      rw [removeBelow]
      split
      · exact hgone _
      · exact left_settle ⟨ha, hfield, by simp [hparens]⟩ ih.1 ih.2 (by simp [hparens])
          (by decide) _
  | @marked id a g leafId b l _ hparens ha hfield hb h =>
      change Left false .clause
        (((group id a g (leaf leafId b l) nil).removeBelow unwanted).cleanup false)
      rw [removeBelow, if_neg (by simp [isUnwanted_of_field_eq_none hfield]), removeBelow,
        removeBelow]
      split
      · exact hgone .clause
      · exact .inr (writable_settleLeaf ha (Attributes.lexicalField_of_none hfield)
          (fun _ => hfield) (writable_leaf hb ⟨_, h⟩) false _)
  | @silent id a g l _ hparens ha _ ih =>
      change Left false .clause (((group id a g l nil).removeBelow unwanted).cleanup false)
      rw [removeBelow, if_neg (by simp [isUnwanted_of_field_eq_none ha.field]), cleanup,
        removeBelow, cleanup, settle_nil]
      exact left_settleOne_of_left (hsilent ha) ih false _
  | @last t _ _ ih =>
      have hleft : Left false .clause ((t.removeBelow unwanted).cleanup false) := ih
      exact hleft.of_clause (by decide)
  | @link id a g l r _ _ hparens ha _ _ ihl ihr =>
      change Left false .rest (((group id a g l r).removeBelow unwanted).cleanup false)
      rw [removeBelow, if_neg (by simp [isUnwanted_of_field_eq_none ha.field])]
      exact left_settle (hsilent ha) ihl ihr (fun _ _ => rfl) (by decide) _
  | empty => exact ⟨hgone _, hgone _⟩
  | single _ ih => exact ⟨ih, hgone _⟩
  | pair _ _ ihl ihr => exact ⟨ihl, ihr⟩

/-- What is left of a query of which nothing but its clauses is written can be written, whichever
fields are unwanted. -/
theorem exists_spellsQuery_redacted (unwanted : String → Bool) {id : NodeId} {a : Attributes}
    {g : Group} {l r : Tree} (hparens : g.parens = false) (ha : a.Silent)
    (h : SpellsQuery (group id a g l r) tokens) :
    ∃ tokens, SpellsQuery (((group id a g l r).removeBelow unwanted).cleanup true) tokens := by
  have hgone : ∀ part, Left false part (nil.cleanup false) := fun _ => .inl rfl
  obtain ⟨hl, hr⟩ : Left false .clause ((l.removeBelow unwanted).cleanup false) ∧
      Left false .rest ((r.removeBelow unwanted).cleanup false) := by
    cases h with
    | nothing => exact ⟨hgone _, hgone _⟩
    | clauses h =>
        cases h with
        | link _ _ hl hr => exact ⟨redacted unwanted hl, redacted unwanted hr⟩
        | last h =>
            cases h with
            | group htrue => simp [hparens] at htrue
            | marked _ _ _ hb hleaf => exact ⟨redacted unwanted (.leaf hb hleaf), hgone _⟩
            | silent _ _ hl => exact ⟨redacted unwanted hl, hgone _⟩
  have hencloses : Encloses a g :=
    ⟨ha.lexicalClosing, Attributes.lexicalField_of_none ha.field, fun _ => ha⟩
  have hleft : Left true .rest (((group id a g l r).removeBelow unwanted).cleanup true) := by
    rw [removeBelow, if_neg (by simp [isUnwanted_of_field_eq_none ha.field])]
    exact left_settle hencloses hl hr (fun _ _ => rfl) (by decide) id
  exact hleft

end Writing

end Tree

namespace Pass

variable {text : String} {t : Tree}

/-- Started at the root, dropping fields leaves a query without them. -/
theorem exists_run_removal (unwanted : String → Bool) {s : Session} (h : s.store.IsQuery) :
    ∃ s', (removal unwanted).run s.store.root s = (.ok s'.store.root, s') ∧ s'.store.IsQuery ∧
      s'.store.tree = s.store.tree.removeFields unwanted true := by
  have hyields := Rewriter.yields_removal unwanted h.rooted h.root_mem
  rw [Store.isRoot, decide_eq_true rfl] at hyields
  have hgroup : (s.store.tree.removeFields unwanted true).isGroup :=
    Tree.isGroup_removeFields h.isGroup_tree unwanted
  obtain ⟨top, htop⟩ : ∃ top, (s.store.tree.removeFields unwanted true).id? = some top := by
    cases htree : s.store.tree.removeFields unwanted true with
    | nil => simp [htree, Tree.isGroup] at hgroup
    | leaf id => exact ⟨id, rfl⟩
    | group id => exact ⟨id, rfl⟩
  obtain ⟨s', hrun, hstore, -, htree, hroot⟩ := exists_run_of_yields hyields htop
  exact ⟨s', hroot ▸ hrun, hstore ▸ h.of_puts hyields.puts fun _ => hgroup, htree⟩

theorem exists_run_removal_cleanup (unwanted : String → Bool) {s : Session}
    (h : s.store.IsQuery) :
    ∃ s', s.runAll s.store.root [removal unwanted, cleanup] = (.ok s'.store.root, s') ∧
      s'.store.tree = (s.store.tree.removeFields unwanted true).cleanup true := by
  obtain ⟨s₁, hremoval, hquery, htree⟩ := exists_run_removal unwanted h
  obtain ⟨s', hcleanup, -, htree', -⟩ := exists_run_cleanup hquery
  have hrun : s.runAll s.store.root [removal unwanted, cleanup] = (.ok s₁.store.root, s') := by
    simp only [Session.runAll, hremoval, hcleanup]
  have hroot := (Session.leavesQuery_runAll h [removal unwanted, cleanup]).eq_root rfl
  rw [hrun] at hroot
  exact ⟨s', hrun.trans (congrArg (fun top => (Except.ok top, s')) (hroot _ rfl)),
    htree ▸ htree'⟩

/-- Once the unwanted fields of a query are dropped and the rest is tidied up, the text of what is
left is parsed, no node of it is on an unwanted field, and its leaves are those of the query that
are not on one and not below a group on one. -/
theorem redaction (h : Tree.parse text = .ok t) (hplain : (Lexing.ofString text).Plain)
    (context : Context) (unwanted : String → Bool) :
    ∃ s' back, Session.runAll ⟨.ofTree t, context⟩ (Store.ofTree t).root
        [.removal unwanted, .cleanup] = (.ok s'.store.root, s') ∧
      Tree.parse s'.store.render = .ok back ∧
      (∀ path ∈ back.paths [], Tree.isWanted unwanted path) ∧
      back.leaves = ((t.paths []).filter (Tree.isWanted unwanted)).filterMap leafAt? := by
  obtain ⟨hid, hnodup⟩ := Tree.nodup_ids_of_parse h
  obtain ⟨_, htokens⟩ := Tree.exists_spellsQuery_of_parse h hplain
  obtain ⟨operator, l, r, rfl⟩ := Tree.exists_eq_group_of_parse h
  obtain ⟨_, hredacted⟩ :=
    Tree.exists_spellsQuery_redacted unwanted rfl Attributes.silent_plain htokens
  obtain ⟨back, hparse, hback⟩ := hredacted.exists_parse_render
  obtain ⟨s', hrun, htree⟩ := exists_run_removal_cleanup unwanted
    (s := ⟨.ofTree (.group 0 .plain ⟨operator, false⟩ l r), context⟩)
    ⟨Store.wellFormed_ofTree hid hnodup, Store.isGroup_ofTree hnodup⟩
  -- the root is on no field, so it is not emptied
  have hremoved : s'.store.tree =
      ((Tree.group 0 .plain ⟨operator, false⟩ l r).removeBelow unwanted).cleanup true := by
    rw [htree, Store.tree_ofTree hid hnodup]
    rfl
  refine ⟨s', back, hrun, ?_, fun path hpath => ?_, ?_⟩
  · rw [Store.render, Store.print]
    exact (congrArg (fun tree : Tree => Tree.parse tree.render) hremoved).trans hparse
  · have hshuns : back.Shuns unwanted := by
      rw [← Tree.shuns_unnumbered, hback, Tree.shuns_unnumbered]
      exact ((Tree.shuns_removeBelow unwanted _).tidies (Tree.tidies_cleanup _ true)).reread
    exact hshuns.isWanted rfl hpath
  · rw [← back.leaves_unnumbered, hback, Tree.leaves_unnumbered, Tree.leaves_reread,
      Tree.leaves_cleanup, Tree.leaves, Tree.paths_removeBelow rfl]

/-- The query `(f:a AND g:b) OR f:(c)` without the field `f`, of which `g:b` is left. -/
theorem redaction_of_field :
    let text := "(f:a AND g:b) OR f:(c)"
    ∃ t s' back, Tree.parse text = .ok t ∧
      Session.runAll ⟨.ofTree t, .empty⟩ (Store.ofTree t).root
        [.removal (· = "f"), .cleanup] = (.ok s'.store.root, s') ∧
      Tree.parse s'.store.render = .ok back ∧
      (∀ path ∈ back.paths [], Tree.isWanted (· = "f") path) ∧
      back.leaves = [(.term ⟨"b", .bare⟩, some "g")] := by
  have htext : Lexes "(f:a AND g:b) OR f:(c)".toList
      [.leftParen, .field "f", .term "a", .and, .field "g", .term "b", .rightParen, .or,
        .field "f", .leftParen, .term "c", .rightParen] :=
    .of_scan (by decide) rfl (.of_scan (by decide) rfl (.of_scan (by decide) rfl
      (.blank (by decide) (.of_scan (by decide) rfl (.blank (by decide)
        (.of_scan (by decide) rfl (.of_scan (by decide) rfl (.of_scan (by decide) rfl
          (.blank (by decide) (.of_scan (by decide) rfl (.blank (by decide)
            (.of_scan (by decide) rfl (.of_scan (by decide) rfl (.of_scan (by decide) rfl
              (.of_scan (by decide) rfl .nil)))))))))))))))
  have hparse : Tree.parse "(f:a AND g:b) OR f:(c)" = .ok
      (.group 0 .plain ⟨.or, false⟩
        (.group 3 .plain ⟨.and, true⟩
          (.leaf 1 { Attributes.plain with field := some "f" } (.term ⟨"a", .bare⟩))
          (.leaf 2 { Attributes.plain with field := some "g" } (.term ⟨"b", .bare⟩)))
        (.group 5 { Attributes.plain with field := some "f" } ⟨.default, true⟩
          (.leaf 4 .plain (.term ⟨"c", .bare⟩)) .nil)) :=
    Tree.parse_of_reads htext rfl rfl
  obtain ⟨s', back, hrun, hback, hwanted, hleaves⟩ := redaction hparse
    (Lexing.plain_of_lexes htext (by decide) (by decide)) .empty (· = "f")
  exact ⟨_, s', back, hparse, hrun, hback, hwanted, hleaves.trans (by decide)⟩

end Pass

end SearchQuery
