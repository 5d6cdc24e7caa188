import SearchQuery.Proofs.Inversion.Clauses

/-!
# Inversion as a complement

Where no protected field is asked about, inversion from the root turns a query into its complement,
beside the alternate criteria if there are any. The criteria are copied as `criteria` leaves them,
so what they say is turned around when their sign is lost with the group that carried it; for all
other criteria the result is true just if they are or the query was not.
-/

namespace SearchQuery

namespace Tree

theorem invert_of_coverage {kept : List String} {t : Tree}
    (h : t.coverage kept none = .invertible) (alternate : Option Tree) (next : NodeId) :
    t.invert kept alternate next = t.invertNode alternate next := by
  cases t with
  | nil => rw [invert.eq_def, h]
  | leaf => rw [invert.eq_def, h]
  | group => rw [invert_group, h]

end Tree

namespace Pass

/-- The reading of a query after its inversion from the root, where it asks about no protected
field. Criteria without leaves contribute nothing. Other criteria are an alternative to the
complement of the query, and they are one as they read exactly if they are not unwrapped with a
sign, or the query was false anyway. -/
theorem reading_inversion {s : Session} (h : s.store.WellFormed)
    (hroot : s.store.isGroup s.store.root) (hleaf : s.store.tree.hasLeaf)
    (hoperator : s.context.defaultOperator ≠ .or) (kept : List String)
    (hkept : ∀ field ∈ s.store.tree.referencedFields none, field ∉ kept) :
    ∃ id s', (inversion kept).run s.store.root s = (.ok id, s') ∧
      ∀ i, ∃ before after, s.store.tree.reading i none = some before ∧
        s'.store.tree.reading i none = some after ∧
        ((∀ c, s.context.alternate = some c → c.hasLeaf = false) → after = !before) ∧
        ∀ c criteria, s.context.alternate = some c → c.reading i none = some criteria →
          after = ((c.losesSign ^^ criteria) || !before) ∧
          (after = (criteria || !before) ↔ c.losesSign = false ∨ before = false) := by
  obtain ⟨id, s', hrun, -, htree'⟩ := exists_run_inversion h hroot hoperator kept
  have hcoverage : s.store.tree.coverage kept none = .invertible :=
    Tree.coverage_eq_invertible_iff.2 ⟨Tree.exists_asks_of_hasLeaf hleaf none,
      fun field hfield => hkept field (Tree.mem_referencedFields_iff.2 hfield)⟩
  refine ⟨id, s', hrun, fun i => ?_⟩
  obtain ⟨before, hbefore⟩ := Option.isSome_iff_exists.1
    ((Tree.isSome_reading i s.store.tree none).trans hleaf)
  have hafter : s'.store.tree.reading i none =
      (s.context.alternate.bind fun root => root.criteria.reading i none).merge (· || ·)
        (some !before) := by
    rw [htree', Tree.invert_of_coverage hcoverage, Tree.reading_invertNode, hbefore,
      Option.map_some]
  cases halternate : s.context.alternate with
  | none =>
      rw [halternate] at hafter
      exact ⟨before, !before, hbefore, hafter, fun _ => rfl, by simp⟩
  | some c =>
      rw [halternate, Option.bind_some, Tree.reading_criteria] at hafter
      cases hc : c.reading i none with
      | none =>
          rw [hc] at hafter
          refine ⟨before, !before, hbefore, hafter, fun _ => rfl, ?_⟩
          rintro c' criteria hc' hread
          obtain rfl := Option.some.inj hc'
          simp [hc] at hread
      | some b =>
          rw [hc] at hafter
          refine ⟨before, _, hbefore, hafter, fun hnone => ?_, ?_⟩
          · have hsome := Tree.isSome_reading i c none
            rw [hc, hnone c rfl] at hsome
            simp at hsome
          · rintro c' criteria hc' hread
            obtain rfl := Option.some.inj hc'
            obtain rfl := Option.some.inj (hc.symm.trans hread)
            refine ⟨rfl, ?_⟩
            cases c.losesSign <;> cases b <;> cases before <;> decide

/-- The query `a` beside the criteria `x`. -/
theorem reading_inversion_beside_clause :
    let criteria : Tree := .group 0 .plain .plain (.leaf 1 .plain (.term ⟨"x", .bare⟩)) .nil
    let s : Session :=
      ⟨.ofTree (.group 0 .plain .plain (.leaf 1 .plain (.term ⟨"a", .bare⟩)) .nil),
        { Context.empty with alternate := some criteria }⟩
    ∃ id s', (inversion ["tenant"]).run s.store.root s = (.ok id, s') ∧
      ∀ i, s'.store.tree.reading i none =
        some (i.holds (.term ⟨"x", .bare⟩) "" || !i.holds (.term ⟨"a", .bare⟩) "") := by
  intro criteria s
  have htree := Store.tree_ofTree
    (t := .group 0 .plain .plain (.leaf 1 .plain (.term ⟨"a", .bare⟩)) .nil) rfl (by decide)
  obtain ⟨id, s', hrun, h⟩ := reading_inversion (s := s)
    (Store.wellFormed_ofTree rfl (by decide)) (by decide) (by rw [htree]; rfl) (by decide)
    ["tenant"] (by rw [htree]; decide)
  refine ⟨id, s', hrun, fun i => ?_⟩
  have hclause : ∀ text, (Tree.group 0 .plain .plain (.leaf 1 .plain (.term ⟨text, .bare⟩))
      .nil).reading i none = some (i.holds (.term ⟨text, .bare⟩) "") := by
    intro text
    rw [Tree.reading_group_nil, Tree.reading_leaf, Attributes.scope_plain,
      Attributes.complements_plain, Tree.map_false_xor, Bool.false_xor]
    rfl
  obtain ⟨before, after, hbefore, hafter, -, hcriteria⟩ := h i
  rw [htree, hclause] at hbefore
  obtain ⟨hvalue, -⟩ := hcriteria criteria _ rfl (hclause "x")
  rw [hafter, hvalue, Option.some.inj hbefore, show criteria.losesSign = false from rfl,
    Bool.false_xor]

/-- With the criteria `-(x)` in the place of `x` the inverted query is true where `a` and `x`
hold, although neither the criteria nor the complement of `a` are. -/
theorem inversion_beside_marked_clause :
    let criteria : Tree :=
      .group 0 { Attributes.plain with sign := some .mustNot } ⟨.default, true⟩
        (.leaf 1 .plain (.term ⟨"x", .bare⟩)) .nil
    let s : Session :=
      ⟨.ofTree (.group 0 .plain .plain (.leaf 1 .plain (.term ⟨"a", .bare⟩)) .nil),
        { Context.empty with alternate := some criteria }⟩
    let i : Interpretation := ⟨(· && ·), fun _ _ => true⟩
    criteria.reading i none = some false ∧ s.store.tree.reading i none = some true ∧
      ((inversion []).run s.store.root s).2.store.tree.reading i none = some true := by
  decide

end Pass

end SearchQuery
