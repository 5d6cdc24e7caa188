import SearchQuery.Proofs.Inversion.Clauses

/-!
# Inversion keeps protected fields

The main result on what inversion does to single leaves. Each leaf of the query is still there
once and asks the same. If its field is protected nothing about it changes, and no new group
stands above it; if not, it is complemented the other way.
-/

namespace SearchQuery

/-- Where numbers occur once, a number picks out one leaf. -/
theorem Occurrence.filter_id_eq {os : List Occurrence} (h : (os.map (·.id)).Nodup)
    {o : Occurrence} (ho : o ∈ os) : os.filter (·.id = o.id) = [o] := by
  induction os with
  | nil => simp at ho
  | cons first rest ih =>
      rw [List.map_cons, List.nodup_cons] at h
      have hne : ∀ o' ∈ rest, o'.id ≠ first.id := fun o' ho' heq =>
        h.1 (heq ▸ List.mem_map_of_mem ho')
      rcases List.mem_cons.1 ho with rfl | ho
      · rw [List.filter_cons_of_pos (by simp), List.filter_eq_nil_iff.2]
        exact fun o' ho' => by simpa using hne o' ho'
      · rw [List.filter_cons_of_neg (by simpa using (hne o ho).symm), ih h.2 ho]

namespace Pass

/-- After an inversion from the root, each leaf of the query is there once, asks what it asked
about the field it asked about, and is complemented as before exactly if the field is protected.
Above a leaf with a protected field there are only groups that were there before. -/
theorem inversion_respects_protected_fields {s : Session} (h : s.store.WellFormed)
    (hroot : s.store.isGroup s.store.root) (hoperator : s.context.defaultOperator ≠ .or)
    (kept : List String) :
    ∃ id s', (inversion kept).run s.store.root s = (.ok id, s') ∧ s'.store.WellFormed ∧
      ∀ o ∈ s.store.tree.occurrences .top,
        ∃ o', (s'.store.tree.occurrences .top).filter (·.id = o.id) = [o'] ∧
          o'.leaf = o.leaf ∧ o'.field = o.field ∧
          (o.field ∈ kept → o'.complemented = o.complemented ∧
            ∀ above ∈ o'.above, above ∈ s.store.tree.ids) ∧
          (o.field ∉ kept → o'.complemented = !o.complemented) := by
  obtain ⟨id, s', hrun, hwell, htree'⟩ := exists_run_inversion h hroot hoperator kept
  refine ⟨id, s', hrun, hwell, fun o ho => ?_⟩
  obtain ⟨hnodup, hlt⟩ := nodup_ids_tree h hroot
  obtain ⟨a, g, l, r, htree, -⟩ := h.exists_tree_eq_group hroot
  have hextends := Tree.extends_invert kept s.context.alternate s.store.nodes.size s.store.root a g l r
  rw [← htree] at hextends
  have hinverted := Tree.occurrences_invert (Nat.le_refl s.store.nodes.size) kept
    s.context.alternate (by rwa [htree] at hlt)
  rw [← htree] at hinverted
  obtain ⟨o', ho', hoo'⟩ := Occurrence.Inverted.exists_of_mem hinverted ho
  have hids : (((s.store.tree.invert kept s.context.alternate s.store.nodes.size).1.occurrences
      .top).map (·.id)).Nodup :=
    (hextends.nodup hnodup hlt).sublist (Tree.map_id_occurrences_sublist _ _)
  refine ⟨o', ?_, hoo'.leaf_eq, hoo'.field_eq, fun hkept => ?_, fun hkept => ?_⟩
  · rw [htree', ← hoo'.id_eq]
    exact Occurrence.filter_id_eq hids (List.mem_of_mem_filter ho')
  · rw [hoo'.of_mem hkept]
    refine ⟨rfl, fun above habove => ?_⟩
    exact (Tree.mem_of_mem_above ho habove).resolve_right (List.not_mem_nil)
  · rw [(hoo'.of_notMem hkept).complemented, Bool.xor_true]

/-- Of two clauses the one on the protected field stays and the other is negated. -/
theorem inversion_of_tenant_clause :
    let s : Session :=
      ⟨.ofTree (.group 0 .plain .plain
        (.leaf 1 { Attributes.plain with field := some "tenant" } (.term ⟨"a", .bare⟩))
        (.leaf 2 .plain (.term ⟨"b", .bare⟩))), .empty⟩
    ∃ id s', (inversion ["tenant"]).run s.store.root s = (.ok id, s') ∧
      (∃ o, (s'.store.tree.occurrences .top).filter (·.id = 1) = [o] ∧ o.complemented = false) ∧
      ∃ o, (s'.store.tree.occurrences .top).filter (·.id = 2) = [o] ∧ o.complemented = true := by
  intro s
  have htree := Store.tree_ofTree (t := .group 0 .plain .plain
    (.leaf 1 { Attributes.plain with field := some "tenant" } (.term ⟨"a", .bare⟩))
    (.leaf 2 .plain (.term ⟨"b", .bare⟩))) rfl (by decide)
  obtain ⟨id, s', hrun, -, h⟩ := inversion_respects_protected_fields (s := s)
    (Store.wellFormed_ofTree rfl (by decide)) (by decide) (by decide) ["tenant"]
  obtain ⟨o, ho, -, -, hkept, -⟩ := h ⟨1, _, some "tenant", "tenant", false, [0]⟩
    (by rw [htree]; exact List.mem_cons_self)
  obtain ⟨o', ho', -, -, -, hflipped⟩ := h ⟨2, _, none, "", false, [0]⟩
    (by rw [htree]; exact List.mem_cons_of_mem _ List.mem_cons_self)
  exact ⟨id, s', hrun, ⟨o, ho, (hkept (by decide)).1⟩, o', ho', hflipped (by decide)⟩

end Pass

end SearchQuery
