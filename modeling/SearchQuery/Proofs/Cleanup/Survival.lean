import SearchQuery.Proofs.Cleanup.Checks
import SearchQuery.Proofs.Cleanup.Meaning
import SearchQuery.Proofs.Query.Leaves
import SearchQuery.Proofs.Pass.Runs

/-!
# What is left of the nodes

No rule of tidying up makes a node. Each node that is left stands for one of the nodes that there
were, `Tidies.exists_origin`, with the same number, kind and field and the same leaves below it. The
other way round a leaf is never lost, and neither is a group with a field that has a leaf below it,
`Tidies.exists_standing`. A group without a leaf does not outlast the checks unless it is the root,
`IsTidy.leaves_ne_nil`.
-/

namespace SearchQuery

namespace Tree

variable {t t' u u' : Tree} {isRoot : Bool}

/-- The top nodes are the same but for marks and form, and so are the leaves below them. -/
structure StandsFor (u' u : Tree) : Prop where
  id?_eq : u'.id? = u.id?
  isGroup_eq : u'.isGroup = u.isGroup
  field_eq : u'.attrs.field = u.attrs.field
  leaves_eq : u'.leaves = u.leaves

namespace StandsFor

theorem refl (u : Tree) : StandsFor u u :=
  ⟨rfl, rfl, rfl, rfl⟩

theorem trans {u'' : Tree} (h : StandsFor u'' u') (h' : StandsFor u' u) : StandsFor u'' u :=
  ⟨h.id?_eq.trans h'.id?_eq, h.isGroup_eq.trans h'.isGroup_eq, h.field_eq.trans h'.field_eq,
    h.leaves_eq.trans h'.leaves_eq⟩

theorem leaf {id : NodeId} {a a' : Attributes} {l : Leaf} (h : a'.field = a.field) :
    StandsFor (leaf id a' l) (leaf id a l) :=
  ⟨rfl, rfl, h, congrArg (fun field => [(l, field)]) h⟩

theorem group {id : NodeId} {a a' : Attributes} {g g' : Group} {l l' r r' : Tree}
    (h : Tidies (group id a g l r) (group id a' g' l' r')) (hfield : a'.field = a.field) :
    StandsFor (group id a' g' l' r') (group id a g l r) :=
  ⟨rfl, rfl, hfield, h.leaves_eq⟩

end StandsFor

section Rules

theorem Tidies.exists_origin (h : Tidies t t') (hu' : u' ∈ t'.subtrees) :
    ∃ u ∈ t.subtrees, StandsFor u' u := by
  induction h generalizing u' with
  | refl => exact ⟨u', hu', .refl _⟩
  | trans _ _ ih ih' =>
      obtain ⟨v, hv, hstands'⟩ := ih' hu'
      obtain ⟨u, hu, hstands⟩ := ih hv
      exact ⟨u, hu, hstands'.trans hstands⟩
  | sides hl hr ihl ihr =>
      rcases mem_subtrees_group.1 hu' with rfl | hu' | hu'
      · exact ⟨_, List.mem_cons_self, .group (.sides hl hr) rfl⟩
      · obtain ⟨u, hu, hstands⟩ := ihl hu'
        exact ⟨u, mem_subtrees_of_left hu, hstands⟩
      · obtain ⟨u, hu, hstands⟩ := ihr hu'
        exact ⟨u, mem_subtrees_of_right hu, hstands⟩
  | drop => cases hu'
  | shift =>
      rcases mem_subtrees_group.1 hu' with rfl | hu' | hu'
      · exact ⟨_, List.mem_cons_self, .group .shift rfl⟩
      · exact ⟨u', mem_subtrees_of_right hu', .refl _⟩
      · cases hu'
  | absorb hfield hinner h hoperator =>
      rcases mem_subtrees_group.1 hu' with rfl | hu' | hu'
      · exact ⟨_, List.mem_cons_self, .group (.absorb hfield hinner h hoperator) hfield⟩
      · exact ⟨u', mem_subtrees_of_left (mem_subtrees_of_left hu'), .refl _⟩
      · exact ⟨u', mem_subtrees_of_left (mem_subtrees_of_right hu'), .refl _⟩
  | share hfield hleaf h =>
      rcases mem_subtrees_group.1 hu' with rfl | hu' | hu'
      · exact ⟨_, List.mem_cons_self, .group (.share hfield hleaf h) hfield⟩
      · obtain rfl := List.mem_singleton.1 hu'
        exact ⟨_, mem_subtrees_of_left List.mem_cons_self, .leaf hleaf⟩
      · cases hu'
  | hoist _ hleaf =>
      obtain rfl := List.mem_singleton.1 hu'
      exact ⟨_, mem_subtrees_of_left List.mem_cons_self, .leaf hleaf⟩

/-- A node with a leaf in it is left, if it is a leaf itself or a group with a field. -/
theorem Tidies.exists_standing (h : Tidies t t') (hu : u ∈ t.subtrees) (hleaves : u.leaves ≠ [])
    (hfield : u.isGroup → u.attrs.field.isSome) : ∃ u' ∈ t'.subtrees, StandsFor u' u := by
  induction h generalizing u with
  | refl => exact ⟨u, hu, .refl _⟩
  | trans _ _ ih ih' =>
      obtain ⟨v, hv, hstands⟩ := ih hu hleaves hfield
      obtain ⟨u', hu', hstands'⟩ := ih' hv (hstands.leaves_eq ▸ hleaves)
        (hstands.field_eq ▸ hstands.isGroup_eq ▸ hfield)
      exact ⟨u', hu', hstands'.trans hstands⟩
  | sides hl hr ihl ihr =>
      rcases mem_subtrees_group.1 hu with rfl | hu | hu
      · exact ⟨_, List.mem_cons_self, .group (.sides hl hr) rfl⟩
      · obtain ⟨u', hu', hstands⟩ := ihl hu hleaves hfield
        exact ⟨u', mem_subtrees_of_left hu', hstands⟩
      · obtain ⟨u', hu', hstands⟩ := ihr hu hleaves hfield
        exact ⟨u', mem_subtrees_of_right hu', hstands⟩
  | drop =>
      obtain rfl := List.mem_singleton.1 hu
      exact absurd (leaves_group ..) hleaves
  | shift =>
      rcases mem_subtrees_group.1 hu with rfl | hu | hu
      · exact ⟨_, List.mem_cons_self, .group .shift rfl⟩
      · cases hu
      · exact ⟨u, mem_subtrees_of_left hu, .refl _⟩
  | absorb hfield' hinner h hoperator =>
      rcases mem_subtrees_group.1 hu with rfl | hu | hu
      · exact ⟨_, List.mem_cons_self, .group (.absorb hfield' hinner h hoperator) hfield'⟩
      · rcases mem_subtrees_group.1 hu with rfl | hu | hu
        -- the group that goes has no field
        · exact absurd (hfield rfl) (by simp [attrs, hinner])
        · exact ⟨u, mem_subtrees_of_left hu, .refl _⟩
        · exact ⟨u, mem_subtrees_of_right hu, .refl _⟩
      · cases hu
  | share hfield' hleaf h =>
      rcases mem_subtrees_group.1 hu with rfl | hu | hu
      · exact ⟨_, List.mem_cons_self, .group (.share hfield' hleaf h) hfield'⟩
      · obtain rfl := List.mem_singleton.1 hu
        exact ⟨_, mem_subtrees_of_left List.mem_cons_self, .leaf hleaf⟩
      · cases hu
  | hoist hnone hleaf =>
      rcases mem_subtrees_group.1 hu with rfl | hu | hu
      · exact absurd (hfield rfl) (by simp [attrs, hnone])
      · obtain rfl := List.mem_singleton.1 hu
        exact ⟨_, List.mem_cons_self, .leaf hleaf⟩
      · cases hu

end Rules

section Tidy

theorem IsTidy.leaves_ne_nil (h : t.IsTidy false) (ht : t ≠ nil) : t.leaves ≠ [] := by
  induction t with
  | nil => exact absurd rfl ht
  | leaf => exact List.cons_ne_nil _ _
  | group id a g l r ihl ihr =>
      rw [leaves_group]
      exact List.append_ne_nil_of_left_ne_nil (ihl h.1 (left_ne_nil_of_check h.2.2)) _

theorem IsTidy.subtree (h : t.IsTidy isRoot) (hu : u ∈ t.subtrees) :
    u = t ∨ (u.IsTidy false ∧ u ≠ nil) := by
  induction t generalizing isRoot with
  | nil => cases hu
  | leaf => exact .inl (List.mem_singleton.1 hu)
  | group id a g l r ihl ihr =>
      have hside {v : Tree} (hv : v.IsTidy false) (hne : u ∈ v.subtrees)
          (ih : v.IsTidy false → u ∈ v.subtrees → u = v ∨ (u.IsTidy false ∧ u ≠ nil)) :
          u.IsTidy false ∧ u ≠ nil := by
        rcases ih hv hne with rfl | h
        · exact ⟨hv, by rintro rfl; cases hne⟩
        · exact h
      rcases mem_subtrees_group.1 hu with rfl | hu | hu
      · exact .inl rfl
      · exact .inr (hside h.1 hu ihl)
      · exact .inr (hside h.2.1 hu ihr)

end Tidy

end Tree

namespace Pass

variable {s : Session} {id : NodeId}

/-- A group with a field is left by tidying up if and only if there is a leaf in it. If it is, its
field and the operation that is noted on it are as they were. -/
theorem cleanup_keeps_field_groups (h : s.store.IsQuery) :
    ∃ s', cleanup.run s.store.root s = (.ok s.store.root, s') ∧ s'.store.IsQuery ∧
      ∀ id ∈ s.store.tree.ids, id ≠ s.store.root → s.store.isGroup id →
        (s.store.attrs id).field.isSome →
        ((id ∈ s'.store.tree.ids ∧ s'.store.isGroup id ∧
          (s'.store.attrs id).field = (s.store.attrs id).field ∧
          s'.store.annotations.get? .operationType id =
            s.store.annotations.get? .operationType id) ↔
          (s.store.view id).leaves ≠ []) := by
  obtain ⟨s', hrun, hs', htree, hroot, hnotes, -⟩ := exists_run_cleanup h
  have htidies := Tree.tidies_cleanup s.store.tree true
  have htidy := Tree.isTidy_cleanup s.store.tree true
  rw [← htree] at htidies htidy
  refine ⟨s', hrun, hs', fun id hid hne hgroup hfield => ⟨fun ⟨hid', _⟩ => ?_, fun hleaves => ?_⟩⟩
  · have hid?' := hs'.id?_view hid'
    obtain ⟨u, hu, hstands⟩ := htidies.exists_origin (hs'.view_mem_subtrees hid')
    rw [h.view_eq_of_mem_subtrees hu (hstands.id?_eq.symm.trans hid?'), ← hstands.leaves_eq]
    rcases htidy.subtree (hs'.view_mem_subtrees hid') with hwhole | ⟨hview, hnil⟩
    · have htop := hs'.id?_view hs'.root_mem
      rw [← Store.tree, ← hwhole, hid?', hroot] at htop
      exact absurd (Option.some.inj htop) hne
    · exact hview.leaves_ne_nil hnil
  · rw [← h.isGroup_view hid] at hgroup
    rw [← h.attrs_view hid] at hfield ⊢
    obtain ⟨u', hu', hstands⟩ :=
      htidies.exists_standing (h.view_mem_subtrees hid) hleaves fun _ => hfield
    have hid?' := hstands.id?_eq.trans (h.id?_view hid)
    have hid' := Tree.mem_ids_of_mem_subtrees hu' hid?'
    have hview := hs'.view_eq_of_mem_subtrees hu' hid?'
    refine ⟨hid', ?_, ?_, by rw [hnotes]⟩
    · rw [← hs'.isGroup_view hid', hview, hstands.isGroup_eq, hgroup]
    · rw [← hs'.attrs_view hid', hview, hstands.field_eq]

/-- In the aggregation `terms:(status min:price)` the group has taken its field from its first
clause, and the other one keeps it. -/
theorem cleanup_keeps_terms_group :
    let named (field : String) : Attributes := { Attributes.plain with field := some field }
    let s₀ : Session := ⟨.ofTree (.group 0 .plain .plain
      (.group 1 (named "terms") ⟨.default, true⟩ (.leaf 2 .plain (.term ⟨"status", .bare⟩))
        (.leaf 3 (named "min") (.term ⟨"price", .bare⟩))) .nil), .empty⟩
    let s := (operations.run s₀.store.root s₀).2
    ∃ s', cleanup.run s.store.root s = (.ok s.store.root, s') ∧ 1 ∈ s'.store.tree.ids ∧
      s'.store.isGroup 1 ∧ (s'.store.attrs 1).field = some "status" ∧
      s'.store.annotations.get? .operationType 1 = some "terms" := by
  intro named s₀ s
  have hs₀ : s₀.store.IsQuery := ⟨Store.wellFormed_ofTree rfl (by decide), by decide⟩
  have hs : s.store.IsQuery := (leavesQuery_run operations hs₀ hs₀.root_mem).isQuery
  obtain ⟨s', hrun, -, hkeeps⟩ := cleanup_keeps_field_groups hs
  obtain ⟨hid, hgroup, hfield, hnote⟩ := (hkeeps 1 (by decide +kernel) (by decide +kernel)
    (by decide +kernel) (by decide +kernel)).2 (by decide +kernel)
  exact ⟨s', hrun, hid, hgroup, hfield.trans (by decide +kernel), hnote.trans (by decide +kernel)⟩

/-- In the aggregation `terms:(status) min:price` nothing is left in the group that has taken its
field from its only clause, and with the group the whole of `terms` goes. -/
theorem cleanup_drops_terms_group :
    let named (field : String) : Attributes := { Attributes.plain with field := some field }
    let s₀ : Session := ⟨.ofTree (.group 0 .plain .plain
      (.group 1 (named "terms") ⟨.default, true⟩ (.leaf 2 .plain (.term ⟨"status", .bare⟩)) .nil)
      (.leaf 3 (named "min") (.term ⟨"price", .bare⟩))), .empty⟩
    let s := (operations.run s₀.store.root s₀).2
    s.store.IsQuery ∧ 1 ∈ s.store.tree.ids ∧ s.store.isGroup 1 ∧
      (s.store.attrs 1).field = some "status" ∧
      s.store.annotations.get? .operationType 1 = some "terms" ∧
      ∃ s', cleanup.run s.store.root s = (.ok s.store.root, s') ∧ 1 ∉ s'.store.tree.ids := by
  intro named s₀ s
  have hs₀ : s₀.store.IsQuery := ⟨Store.wellFormed_ofTree rfl (by decide), by decide⟩
  have htree₀ : s₀.store.tree = _ := Store.tree_ofTree rfl (by decide)
  obtain ⟨s₁, hrun₁, -, htree, hnotes, -⟩ := exists_run_operations hs₀
  have hs₁ : s = s₁ := congrArg Prod.snd hrun₁
  have hs : s₁.store.IsQuery := hs₁ ▸ (leavesQuery_run operations hs₀ hs₀.root_mem).isQuery
  rw [htree₀] at htree hnotes
  rw [hs₁]
  have hemptied : s₁.store.tree = .group 0 .plain .plain
      (.group 1 (named "status") ⟨.default, true⟩ .nil .nil)
      (.leaf 3 (named "price") (.term ⟨"price", .bare⟩)) := htree.trans (by decide +kernel)
  have hid : 1 ∈ s₁.store.tree.ids := by rw [hemptied]; decide
  have hgroup : s₁.store.isGroup 1 := by
    rw [← hs.isGroup_view hid, hs.view_eq_find hid, hemptied]
    rfl
  have hattrs : s₁.store.attrs 1 = named "status" :=
    (hs.mem_nodes_tree.1 (by rw [hemptied]; exact .tail _ (.head _))).2
  obtain ⟨s', hrun, -, htree', -⟩ := exists_run_cleanup hs
  refine ⟨hs, hid, hgroup, congrArg Attributes.field hattrs, hnotes ▸ by decide +kernel, s', hrun,
    ?_⟩
  rw [htree', hemptied]
  decide

end Pass

end SearchQuery
