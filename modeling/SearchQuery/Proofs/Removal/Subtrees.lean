import SearchQuery.Proofs.Removal.Redaction
import SearchQuery.Proofs.Store.Ancestors

/-!
# What dropping fields leaves of a query

Dropping the nodes on unwanted fields is a matter of whole subtrees: a node stays exactly if neither
it nor any node above it is on an unwanted field, `mem_ids_removeBelow_iff`, and what stays is where
it was and as it was, `keeps_removeBelow`. Only the root cannot go: on an unwanted field it is left
alone and without its field, `emptied_of_holds`. Both together are what a run of the pass leaves,
`Pass.removal_of_subtrees`.
-/

namespace SearchQuery

namespace Tree

variable {unwanted : String → Bool} {x : NodeId}

theorem id?_of_id?_removeBelow {t : Tree} (h : (t.removeBelow unwanted).id? = some x) :
    t.id? = some x := by
  cases t with
  | nil => exact h
  | leaf =>
      rw [removeBelow] at h
      split at h
      · cases h
      · exact h
  | group =>
      rw [removeBelow] at h
      split at h
      · cases h
      · exact h

/-- The top of a tree stays where it cannot go. -/
theorem id?_removeFields (unwanted : String → Bool) (t : Tree) :
    (t.removeFields unwanted true).id? = t.id? := by
  rw [removeFields, Bool.true_and]
  split
  · cases t <;> rfl
  · next hwanted =>
      cases t with
      | nil => rfl
      | leaf id a l => rw [removeBelow, if_neg (show ¬ isUnwanted unwanted a = true from hwanted)]
      | group id a g l r =>
          rw [removeBelow, if_neg (show ¬ isUnwanted unwanted a = true from hwanted)]
          rfl

end Tree

namespace Store

variable {s s' : Store} {unwanted : String → Bool} {t : Tree} {x : NodeId}

def IsOn (s : Store) (unwanted : String → Bool) (x : NodeId) : Prop :=
  ∃ name, (s.attrs x).field = some name ∧ name ≠ "" ∧ unwanted name

/-- The node is the same in both stores, in the same slot of the same group. -/
structure Keeps (s s' : Store) (x : NodeId) : Prop where
  label_eq : s'.label? x = s.label? x
  parent_eq : s'.parent? x = s.parent? x
  slot_iff : ∀ side parent, s'.slot? side parent = some x ↔ s.slot? side parent = some x

theorem isOn_iff : s.IsOn unwanted x ↔ Tree.isUnwanted unwanted (s.attrs x) = true := by
  rw [Tree.isUnwanted, Attributes.fieldName?, Option.any_eq_true]
  simp [IsOn, Option.filter_eq_some_iff, and_assoc]

theorem isWanted_iff (h : s.Holds none t) {spot : Spot} {rest : List Spot}
    (hpath : spot :: rest ∈ t.paths []) :
    Tree.isWanted unwanted (spot :: rest) ↔
      ∀ y, Relation.ReflTransGen s.Hangs spot.id y → ¬ s.IsOn unwanted y := by
  rw [Tree.isWanted, List.all_eq_true]
  constructor
  · intro hall y hy
    obtain ⟨other, hmem, rfl⟩ := (h.reflTransGen_hangs_iff hpath).1 hy
    simpa [isOn_iff, h.attrs_of_mem_paths hpath hmem] using hall other hmem
  · intro hup other hmem
    have hother := hup other.id ((h.reflTransGen_hangs_iff hpath).2 ⟨other, hmem, rfl⟩)
    simpa [isOn_iff, h.attrs_of_mem_paths hpath hmem] using hother

/-- What stays are the nodes that neither are on an unwanted field nor lie below one that is. -/
theorem mem_ids_removeBelow_iff (h : s.Holds none t) :
    x ∈ (t.removeBelow unwanted).ids ↔
      x ∈ t.ids ∧ ∀ y, Relation.ReflTransGen s.Hangs x y → ¬ s.IsOn unwanted y := by
  rw [Tree.mem_ids_iff_exists_path [], Tree.mem_ids_iff_exists_path [], Tree.paths_removeBelow rfl]
  constructor
  · rintro ⟨path, hpath, spot, hspot, rfl⟩
    obtain ⟨hpath, hwanted⟩ := List.mem_filter.1 hpath
    obtain ⟨rest, rfl⟩ := List.head?_eq_some_iff.1 hspot
    exact ⟨⟨_, hpath, spot, hspot, rfl⟩, (isWanted_iff h hpath).1 hwanted⟩
  · rintro ⟨⟨path, hpath, spot, hspot, rfl⟩, hup⟩
    obtain ⟨rest, rfl⟩ := List.head?_eq_some_iff.1 hspot
    exact ⟨_, List.mem_filter.2 ⟨hpath, (isWanted_iff h hpath).2 hup⟩, spot, hspot, rfl⟩

theorem slot?_of_slot?_removeBelow {parent : Option NodeId} (h : s.Holds parent t)
    (h' : s'.Holds parent (t.removeBelow unwanted)) {y : NodeId}
    (hy : y ∈ (t.removeBelow unwanted).ids) {side : Tree.Side}
    (hslot : s'.slot? side y = some x) : s.slot? side y = some x := by
  induction t generalizing parent with
  | nil => cases hy
  | leaf id a l =>
      by_cases hunwanted : Tree.isUnwanted unwanted a
      · rw [Tree.removeBelow, if_pos hunwanted] at hy
        cases hy
      · rw [Tree.removeBelow, if_neg hunwanted] at h' hy
        obtain rfl := List.mem_singleton.1 hy
        rw [slot?_of_node? h'] at hslot
        rwa [slot?_of_node? h]
  | group id a g l r ihl ihr =>
      by_cases hunwanted : Tree.isUnwanted unwanted a
      · rw [Tree.removeBelow, if_pos hunwanted] at hy
        cases hy
      · rw [Tree.removeBelow, if_neg hunwanted] at h' hy
        obtain ⟨hn, hl, hr⟩ := h
        obtain ⟨hn', hl', hr'⟩ := h'
        rw [Tree.ids, List.mem_cons, List.mem_append] at hy
        rcases hy with rfl | hy | hy
        · rw [slot?_of_node? hn'] at hslot
          rw [slot?_of_node? hn]
          cases side with
          | left => exact Tree.id?_of_id?_removeBelow hslot
          | right => exact Tree.id?_of_id?_removeBelow hslot
        · exact ihl hl hl' hy
        · exact ihr hr hr' hy

theorem keeps_removeBelow (hs : s.WellFormed) (hs' : s'.WellFormed) (h : s.Holds none t)
    (h' : s'.Holds none (t.removeBelow unwanted)) (hx : x ∈ (t.removeBelow unwanted).ids) :
    s.Keeps s' x := by
  -- the path of the node is the same in both trees
  obtain ⟨path, hpath', spot, hspot, rfl⟩ := (Tree.mem_ids_iff_exists_path []).1 hx
  obtain ⟨rest, rfl⟩ := List.head?_eq_some_iff.1 hspot
  have hpath : spot :: rest ∈ t.paths [] := by
    rw [Tree.paths_removeBelow rfl] at hpath'
    exact (List.mem_filter.1 hpath').1
  have hlabels := (h'.label?_of_mem_paths hpath' List.mem_cons_self).trans
    (h.label?_of_mem_paths hpath List.mem_cons_self).symm
  have hparents := (h'.parent?_of_mem_paths hpath').trans (h.parent?_of_mem_paths hpath).symm
  -- the group that holds it is left too, since it is on its path
  have hdown : ∀ {side parent}, s'.slot? side parent = some spot.id →
      s.slot? side parent = some spot.id := by
    intro side parent hslot
    have hhangs := hs'.hangs_of_slot hslot
    rcases h'.of_mem hx with ⟨-, hnone⟩ | ⟨y, hy, hxy, -⟩
    · exact absurd (hhangs.symm.trans hnone) (Option.some_ne_none parent)
    · obtain rfl := hangs_unique hxy hhangs
      exact slot?_of_slot?_removeBelow h h' hy hslot
  refine ⟨hlabels, hparents, fun side parent => ⟨hdown, fun hslot => ?_⟩⟩
  have hhangs : s'.Hangs spot.id parent := hparents.trans (hs.hangs_of_slot hslot)
  obtain ⟨side', hslot'⟩ := hs'.slot_of_hangs hhangs
  -- it cannot have changed sides, as it was in one slot only
  cases side with
  | left =>
      cases side' with
      | left => exact hslot'
      | right => exact absurd (hdown hslot') (hs.left_ne_right hslot)
  | right =>
      cases side' with
      | left => exact absurd hslot (hs.left_ne_right (hdown hslot'))
      | right => exact hslot'

/-- An emptied tree is its top, with nothing in its slots and on no field. -/
theorem emptied_of_holds {id : NodeId} (hid : t.id? = some id) (h : s.Holds none t.emptied) :
    t.emptied.ids = [id] ∧ (∀ side, s.slot? side id = none) ∧ (s.attrs id).field = none := by
  cases t with
  | nil => cases hid
  | leaf i a l =>
      cases hid
      refine ⟨rfl, fun side => ?_, ?_⟩
      · rw [slot?_of_node? h]
        cases side <;> rfl
      · rw [attrs_of_label? (label?_of_node? h)]
  | group i a g l r =>
      cases hid
      refine ⟨rfl, fun side => ?_, ?_⟩
      · rw [slot?_of_node? h.1]
        cases side <;> rfl
      · rw [attrs_of_label? (label?_of_node? h.1)]

end Store

namespace Pass

/-- Dropping fields from the root on leaves the root alone if it is on an unwanted field. Otherwise
the nodes that are left are those that neither are on an unwanted field nor lie below a node that
is, and each of them is what it was, in the slot it was in. -/
theorem removal_of_subtrees (unwanted : String → Bool) {s : Session} (h : s.store.IsQuery) :
    ∃ s', (removal unwanted).run s.store.root s = (.ok s.store.root, s') ∧
      s'.store.root = s.store.root ∧ s'.store.IsQuery ∧
      (s.store.IsOn unwanted s.store.root →
        s'.store.tree.ids = [s.store.root] ∧
          (∀ side, s'.store.slot? side s.store.root = none) ∧
          (s'.store.attrs s.store.root).field = none) ∧
      (¬ s.store.IsOn unwanted s.store.root →
        (∀ x, x ∈ s'.store.tree.ids ↔ x ∈ s.store.tree.ids ∧
          ∀ y, Relation.ReflTransGen s.store.Hangs x y → ¬ s.store.IsOn unwanted y) ∧
        ∀ x ∈ s'.store.tree.ids, s.store.Keeps s'.store x) := by
  obtain ⟨s', hrun, hquery, htree⟩ := exists_run_removal unwanted h
  have hid : s.store.tree.id? = some s.store.root := h.id?_view h.root_mem
  have hid' : s'.store.tree.id? = some s'.store.root := hquery.id?_view hquery.root_mem
  have hholds := h.holds_tree
  have hholds' := hquery.holds_tree
  have hattrs : s.store.attrs s.store.root = s.store.tree.attrs :=
    (h.attrs_view h.root_mem).symm
  have hroot : s'.store.root = s.store.root := by
    rw [htree, Tree.id?_removeFields, hid] at hid'
    exact (Option.some.inj hid').symm
  refine ⟨s', hroot ▸ hrun, hroot, hquery, fun hon => ?_, fun hon => ?_⟩
  · rw [Store.isOn_iff, hattrs] at hon
    have hemptied : s'.store.tree = s.store.tree.emptied := by
      rw [htree, Tree.removeFields, hon]
      rfl
    rw [hemptied] at hholds' ⊢
    exact Store.emptied_of_holds hid hholds'
  · rw [Store.isOn_iff, hattrs] at hon
    have hremoved : s'.store.tree = s.store.tree.removeBelow unwanted := by
      rw [htree, Tree.removeFields, Bool.true_and, if_neg hon]
    rw [hremoved] at hholds' ⊢
    exact ⟨fun x => Store.mem_ids_removeBelow_iff hholds, fun x hx =>
      Store.keeps_removeBelow h.wellFormed hquery.wellFormed hholds hholds' hx⟩

/-- The query `b:x AND c:(d OR b:(e f))` without the field `b`, and the same clauses in a query that
is on `b` itself. -/
theorem removal_of_subtrees_of_field :
    let query (field : Option String) : Session :=
      ⟨.ofTree (.group 0 { Attributes.plain with field := field } ⟨.and, false⟩
        (.leaf 1 { Attributes.plain with field := some "b" } (.term ⟨"x", .bare⟩))
        (.group 2 { Attributes.plain with field := some "c" } ⟨.or, true⟩
          (.leaf 3 .plain (.term ⟨"d", .bare⟩))
          (.group 4 { Attributes.plain with field := some "b" } ⟨.default, true⟩
            (.leaf 5 .plain (.term ⟨"e", .bare⟩)) (.leaf 6 .plain (.term ⟨"f", .bare⟩))))),
        .empty⟩
    (∀ field, (query field).store.IsQuery) ∧
      (∃ s', (removal (· = "b")).run 0 (query none) = (.ok 0, s') ∧
        s'.store.tree.ids = [0, 2, 3] ∧ s'.store.slot? .right 0 = some 2 ∧
        s'.store.slot? .left 2 = some 3) ∧
      ∃ s', (removal (· = "b")).run 0 (query (some "b")) = (.ok 0, s') ∧
        s'.store.tree.ids = [0] ∧ (s'.store.attrs 0).field = none := by
  intro query
  have hnodup : [0, 1, 2, 3, 4, 5, 6].Nodup := by decide
  have hquery : ∀ field, (query field).store.IsQuery := fun field =>
    ⟨Store.wellFormed_ofTree rfl hnodup, Store.isGroup_ofTree hnodup⟩
  refine ⟨hquery, ?_, ?_⟩
  · obtain ⟨s', hrun, -, -, -, hwanted⟩ := removal_of_subtrees (· = "b") (hquery none)
    obtain ⟨-, hkeeps⟩ := hwanted (by rintro ⟨_, ⟨⟩, -⟩)
    have hids : s'.store.tree.ids = [0, 2, 3] :=
      (congrArg (fun outcome => outcome.2.store.tree.ids) hrun).symm.trans (by decide +kernel)
    exact ⟨s', hrun, hids,
      ((hkeeps 2 (by rw [hids]; decide)).slot_iff .right 0).2 (by decide +kernel),
      ((hkeeps 3 (by rw [hids]; decide)).slot_iff .left 2).2 (by decide +kernel)⟩
  · obtain ⟨s', hrun, -, -, hunwanted, -⟩ := removal_of_subtrees (· = "b") (hquery (some "b"))
    obtain ⟨hids, -, hfield⟩ := hunwanted ⟨"b", rfl, by decide, rfl⟩
    exact ⟨s', hrun, hids, hfield⟩

end Pass

end SearchQuery
