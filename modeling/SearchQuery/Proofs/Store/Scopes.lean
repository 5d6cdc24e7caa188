import SearchQuery.Proofs.Query.Fields
import SearchQuery.Proofs.Store.Query
import SearchQuery.Proofs.Store.Walks

/-!
# Fields asked about, part by part

The fields that a tree asks about are collected by one walk over all of it, with a stack of the fields
of the groups around. They can be put together from the parts of the tree as well, as long as each
part is looked at in the scope that its group gives it: a group asks about its own field and about what
its children ask about there. Link groups give no scope of their own, so the clauses of a group can
stand for its children, `referencedFields_of_parts`.
-/

namespace SearchQuery

namespace Store

variable {s : Store} {id : NodeId} {inherited : Option String} {field : String}

def referencedFields (s : Store) (inherited : Option String) (id : NodeId) : NameSet :=
  (s.view id).referencedFields inherited

theorem mem_referencedFields_iff : field ∈ s.referencedFields inherited id ↔
    (s.view id).Asks field inherited :=
  Tree.mem_referencedFields_iff

theorem scope_of_isLink (h : s.isLink id) (inherited : Option String) :
    (s.attrs id).fieldName? = none ∧ (s.attrs id).scope inherited = inherited := by
  obtain ⟨a, g, l, r, p, hn, hlink⟩ := exists_node?_of_isLink h
  simp only [Group.isLink, Bool.and_eq_true, Option.isNone_iff_eq_none] at hlink
  have hnone : a.field = none := hlink.1.1.2
  rw [attrs_of_node? hn]
  exact ⟨by rw [Attributes.fieldName?, hnone]; rfl, Attributes.scope_of_field_eq_none hnone _⟩

/-- A leaf asks about its own field or the one in scope. -/
theorem referencedFields_of_not_isGroup (hid : id < s.next) (h : ¬ s.isGroup id) :
    s.referencedFields inherited id = .ofList [((s.attrs id).scope inherited).getD ""] := by
  obtain ⟨⟨a, content, p⟩, hn⟩ := exists_node?_of_lt hid
  cases content with
  | leaf l =>
      refine NameSet.ext fun field => ?_
      rw [mem_referencedFields_iff, WellFormed.view_leaf hn, attrs_of_node? hn, NameSet.mem_ofList,
        List.mem_singleton]
      rfl
  | group g l r => exact absurd (isGroup_of_node? hn) h

namespace WellFormed

theorem mem_referencedFields_of_isGroup (h : s.WellFormed) (hgroup : s.isGroup id) :
    field ∈ s.referencedFields inherited id ↔ (s.attrs id).fieldName? = some field ∨
      ∃ c ∈ s.children id, field ∈ s.referencedFields ((s.attrs id).scope inherited) c := by
  have hslot : ∀ (slot : Option NodeId) (scope : Option String),
      (slot.elim .nil s.view).Asks field scope ↔
        ∃ c ∈ slot.toList, field ∈ s.referencedFields scope c := by
    intro slot scope
    cases slot with
    | none => simp [Tree.Asks]
    | some c => simp [mem_referencedFields_iff]
  obtain ⟨a, g, l, r, p, hn⟩ := exists_node?_of_isGroup hgroup
  rw [mem_referencedFields_iff, h.view_group hn, Tree.Asks, hslot, hslot,
    children_of_node?_group hn, attrs_of_node? hn]
  simp only [List.mem_append, or_and_right, exists_or]

/-- Asking the clauses of a node is asking its children. -/
theorem exists_mem_sequence_iff (h : s.WellFormed) (hid : id < s.next) :
    (∃ c ∈ s.sequence id, field ∈ s.referencedFields inherited c) ↔
      ∃ c ∈ s.children id, field ∈ s.referencedFields inherited c := by
  refine h.induction_below (motive := fun id =>
    (∃ c ∈ s.sequence id, field ∈ s.referencedFields inherited c) ↔
      ∃ c ∈ s.children id, field ∈ s.referencedFields inherited c) ?_ hid
  intro id hid ih
  have hchild : ∀ c ∈ s.children id,
      ((∃ d ∈ if s.isLink c then s.sequence c else [c], field ∈ s.referencedFields inherited d) ↔
        field ∈ s.referencedFields inherited c) := by
    intro c hc
    split
    · next hlink =>
        obtain ⟨hfield, hscope⟩ := scope_of_isLink hlink inherited
        rw [ih c hc, h.mem_referencedFields_of_isGroup (isGroup_of_isLink hlink), hfield, hscope]
        simp
    · simp
  rw [h.sequence_eq hid]
  simp only [List.mem_flatMap]
  constructor
  · rintro ⟨d, ⟨c, hc, hd⟩, hfield⟩
    exact ⟨c, hc, (hchild c hc).1 ⟨d, hd, hfield⟩⟩
  · rintro ⟨c, hc, hfield⟩
    obtain ⟨d, hd, hfield⟩ := (hchild c hc).2 hfield
    exact ⟨d, ⟨c, hc, hd⟩, hfield⟩

/-- A leaf asks about its own field, else about the one in scope, else about the empty name. A group
asks about its own field, if it has one, and about what its children ask about, or its clauses, where
its own field comes into scope if it has one. -/
theorem referencedFields_of_parts (h : s.WellFormed) (hid : id < s.next)
    (inherited : Option String) :
    (¬ s.isGroup id → s.referencedFields inherited id =
      .ofList [((s.attrs id).scope inherited).getD ""]) ∧
    (s.isGroup id → s.referencedFields inherited id =
      .ofList ((s.attrs id).fieldName?.toList ++ (s.children id).flatMap fun c =>
        (s.referencedFields ((s.attrs id).scope inherited) c).names)) ∧
    (s.isGroup id → s.referencedFields inherited id =
      .ofList ((s.attrs id).fieldName?.toList ++ (s.sequence id).flatMap fun c =>
        (s.referencedFields ((s.attrs id).scope inherited) c).names)) := by
  refine ⟨referencedFields_of_not_isGroup hid, fun hgroup => ?_, fun hgroup => ?_⟩
  · refine NameSet.ext fun field => ?_
    rw [h.mem_referencedFields_of_isGroup hgroup, NameSet.mem_ofList, List.mem_append,
      Option.mem_toList, List.mem_flatMap]
    rfl
  · refine NameSet.ext fun field => ?_
    rw [h.mem_referencedFields_of_isGroup hgroup, ← h.exists_mem_sequence_iff hid,
      NameSet.mem_ofList, List.mem_append, Option.mem_toList, List.mem_flatMap]
    rfl

/-- In `status:(open x:1 closed)` the clauses of the group are asked in the scope of `status`, also
those that hang in a link group. -/
theorem referencedFields_of_status_group :
    let term (id : NodeId) (field : Option String) (text : String) : Tree :=
      .leaf id { Attributes.plain with field := field } (.term ⟨text, .bare⟩)
    let s := ofTree (.group 0 .plain .plain
      (.group 1 { Attributes.plain with field := some "status" } ⟨.default, true⟩
        (term 2 none "open")
        (.group 3 .plain .plain (term 4 (some "x") "1") (term 5 none "closed"))) .nil)
    (s.WellFormed ∧ 1 < s.next ∧ s.isGroup 1 ∧ ¬ s.isGroup 5) ∧
      s.referencedFields (some "status") 5 = .ofList ["status"] ∧
      s.referencedFields (some "title") 1 = .ofList ("status" ::
        ([2, 4, 5] : List NodeId).flatMap fun c => (s.referencedFields (some "status") c).names) := by
  intro term s
  have hwell : s.WellFormed := wellFormed_ofTree rfl (by decide)
  have hquery : s.IsQuery := ⟨hwell, isGroup_ofTree (by decide)⟩
  have htree : s.tree = _ := tree_ofTree rfl (by decide)
  have hview : ∀ id ∈ s.tree.ids, s.view id = s.tree.find id := fun _ => hquery.view_eq_find
  have hattrs : ∀ id ∈ s.tree.ids, s.attrs id = (s.tree.find id).attrs := fun id hid => by
    rw [← hview id hid, hquery.attrs_view hid]
  rw [htree] at hview hattrs
  have hsequence : s.sequence 1 = [2, 4, 5] := by
    rw [sequence, hview 1 (by decide)]
    exact congrArg (List.filterMap Tree.id?) (Tree.clauses_eq_opened (by decide) (by decide))
  have hfield : (s.attrs 1).fieldName? = some "status" := by
    rw [hattrs 1 (by decide)]
    decide
  have hplain : s.attrs 5 = .plain := hattrs 5 (by decide)
  have hfive : 5 < s.next := by decide
  have hone : 1 < s.next := by decide
  have hleaf := (hwell.referencedFields_of_parts hfive (some "status")).1 (by decide)
  have hgroup := (hwell.referencedFields_of_parts hone (some "title")).2.2 (by decide)
  rw [hplain, Attributes.scope_plain, Option.getD_some] at hleaf
  rw [hsequence, Attributes.scope, hfield, Option.some_or, Option.toList_some,
    List.singleton_append] at hgroup
  exact ⟨⟨hwell, hone, by decide, by decide⟩, hleaf, hgroup⟩

end WellFormed

end Store

end SearchQuery
