import Mathlib.Order.Bounds.Basic
import Mathlib.Order.MinMax
import SearchQuery.Proofs.Query.Paths
import SearchQuery.Proofs.Validation.Tables
import SearchQuery.Validation.Findings

/-!
# What a walk finds

The walk over a tree carries a depth and the operations of the groups around, and both can be told
from the path of the node at hand. So the walk visits the paths of the tree one after another,
`walk_collector`, and each of its findings says what is at the end of some path: the depth, the
fields that a node asks about (`Asks`), the operations that apply to it (`Applies`), and terms.
-/

namespace SearchQuery

/-- Whether a node adds to the depth. The root does, and groups in parentheses do. -/
def Spot.deepens (root : NodeId) (spot : Spot) : Bool :=
  match spot.label with
  | .inl _ => false
  | .inr g => spot.id = root || g.parens

namespace Findings

def Setting.depthOn (s : Setting) (path : List Spot) : Nat :=
  path.countP (·.deepens s.root)

/-- A node asks about a field: its own, if it has one, and a leaf without a field about all default
fields, or about the one without a name if there are none. -/
inductive Asks (s : Setting) : Spot → String → Prop
  | own {spot field} (h : spot.attrs.fieldName? = some field) : Asks s spot field
  | default {id a l field} (h : a.fieldName? = Option.none) (hfield : field ∈ s.defaultFields) :
      Asks s ⟨id, a, .inl l⟩ field
  | unnamed {id a l} (h : a.fieldName? = Option.none) (hnone : s.defaultFields = []) :
      Asks s ⟨id, a, .inl l⟩ ""

/-- An operation applies to the node of a path: the one that is noted on it. To a leaf without a
note the kind of leaf applies in a query, and otherwise what is noted on the nearest group
around. -/
inductive Applies (s : Setting) : List Spot → String → Prop
  | noted {spot above operation} (h : s.operation? spot.id = some operation) :
      Applies s (spot :: above) operation
  | kind {id a l above} (h : s.operation? id = Option.none) (hquery : s.queryType = .query) :
      Applies s (⟨id, a, .inl l⟩ :: above) l.label
  | around {id a l above operation} (h : s.operation? id = Option.none)
      (hother : s.queryType ≠ .query)
      (haround : (above.findSome? fun group => s.operation? group.id) = some operation) :
      Applies s (⟨id, a, .inl l⟩ :: above) operation

variable {s : Setting} {f : Findings} {id : NodeId} {a : Attributes} {g : Group} {l : Leaf}
  {above path : List Spot} {name operation : String}

theorem asks_group : Asks s ⟨id, a, .inr g⟩ name ↔ a.fieldName? = some name := by
  constructor
  · rintro (h | h | h)
    exact h
  · exact fun h => .own h

theorem asks_leaf : Asks s ⟨id, a, .inl l⟩ name ↔ name ∈ s.leafFields a := by
  rw [Setting.leafFields]
  cases hfield : a.fieldName? with
  | some field =>
      constructor
      · rintro (h | h | h)
        · exact List.mem_singleton.2 (Option.some.inj (h.symm.trans hfield))
        · exact nomatch h.symm.trans hfield
        · exact nomatch h.symm.trans hfield
      · intro h
        exact .own (hfield.trans (congrArg some (List.mem_singleton.1 h).symm))
  | none =>
      dsimp only
      by_cases hnil : s.defaultFields = []
      · rw [if_pos hnil, List.mem_singleton]
        constructor
        · rintro (h | ⟨-, hmem⟩ | -)
          · exact nomatch h.symm.trans hfield
          · exact absurd hnil (List.ne_nil_of_mem hmem)
          · rfl
        · rintro rfl
          exact .unnamed hfield hnil
      · rw [if_neg hnil]
        constructor
        · rintro (h | ⟨-, hmem⟩ | ⟨-, hnone⟩)
          · exact nomatch h.symm.trans hfield
          · exact hmem
          · exact absurd hnone hnil
        · exact .default hfield

theorem applies_group : Applies s (⟨id, a, .inr g⟩ :: above) operation ↔
    s.operation? id = some operation := by
  constructor
  · rintro (h | h | h)
    exact h
  · exact fun h => .noted h

theorem applies_leaf : Applies s (⟨id, a, .inl l⟩ :: above) operation ↔
    (s.operation? id).or
      (s.impliedOperation? l (above.map fun group => s.operation? group.id)) = some operation := by
  rw [Setting.impliedOperation?, List.findSome?_map]
  cases hnoted : s.operation? id with
  | some noted =>
      constructor
      · rintro (h | h | h)
        · exact hnoted.symm.trans h
        · exact nomatch h.symm.trans hnoted
        · exact nomatch h.symm.trans hnoted
      · exact fun h => .noted (hnoted.trans h)
  | none =>
      rw [Option.none_or]
      by_cases hquery : s.queryType = .query
      · rw [if_pos hquery]
        constructor
        · rintro (h | h | ⟨-, hother, -⟩)
          · exact nomatch h.symm.trans hnoted
          · rfl
          · exact absurd hquery hother
        · exact fun h => Option.some.inj h ▸ .kind hnoted hquery
      · rw [if_neg hquery]
        constructor
        · rintro (h | ⟨-, hq⟩ | ⟨-, -, haround⟩)
          · exact nomatch h.symm.trans hnoted
          · exact absurd hq hquery
          · exact haround
        · exact .around hnoted hquery

def visit (s : Setting) (f : Findings) : List Spot → Findings
  | [] => f
  | ⟨id, a, .inl l⟩ :: above => f.addLeaf s id a l (above.map fun group => s.operation? group.id)
  | ⟨id, a, .inr g⟩ :: above =>
      addGroup s id a
        { f with maxDepth := max f.maxDepth (s.depthOn (⟨id, a, .inr g⟩ :: above)) }

theorem depthOn_group : s.depthOn (⟨id, a, .inr g⟩ :: above) =
    if s.countsDepth id g then s.depthOn above + 1 else s.depthOn above := by
  have hdeepens : Spot.deepens s.root ⟨id, a, .inr g⟩ = s.countsDepth id g := rfl
  rw [Setting.depthOn, List.countP_cons, hdeepens]
  split <;> rfl

theorem depthOn_leaf : s.depthOn (⟨id, a, .inl l⟩ :: above) = s.depthOn above := by
  rw [Setting.depthOn, List.countP_cons_of_neg Bool.false_ne_true]
  rfl

/-- The walk visits the paths of the tree, and comes back to where it was. -/
theorem walk_collector (s : Setting) (t : Tree) (above : List Spot) (f : Findings) :
    t.walk (collector s) ⟨s.depthOn above, above.map fun group => s.operation? group.id, f⟩ =
      ⟨s.depthOn above, above.map fun group => s.operation? group.id,
        (t.paths above).foldl (visit s) f⟩ := by
  induction t generalizing above f with
  | nil => rfl
  | leaf => rfl
  | group id a g l r ihl ihr =>
      let here := ⟨id, a, .inr g⟩ :: above
      have henter : (collector s).enter id a g
          ⟨s.depthOn above, above.map fun group => s.operation? group.id, f⟩ =
            (⟨s.depthOn here, here.map fun group => s.operation? group.id, visit s f here⟩,
              true) := by
        rw [visit, depthOn_group]
        rfl
      have hleave : ∀ f, (collector s).leave id a g
          ⟨s.depthOn here, here.map fun group => s.operation? group.id, f⟩ =
            ⟨s.depthOn above, above.map fun group => s.operation? group.id, f⟩ := by
        intro f
        simp only [collector, here, depthOn_group, List.map_cons, List.tail_cons]
        split <;> rfl
      rw [Tree.walk, henter]
      dsimp only
      rw [if_pos rfl, ihl, ihr, hleave, Tree.paths_group, List.foldl_cons, List.foldl_append]

theorem findings_eq (s : Setting) (t : Tree) :
    t.findings s = (t.paths []).foldl (visit s) .none :=
  congrArg Walk.found (walk_collector s t [] .none)

section Use

variable (f : Findings) (o : Option String) (fields : List String)

@[simp] theorem maxDepth_use : (f.use o fields).maxDepth = f.maxDepth := by
  cases o <;> rfl

@[simp] theorem fields_use : (f.use o fields).fields = f.fields := by
  cases o <;> rfl

@[simp] theorem unresolved_use : (f.use o fields).unresolved = f.unresolved := by
  cases o <;> rfl

@[simp] theorem leadingWildcards_use :
    (f.use o fields).leadingWildcards = f.leadingWildcards := by
  cases o <;> rfl

@[simp] theorem invalidPatterns_use : (f.use o fields).invalidPatterns = f.invalidPatterns := by
  cases o <;> rfl

theorem files_use : (f.use o fields).operations.Files operation name ↔
    f.operations.Files operation name ∨ (o = some operation ∧ name ∈ fields) := by
  cases o with
  | none => simp [use]
  | some noted => rw [use, NameTable.files_add, eq_comm, Option.some.injEq]

end Use

section AddTerm

variable (s : Setting) (f : Findings) (l : Leaf)

@[simp] theorem maxDepth_addTerm : (f.addTerm s l).maxDepth = f.maxDepth := by
  cases l <;> rfl

@[simp] theorem fields_addTerm : (f.addTerm s l).fields = f.fields := by
  cases l <;> rfl

@[simp] theorem operations_addTerm : (f.addTerm s l).operations = f.operations := by
  cases l <;> rfl

@[simp] theorem unresolved_addTerm : (f.addTerm s l).unresolved = f.unresolved := by
  cases l <;> rfl

theorem mem_leadingWildcards_addTerm : name ∈ (f.addTerm s l).leadingWildcards ↔
    name ∈ f.leadingWildcards ∨ ∃ t, l = .term t ∧ t.hasLeadingWildcard ∧ name = t.text := by
  cases l with
  | term t =>
      rw [addTerm]
      by_cases h : t.hasLeadingWildcard <;> simp [h]
  | _ => simp [addTerm]

theorem mem_invalidPatterns_addTerm : name ∈ (f.addTerm s l).invalidPatterns ↔
    name ∈ f.invalidPatterns ∨
      ∃ t, l = .term t ∧ t.style = .pattern ∧ s.isPattern t.text = false ∧ name = t.text := by
  cases l with
  | term t =>
      rw [addTerm]
      by_cases h : t.style = .pattern <;> cases hvalid : s.isPattern t.text <;>
        simp [h, hvalid]
  | _ => simp [addTerm]

end AddTerm

/-- What is not about fields is left alone at a group. -/
theorem addGroup_eq (s : Setting) (id : NodeId) (a : Attributes) (f : Findings) :
    (addGroup s id a f).maxDepth = f.maxDepth ∧
      (addGroup s id a f).leadingWildcards = f.leadingWildcards ∧
      (addGroup s id a f).invalidPatterns = f.invalidPatterns := by
  rw [addGroup]
  cases a.fieldName? <;> simp

theorem le_maxDepth_visit {n : Nat} : n ≤ (visit s f path).maxDepth ↔
    n ≤ f.maxDepth ∨ ∃ spot ∈ path.head?, spot.label.isRight ∧ n ≤ s.depthOn path := by
  match path with
  | [] => simp [visit]
  | ⟨id, a, .inl l⟩ :: above => simp [visit, addLeaf]
  | ⟨id, a, .inr g⟩ :: above => simp [visit, addGroup_eq]

theorem mem_fields_visit : name ∈ (visit s f path).fields ↔
    name ∈ f.fields ∨ ∃ spot ∈ path.head?, Asks s spot name := by
  match path with
  | [] => simp [visit]
  | ⟨id, a, .inl l⟩ :: above => simp [visit, addLeaf, asks_leaf, or_comm]
  | ⟨id, a, .inr g⟩ :: above =>
      rw [visit, addGroup]
      cases hfield : a.fieldName? <;> simp [asks_group, hfield, @eq_comm _ name, or_comm]

theorem files_visit : (visit s f path).operations.Files operation name ↔
    f.operations.Files operation name ∨
      ∃ spot ∈ path.head?, Applies s path operation ∧ Asks s spot name := by
  match path with
  | [] => simp [visit]
  | ⟨id, a, .inl l⟩ :: above => simp [visit, addLeaf, files_use, asks_leaf, applies_leaf]
  | ⟨id, a, .inr g⟩ :: above =>
      rw [visit, addGroup]
      cases hfield : a.fieldName? <;>
        simp [files_use, asks_group, applies_group, hfield, @eq_comm _ name]

theorem mem_unresolved_visit : name ∈ (visit s f path).unresolved ↔
    name ∈ f.unresolved ∨
      ∃ spot ∈ path.head?, s.isUnresolved spot.id ∧ spot.attrs.fieldName? = some name := by
  match path with
  | [] => simp [visit]
  | ⟨id, a, .inl l⟩ :: above =>
      by_cases h : s.isUnresolved id <;> simp [visit, addLeaf, h, or_comm]
  | ⟨id, a, .inr g⟩ :: above =>
      rw [visit, addGroup]
      by_cases h : s.isUnresolved id <;> cases hfield : a.fieldName? <;>
        simp [h, hfield, @eq_comm _ name, or_comm]

theorem mem_leadingWildcards_visit : name ∈ (visit s f path).leadingWildcards ↔
    name ∈ f.leadingWildcards ∨ ∃ spot ∈ path.head?, ∃ t, spot.label = .inl (.term t) ∧
      t.hasLeadingWildcard ∧ name = t.text := by
  match path with
  | [] => simp [visit]
  | ⟨id, a, .inl l⟩ :: above => simp [visit, addLeaf, mem_leadingWildcards_addTerm]
  | ⟨id, a, .inr g⟩ :: above => simp [visit, addGroup_eq]

theorem mem_invalidPatterns_visit : name ∈ (visit s f path).invalidPatterns ↔
    name ∈ f.invalidPatterns ∨ ∃ spot ∈ path.head?, ∃ t, spot.label = .inl (.term t) ∧
      t.style = .pattern ∧ s.isPattern t.text = false ∧ name = t.text := by
  match path with
  | [] => simp [visit]
  | ⟨id, a, .inl l⟩ :: above => simp [visit, addLeaf, mem_invalidPatterns_addTerm]
  | ⟨id, a, .inr g⟩ :: above => simp [visit, addGroup_eq]

theorem tidy_use {fields : List String} {o : Option String} (h : f.operations.Tidy)
    (hfields : fields ≠ []) : (f.use o fields).operations.Tidy := by
  cases o with
  | none => exact h
  | some operation => exact h.add hfields

theorem leafFields_ne_nil (s : Setting) (a : Attributes) : s.leafFields a ≠ [] := by
  rw [Setting.leafFields]
  cases a.fieldName? with
  | some field => exact List.cons_ne_nil _ _
  | none => by_cases hnil : s.defaultFields = [] <;> simp [hnil]

theorem tidy_visit (h : f.operations.Tidy) : (visit s f path).operations.Tidy := by
  match path with
  | [] => exact h
  | ⟨id, a, .inl l⟩ :: above => exact tidy_use (by simpa using h) (leafFields_ne_nil s a)
  | ⟨id, a, .inr g⟩ :: above =>
      rw [visit, addGroup]
      cases a.fieldName? with
      | none => exact h
      | some field => exact tidy_use h (List.cons_ne_nil _ _)

section Whole

variable {t : Tree}

theorem findings_iff {p : Findings → Prop} {hit : List Spot → Prop}
    (hvisit : ∀ f path, p (visit s f path) ↔ p f ∨ hit path) (hnone : ¬ p .none) (t : Tree) :
    p (t.findings s) ↔ ∃ path ∈ t.paths [], hit path := by
  rw [findings_eq, foldl_iff hvisit]
  exact or_iff_right hnone

/-- A depth other than zero is reached if and only if there is a group that deep. -/
theorem lt_maxDepth_findings {n : Nat} : n < (t.findings s).maxDepth ↔
    ∃ path ∈ t.paths [], ∃ spot ∈ path.head?, spot.label.isRight ∧ n < s.depthOn path :=
  findings_iff (p := fun f => n < f.maxDepth) (fun _ _ => le_maxDepth_visit) (Nat.not_lt_zero n) t

theorem depthOn_le_maxDepth (path : List Spot) (hpath : path ∈ t.paths []) :
    s.depthOn path ≤ (t.findings s).maxDepth := by
  induction path with
  | nil => exact Nat.zero_le _
  | cons spot above ih =>
      obtain ⟨id, a, l | g⟩ := spot
      -- only groups are counted, but a leaf is no deeper than the group around it
      · rw [depthOn_leaf]
        rcases Tree.tail_mem_paths hpath with hnil | habove
        · rw [show above = [] from hnil]
          exact Nat.zero_le _
        · exact ih habove
      · refine Nat.le_of_not_lt fun hlt => ?_
        exact Nat.lt_irrefl _ (lt_maxDepth_findings.2 ⟨_, hpath, _, rfl, rfl, hlt⟩)

theorem isGreatest_maxDepth (ht : t.paths [] ≠ []) :
    IsGreatest {n | ∃ path ∈ t.paths [], s.depthOn path = n} (t.findings s).maxDepth := by
  refine ⟨?_, fun n ⟨path, hpath, hn⟩ => hn ▸ depthOn_le_maxDepth path hpath⟩
  cases hdepth : (t.findings s).maxDepth with
  | zero =>
      obtain ⟨path, hpath⟩ := List.exists_mem_of_ne_nil _ ht
      exact ⟨path, hpath, Nat.eq_zero_of_le_zero (hdepth ▸ depthOn_le_maxDepth path hpath)⟩
  | succ n =>
      obtain ⟨path, hpath, _, -, -, hlt⟩ :=
        lt_maxDepth_findings.1 (by rw [hdepth]; exact Nat.lt_succ_self n)
      exact ⟨path, hpath, Nat.le_antisymm (hdepth ▸ depthOn_le_maxDepth path hpath) hlt⟩

theorem mem_fields_findings : name ∈ (t.findings s).fields ↔
    ∃ path ∈ t.paths [], ∃ spot ∈ path.head?, Asks s spot name :=
  findings_iff (p := fun f => name ∈ f.fields) (fun _ _ => mem_fields_visit)
    NameSet.not_mem_empty t

theorem files_findings : (t.findings s).operations.Files operation name ↔
    ∃ path ∈ t.paths [], ∃ spot ∈ path.head?, Applies s path operation ∧ Asks s spot name :=
  findings_iff (p := fun f => f.operations.Files operation name) (fun _ _ => files_visit)
    NameTable.not_files_empty t

theorem tidy_findings : (t.findings s).operations.Tidy := by
  rw [findings_eq]
  exact foldl_keeps (p := fun f : Findings => f.operations.Tidy) (fun f path _ => tidy_visit)
    NameTable.tidy_empty

theorem mem_unresolved_findings : name ∈ (t.findings s).unresolved ↔
    ∃ path ∈ t.paths [], ∃ spot ∈ path.head?,
      s.isUnresolved spot.id ∧ spot.attrs.fieldName? = some name :=
  findings_iff (p := fun f => name ∈ f.unresolved) (fun _ _ => mem_unresolved_visit)
    NameSet.not_mem_empty t

theorem mem_leadingWildcards_findings : name ∈ (t.findings s).leadingWildcards ↔
    ∃ path ∈ t.paths [], ∃ spot ∈ path.head?, ∃ term, spot.label = .inl (.term term) ∧
      term.hasLeadingWildcard ∧ name = term.text :=
  findings_iff (p := fun f => name ∈ f.leadingWildcards) (fun _ _ => mem_leadingWildcards_visit)
    List.not_mem_nil t

theorem mem_invalidPatterns_findings : name ∈ (t.findings s).invalidPatterns ↔
    ∃ path ∈ t.paths [], ∃ spot ∈ path.head?, ∃ term, spot.label = .inl (.term term) ∧
      term.style = .pattern ∧ s.isPattern term.text = false ∧ name = term.text :=
  findings_iff (p := fun f => name ∈ f.invalidPatterns) (fun _ _ => mem_invalidPatterns_visit)
    List.not_mem_nil t

theorem leadingWildcards_eq_nil_iff : (t.findings s).leadingWildcards = [] ↔
    ∀ path ∈ t.paths [], ∀ spot ∈ path.head?, ∀ term, spot.label = .inl (.term term) →
      ¬ term.hasLeadingWildcard := by
  rw [List.eq_nil_iff_forall_not_mem]
  refine ⟨fun h path hpath spot hspot term hterm hwild => ?_, fun h name hname => ?_⟩
  · exact h term.text (mem_leadingWildcards_findings.2
      ⟨path, hpath, spot, hspot, term, hterm, hwild, rfl⟩)
  · obtain ⟨path, hpath, spot, hspot, term, hterm, hwild, -⟩ :=
      mem_leadingWildcards_findings.1 hname
    exact h path hpath spot hspot term hterm hwild

theorem invalidPatterns_eq_nil_iff : (t.findings s).invalidPatterns = [] ↔
    ∀ path ∈ t.paths [], ∀ spot ∈ path.head?, ∀ term, spot.label = .inl (.term term) →
      term.style = .pattern → s.isPattern term.text := by
  rw [List.eq_nil_iff_forall_not_mem]
  refine ⟨fun h path hpath spot hspot term hterm hstyle => ?_, fun h name hname => ?_⟩
  · refine Bool.eq_true_of_not_eq_false fun hvalid => h term.text ?_
    exact mem_invalidPatterns_findings.2
      ⟨path, hpath, spot, hspot, term, hterm, hstyle, hvalid, rfl⟩
  · obtain ⟨path, hpath, spot, hspot, term, hterm, hstyle, hvalid, -⟩ :=
      mem_invalidPatterns_findings.1 hname
    exact Bool.false_ne_true (hvalid.symm.trans (h path hpath spot hspot term hterm hstyle))

end Whole

end Findings

end SearchQuery
