import SearchQuery.Proofs.Query.Fields
import SearchQuery.Proofs.Validation.Verdict

/-!
# Two collectors of fields

`Tree.referencedFields` knows the field in scope: a leaf without a field asks about that of the
nearest group around it that has one. A check of the query does not, and takes such a leaf to ask
about the default fields, wherever it stands. Both find something at the end of each path of the
tree, `Tree.mem_referencedFields_iff_sought` and `Findings.mem_fields_findings`, so they are compared
path by path: they agree but for the leaves without a field below a group with one,
`Pass.referencedFields_validation`.
-/

namespace SearchQuery

def fieldInScope? (path : List Spot) : Option String :=
  path.findSome? fun spot => spot.attrs.fieldName?

/-- The field that the end of a path asks about: a group about its own, and a leaf about the one in
scope. -/
def fieldSought? : List Spot → Option String
  | ⟨id, a, .inl l⟩ :: above => some ((fieldInScope? (⟨id, a, .inl l⟩ :: above)).getD "")
  | ⟨_, a, .inr _⟩ :: _ => a.fieldName?
  | [] => none

/-- Whether a path ends at a leaf without a field, below a group with one. -/
def isSheltered : List Spot → Bool
  | ⟨_, a, .inl _⟩ :: above => a.fieldName?.isNone && (fieldInScope? above).isSome
  | _ => false

/-- The fields that a leaf asks about where no field is in scope. -/
def unnamedFields (defaults : List String) : List String :=
  if defaults = [] then [""] else defaults

def NameSet.withDefaults (defaults : List String) (s : NameSet) : NameSet :=
  .ofList (s.names.flatMap fun name => if name = "" then unnamedFields defaults else [name])

namespace Tree

variable {t : Tree} {field : String} {above : List Spot}

theorem fieldInScope?_cons (spot : Spot) (above : List Spot) :
    fieldInScope? (spot :: above) = spot.attrs.scope (fieldInScope? above) := by
  rw [fieldInScope?, List.findSome?_cons, Attributes.scope]
  cases spot.attrs.fieldName? <;> rfl

/-- What a tree asks about is asked about at the ends of its paths. -/
theorem asks_iff_sought : t.Asks field (fieldInScope? above) ↔
    ∃ path ∈ t.paths above, fieldSought? path = some field := by
  induction t generalizing above with
  | nil => simp [Asks, paths]
  | leaf id a l =>
      have hscope := fieldInScope?_cons ⟨id, a, .inl l⟩ above
      simp only [Asks, paths, List.mem_singleton, exists_eq_left, fieldSought?, hscope,
        Option.some.injEq]
      exact eq_comm
  | group id a g l r ihl ihr =>
      have hscope := fieldInScope?_cons ⟨id, a, .inr g⟩ above
      rw [Asks, ← hscope, ihl, ihr, paths_group]
      simp only [List.mem_cons, List.mem_append, or_and_right, exists_or, exists_eq_left]
      rfl

theorem mem_referencedFields_iff_sought : field ∈ t.referencedFields none ↔
    ∃ path ∈ t.paths [], fieldSought? path = some field :=
  mem_referencedFields_iff.trans (show t.Asks field (fieldInScope? []) ↔ _ from asks_iff_sought)

end Tree

namespace NameSet

theorem mem_withDefaults {defaults : List String} {s : NameSet} {field : String} :
    field ∈ s.withDefaults defaults ↔
      ∃ name ∈ s, field ∈ if name = "" then unnamedFields defaults else [name] := by
  rw [withDefaults, mem_ofList, List.mem_flatMap]
  rfl

end NameSet

theorem Attributes.ne_empty_of_fieldName? {a : Attributes} {name : String}
    (h : a.fieldName? = some name) : name ≠ "" := by
  rw [fieldName?, Option.filter_eq_some_iff] at h
  simpa using h.2

namespace Findings

variable {s : Setting} {spot : Spot} {above : List Spot} {field name : String}

/-- At the end of a path that is no sheltered leaf, the check finds what is sought there, or the
fields that stand for no name. -/
theorem asks_iff_sought (h : isSheltered (spot :: above) = false) :
    Asks s spot field ↔ ∃ name, fieldSought? (spot :: above) = some name ∧
      field ∈ if name = "" then unnamedFields s.defaultFields else [name] := by
  have hnamed : ∀ {a : Attributes} {own : String}, a.fieldName? = some own →
      (field ∈ (if own = "" then unnamedFields s.defaultFields else [own]) ↔ field = own) := by
    intro a own hown
    rw [if_neg (Attributes.ne_empty_of_fieldName? hown), List.mem_singleton]
  obtain ⟨id, a, l | g⟩ := spot
  · rw [asks_leaf, Setting.leafFields, fieldSought?, Tree.fieldInScope?_cons, Attributes.scope]
    cases hfield : a.fieldName? with
    | some own => simp [hnamed hfield]
    | none =>
        have hscope : fieldInScope? above = Option.none := by
          simpa [isSheltered, hfield] using h
        simp [hscope, unnamedFields]
  · rw [asks_group, fieldSought?]
    constructor
    · exact fun hfield => ⟨field, hfield, (hnamed hfield).2 rfl⟩
    · rintro ⟨own, hown, hmem⟩
      rw [hown, (hnamed hown).1 hmem]

/-- At a sheltered leaf the check finds the fields that stand for no name, and what is sought there
is the field of a group around. -/
theorem asks_of_isSheltered (h : isSheltered (spot :: above) = true) (s : Setting) :
    (∀ field, Asks s spot field ↔ field ∈ unnamedFields s.defaultFields) ∧
      ∃ group ∈ above, ∃ own, fieldSought? (spot :: above) = some own ∧ own ≠ "" ∧
        Asks s group own := by
  obtain ⟨id, a, l | g⟩ := spot
  · rw [isSheltered, Bool.and_eq_true, Option.isNone_iff_eq_none] at h
    obtain ⟨hnone, hscope⟩ := h
    obtain ⟨own, hown⟩ := Option.isSome_iff_exists.1 hscope
    refine ⟨fun field => ?_, ?_⟩
    · rw [asks_leaf, Setting.leafFields, hnone]
      rfl
    · obtain ⟨group, hgroup, hfield⟩ := List.exists_of_findSome?_eq_some hown
      refine ⟨group, hgroup, own, ?_, Attributes.ne_empty_of_fieldName? hfield, .own hfield⟩
      rw [fieldSought?, Tree.fieldInScope?_cons, Attributes.scope, hnone, Option.none_or, hown]
      rfl
  · cases h

/-- The check finds the fields that are referenced, with the default fields for the one without a
name, and the default fields also where some leaf is sheltered from them. -/
theorem mem_fields_findings_iff_referenced {t : Tree} : field ∈ (t.findings s).fields ↔
    field ∈ (t.referencedFields Option.none).withDefaults s.defaultFields ∨
      (∃ path ∈ t.paths [], isSheltered path) ∧ field ∈ unnamedFields s.defaultFields := by
  rw [mem_fields_findings, NameSet.mem_withDefaults]
  constructor
  · rintro ⟨path, hpath, spot, hspot, hasks⟩
    obtain ⟨above, rfl⟩ := List.head?_eq_some_iff.1 hspot
    cases hsheltered : isSheltered (spot :: above) with
    | true =>
        have hunnamed := ((asks_of_isSheltered hsheltered s).1 field).1 hasks
        exact .inr ⟨⟨_, hpath, hsheltered⟩, hunnamed⟩
    | false =>
        obtain ⟨name, hname, hmem⟩ := (asks_iff_sought hsheltered).1 hasks
        exact .inl ⟨name, Tree.mem_referencedFields_iff_sought.2 ⟨_, hpath, hname⟩, hmem⟩
  · rintro (⟨name, hname, hmem⟩ | ⟨⟨path, hpath, hsheltered⟩, hmem⟩)
    · obtain ⟨path, hpath, hsought⟩ := Tree.mem_referencedFields_iff_sought.1 hname
      cases path with
      | nil => cases hsought
      | cons spot above =>
          cases hsheltered : isSheltered (spot :: above) with
          | false => exact ⟨_, hpath, spot, rfl, (asks_iff_sought hsheltered).2 ⟨_, hsought, hmem⟩⟩
          | true =>
              -- the group that shelters the leaf is found on its own path
              obtain ⟨-, group, hgroup, own, hown, hne, hasks⟩ :=
                asks_of_isSheltered hsheltered s
              obtain rfl : own = name := Option.some.inj (hown.symm.trans hsought)
              rw [if_neg hne, List.mem_singleton] at hmem
              obtain ⟨path, hpath', hhead⟩ :=
                Tree.exists_path_of_mem hpath (List.mem_cons_of_mem spot hgroup)
              exact ⟨path, hpath', group, hhead, hmem ▸ hasks⟩
    · cases path with
      | nil => cases hsheltered
      | cons spot above =>
          exact ⟨_, hpath, spot, rfl, ((asks_of_isSheltered hsheltered s).1 field).2 hmem⟩

end Findings

namespace Pass

/-- A check that starts with no fields finds those of the tree, whatever its verdict is. -/
theorem referencedFields_run_validation {s : Session}
    (hfresh : s.context.validation.referencedFields = .empty) (own : Option ValidationOptions) :
    ((validation own).run s.store.root s).2.context.validation.referencedFields =
      (s.store.tree.findings (setting s)).fields := by
  let found := s.store.tree.findings (setting s)
  have hrun : ((validation own).run s.store.root s).2.context.validation =
      s.context.validation.validate s.context.queryType (own.getD s.context.options) found := rfl
  rw [hrun, (ValidationResult.adds_validate ..).referencedFields, hfresh]
  exact NameSet.ext fun field => NameSet.mem_union.trans (or_iff_left NameSet.not_mem_empty)

/-- The fields that a check of a query finds, if it starts with none, are those that the query
references, with the default fields for the one without a name; but a leaf without a field below a
group with one brings the default fields in too. They are the same fields if and only if there is no
such leaf or the fields that it brings in are referenced anyway. -/
theorem referencedFields_validation {s : Session}
    (hfresh : s.context.validation.referencedFields = .empty) (own : Option ValidationOptions) :
    let found := ((validation own).run s.store.root s).2.context.validation.referencedFields
    let referenced :=
      (s.store.tree.referencedFields none).withDefaults s.context.defaultFields
    (∀ field, field ∈ found ↔ field ∈ referenced ∨
      (∃ path ∈ s.store.tree.paths [], isSheltered path) ∧
        field ∈ unnamedFields s.context.defaultFields) ∧
    (found = referenced ↔ ((∃ path ∈ s.store.tree.paths [], isSheltered path) →
      ∀ field ∈ unnamedFields s.context.defaultFields, field ∈ referenced)) := by
  intro found referenced
  have hfound : ∀ field, field ∈ found ↔ field ∈ referenced ∨
      (∃ path ∈ s.store.tree.paths [], isSheltered path) ∧
        field ∈ unnamedFields s.context.defaultFields := by
    intro field
    rw [show found = _ from referencedFields_run_validation hfresh own]
    exact Findings.mem_fields_findings_iff_referenced
  refine ⟨hfound, fun heq hsheltered field hfield => ?_, fun h => NameSet.ext fun field => ?_⟩
  · rw [← heq, hfound]
    exact .inr ⟨hsheltered, hfield⟩
  · rw [hfound]
    exact or_iff_left_of_imp fun hsheltered => h hsheltered.1 field hsheltered.2

/-- In the query `quick author:(bob)` the leaf in the group is sheltered from the default field, but
the other leaf asks about it. -/
theorem referencedFields_of_sheltered_leaf :
    let author : Attributes := { Attributes.plain with field := some "author" }
    let s : Session := ⟨.ofTree (.group 0 .plain .plain (.leaf 1 .plain (.term ⟨"quick", .bare⟩))
      (.group 2 author ⟨.default, true⟩ (.leaf 3 .plain (.term ⟨"bob", .bare⟩)) .nil)),
      { Context.empty with defaultFields := ["title"] }⟩
    ((validation none).run s.store.root s).2.context.validation.referencedFields =
      (s.store.tree.referencedFields none).withDefaults ["title"] := by
  intro author s
  refine (referencedFields_validation (s := s) rfl none).2.2 fun _ field hfield => ?_
  obtain rfl : field = "title" := List.mem_singleton.1 hfield
  refine NameSet.mem_withDefaults.2 ⟨"", ?_, List.mem_singleton_self _⟩
  rw [Tree.mem_referencedFields_iff, show s.store.tree = _ from Store.tree_ofTree rfl (by decide)]
  exact .inr (.inl rfl)

/-- In the query `status:(open closed)` nothing asks about the default field, but the check finds
it. -/
theorem referencedFields_of_field_group :
    let status : Attributes := { Attributes.plain with field := some "status" }
    let s : Session := ⟨.ofTree (.group 0 .plain .plain
      (.group 1 status ⟨.default, true⟩ (.leaf 2 .plain (.term ⟨"open", .bare⟩))
        (.leaf 3 .plain (.term ⟨"closed", .bare⟩))) .nil),
      { Context.empty with defaultFields := ["title"] }⟩
    s.store.WellFormed ∧ s.store.isGroup s.store.root ∧ s.context.validation = .fresh .query ∧
      ((validation none).run s.store.root s).2.context.validation.referencedFields ≠
        (s.store.tree.referencedFields none).withDefaults ["title"] := by
  intro status s
  have htree : s.store.tree = _ := Store.tree_ofTree rfl (by decide)
  have hfound : "title" ∈
      ((validation none).run s.store.root s).2.context.validation.referencedFields := by
    rw [referencedFields_run_validation rfl none, Findings.mem_fields_findings, htree]
    exact ⟨_, .tail _ (.tail _ (.head _)), _, rfl, .default rfl (List.mem_singleton_self _)⟩
  refine ⟨Store.wellFormed_ofTree rfl (by decide), by decide, rfl, fun heq => ?_⟩
  rw [heq, NameSet.mem_withDefaults] at hfound
  obtain ⟨name, hname, hmem⟩ := hfound
  rw [Tree.mem_referencedFields_iff, htree] at hname
  have hstatus : name = "status" := by
    rcases hname with hroot | (hgroup | hopen | hclosed) | hnil
    · cases hroot
    · exact (Option.some.inj hgroup).symm
    · exact hopen
    · exact hclosed
    · cases hnil
  rw [hstatus] at hmem
  exact absurd hmem (by decide)

end Pass

end SearchQuery
