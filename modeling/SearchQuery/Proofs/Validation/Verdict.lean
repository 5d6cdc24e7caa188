import SearchQuery.Pass
import SearchQuery.Proofs.Store.OfTree
import SearchQuery.Proofs.Validation.Visits

/-!
# The verdict of a check

`ValidationOptions.Permits` spells the policy out: which fields and operations a query may use, and
what else it may do. A check that starts with nothing found but unresolved names counts what the
query uses, `Pass.validation_is_policy`, and finds the query valid if and only if the policy permits
it.
-/

namespace SearchQuery

open Findings (Asks Applies)

theorem NameSet.isEmpty_iff {s : NameSet} : s.isEmpty ↔ s = .empty := by
  rw [isEmpty, List.isEmpty_iff]
  exact ⟨fun h => NameSet.ext fun x => by rw [mem_iff, mem_iff, h]; rfl, congrArg names⟩

theorem NameSet.contains_iff {s : NameSet} {name : String} : s.contains name ↔ name ∈ s :=
  List.contains_iff_mem

namespace ValidationOptions

/-- A name may be used. What is restricted may not, even if it is among what is allowed. -/
def AllowsName (allowed restricted : NameSet) (name : String) : Prop :=
  (allowed = .empty ∨ name ∈ allowed) ∧ name ∉ restricted

/-- The policy permits a query of which these findings are known and which has this tree, where
`isPattern` tells which texts are patterns. -/
structure Permits (o : ValidationOptions) (isPattern : String → Bool) (r : ValidationResult)
    (t : Tree) : Prop where
  fields : ∀ field ∈ r.referencedFields, field ≠ "" →
    AllowsName o.allowedFields o.restrictedFields field
  operations : ∀ operation ∈ r.operations.keys,
    AllowsName o.allowedOperations o.restrictedOperations operation
  unresolvedFields : o.allowUnresolvedFields ∨ r.unresolvedFields = .empty
  unresolvedIncludes : o.allowUnresolvedIncludes ∨ r.unresolvedIncludes = .empty
  leadingWildcards : o.allowLeadingWildcards ∨ ∀ path ∈ t.paths [], ∀ spot ∈ path.head?, ∀ term,
    spot.label = .inl (.term term) → ¬ term.hasLeadingWildcard
  patterns : ∀ path ∈ t.paths [], ∀ spot ∈ path.head?, ∀ term,
    spot.label = .inl (.term term) → term.style = .pattern → isPattern term.text
  depth : o.maxNodeDepth = 0 ∨ r.maxNodeDepth ≤ o.maxNodeDepth

theorem nameError?_eq_none_iff {allowed restricted : NameSet} {kind name : String} :
    nameError? allowed restricted kind name = none ↔ AllowsName allowed restricted name := by
  rw [nameError?, AllowsName, ← NameSet.isEmpty_iff, ← NameSet.contains_iff, ← NameSet.contains_iff]
  cases allowed.isEmpty <;> cases allowed.contains name <;> cases restricted.contains name <;> simp

theorem unresolvedError?_eq_none_iff {allow : Bool} {kind : String} {names : NameSet} :
    unresolvedError? allow kind names = none ↔ allow ∨ names = .empty := by
  rw [unresolvedError?, ← NameSet.isEmpty_iff]
  cases allow <;> cases names.isEmpty <;> simp

theorem depthError?_eq_none_iff {limit depth : Nat} :
    depthError? limit depth = none ↔ limit = 0 ∨ depth ≤ limit := by
  rw [depthError?, ite_eq_right_iff]
  simp only [Bool.and_eq_true, decide_eq_true_eq, reduceCtorEq, imp_false, not_and, Nat.not_lt]
  omega

theorem errors_eq_nil_iff (o : ValidationOptions) (setting : Findings.Setting) (t : Tree)
    (r : ValidationResult) : o.errors (t.findings setting) r = [] ↔
      o.Permits setting.isPattern r t := by
  have hfields : (r.referencedFields.names.filter (· ≠ "")).filterMap
      (nameError? o.allowedFields o.restrictedFields "Field") = [] ↔
        ∀ field ∈ r.referencedFields, field ≠ "" →
          AllowsName o.allowedFields o.restrictedFields field := by
    simp only [List.filterMap_eq_nil_iff, List.mem_filter, decide_eq_true_eq,
      nameError?_eq_none_iff, and_imp, NameSet.mem_iff]
  have hoperations : r.operations.keys.filterMap
      (nameError? o.allowedOperations o.restrictedOperations "Operation") = [] ↔
        ∀ operation ∈ r.operations.keys,
          AllowsName o.allowedOperations o.restrictedOperations operation := by
    simp only [List.filterMap_eq_nil_iff, nameError?_eq_none_iff]
  have hwildcards : (if o.allowLeadingWildcards then [] else
      (t.findings setting).leadingWildcards.map ("Terms must not start with a wildcard: " ++ ·)) = [] ↔
        o.allowLeadingWildcards ∨ ∀ path ∈ t.paths [], ∀ spot ∈ path.head?, ∀ term,
          spot.label = .inl (.term term) → ¬ term.hasLeadingWildcard := by
    rw [ite_eq_left_iff, List.map_eq_nil_iff, Findings.leadingWildcards_eq_nil_iff,
      ← or_iff_not_imp_left]
  rw [errors]
  simp only [List.append_eq_nil_iff, Option.toList_eq_nil_iff, List.map_eq_nil_iff, hfields,
    hoperations, hwildcards, Findings.invalidPatterns_eq_nil_iff, unresolvedError?_eq_none_iff,
    depthError?_eq_none_iff]
  constructor
  · rintro ⟨⟨⟨⟨⟨⟨hf, ho⟩, huf⟩, hui⟩, hw⟩, hp⟩, hd⟩
    exact ⟨hf, ho, huf, hui, hw, hp, hd⟩
  · rintro ⟨hf, ho, huf, hui, hw, hp, hd⟩
    exact ⟨⟨⟨⟨⟨⟨hf, ho⟩, huf⟩, hui⟩, hw⟩, hp⟩, hd⟩

end ValidationOptions

namespace ValidationResult

variable {r : ValidationResult}

/-- Nothing has been found but fields and includes that are unresolved or referred to. -/
structure Clean (r : ValidationResult) : Prop where
  isValid : r.isValid
  errors : r.errors = []
  message : r.message = none
  referencedFields : r.referencedFields = .empty
  operations : r.operations = .empty
  maxNodeDepth : r.maxNodeDepth = 0

theorem foldl_addError (errors : List String) (r : ValidationResult) :
    errors.foldl addError r =
      { r with
        isValid := r.isValid && errors.isEmpty
        errors := r.errors ++ errors
        message := if errors = [] then r.message
          else some (", ".intercalate (r.errors ++ errors)) } := by
  induction errors generalizing r with
  | nil => simp
  | cons error errors ih =>
      rw [List.foldl_cons, ih, addError]
      cases errors <;> simp

/-- What is known after a check of one more tree: what was known, what the tree uses, and the errors
of the policy that were not there yet. -/
structure Adds (r before : ValidationResult) (type : QueryType) (found : Findings)
    (new : List String) : Prop where
  queryType : r.queryType = type
  maxNodeDepth : r.maxNodeDepth = max before.maxNodeDepth found.maxDepth
  referencedFields : r.referencedFields = before.referencedFields.union found.fields
  unresolvedFields : r.unresolvedFields = before.unresolvedFields.union found.unresolved
  operations : r.operations = before.operations.union found.operations
  referencedIncludes : r.referencedIncludes = before.referencedIncludes
  unresolvedIncludes : r.unresolvedIncludes = before.unresolvedIncludes
  errors : r.errors = before.errors ++ new
  isValid : r.isValid = (before.isValid && new.isEmpty)
  message : r.message =
    if new = [] then before.message else some (", ".intercalate (before.errors ++ new))

/-- A check adds what the tree uses and the new errors, and nothing else. -/
theorem adds_validate (before : ValidationResult) (type : QueryType) (o : ValidationOptions)
    (found : Findings) :
    (before.validate type o found).Adds before type found
      ((o.errors found (before.addFindings type found)).filter fun error =>
        !before.errors.contains error) := by
  rw [validate, addNewErrors, foldl_addError]
  exact ⟨rfl, rfl, rfl, rfl, rfl, rfl, rfl, rfl, rfl, rfl⟩

/-- What is known after a check is what the tree uses, and what was unresolved before. -/
structure Counts (r before : ValidationResult) (setting : Findings.Setting) (t : Tree) : Prop where
  /-- The depth is that of the deepest path. -/
  maxNodeDepth : IsGreatest {n | ∃ path ∈ t.paths [], setting.depthOn path = n} r.maxNodeDepth
  referencedFields : ∀ field, field ∈ r.referencedFields ↔
    ∃ path ∈ t.paths [], ∃ spot ∈ path.head?, Asks setting spot field
  /-- Each operation has one row, and there is a field in it. -/
  operations_tidy : r.operations.Tidy
  operations : ∀ operation field,
    (∃ fields, r.operations.get? operation = some fields ∧ field ∈ fields) ↔
      ∃ path ∈ t.paths [], ∃ spot ∈ path.head?,
        Applies setting path operation ∧ Asks setting spot field
  unresolvedFields : ∀ field, field ∈ r.unresolvedFields ↔ field ∈ before.unresolvedFields ∨
    ∃ path ∈ t.paths [], ∃ spot ∈ path.head?,
      setting.isUnresolved spot.id ∧ spot.attrs.fieldName? = some field
  referencedIncludes : r.referencedIncludes = before.referencedIncludes
  unresolvedIncludes : r.unresolvedIncludes = before.unresolvedIncludes
  queryType : r.queryType = setting.queryType

theorem Clean.counts_addFindings (h : r.Clean) {setting : Findings.Setting} {t : Tree}
    (ht : t.paths [] ≠ []) :
    (r.addFindings setting.queryType (t.findings setting)).Counts r setting t := by
  have htidy : (r.operations.union (t.findings setting).operations).Tidy := by
    rw [h.operations]
    exact NameTable.tidy_empty.union Findings.tidy_findings
  constructor
  · rw [addFindings, h.maxNodeDepth, Nat.zero_max]
    exact Findings.isGreatest_maxDepth ht
  · intro field
    rw [addFindings, h.referencedFields, NameSet.mem_union, Findings.mem_fields_findings]
    exact or_iff_left NameSet.not_mem_empty
  · exact htidy
  · intro operation field
    rw [← Findings.files_findings]
    refine htidy.exists_get?_iff.trans ?_
    rw [h.operations, NameTable.files_union]
    exact or_iff_right NameTable.not_files_empty
  · intro field
    rw [addFindings, NameSet.mem_union, Findings.mem_unresolved_findings]
    exact or_comm
  · rfl
  · rfl
  · rfl

/-- A check of a tree that starts with nothing found adds the errors of the policy and nothing
else to what is known then. -/
theorem Clean.validate_eq (h : r.Clean) (type : QueryType) (o : ValidationOptions)
    (found : Findings) :
    let known := r.addFindings type found
    r.validate type o found =
      { known with
        isValid := (o.errors found known).isEmpty
        errors := o.errors found known
        message := if o.errors found known = [] then none
          else some (", ".intercalate (o.errors found known)) } := by
  intro known
  have herrors : known.errors = [] := h.errors
  have hnew : (o.errors found known).filter (fun error => !known.errors.contains error) =
      o.errors found known := List.filter_eq_self.2 fun error _ => by rw [herrors]; rfl
  change known.addNewErrors (o.errors found known) = _
  rw [addNewErrors, hnew, foldl_addError, herrors, List.nil_append,
    show known.isValid = true from h.isValid, Bool.true_and,
    show known.message = none from h.message]

/-- The verdict on what the tree uses is that of the policy. -/
theorem Clean.isValid_validate_iff (h : r.Clean) (type : QueryType) (o : ValidationOptions)
    (setting : Findings.Setting) (t : Tree) :
    let checked := r.validate type o (t.findings setting)
    (checked.isValid ↔ o.Permits setting.isPattern checked t) ∧
      (checked.isValid ↔ checked.errors = []) := by
  intro checked
  have hchecked : checked = _ := h.validate_eq type o (t.findings setting)
  have hpermits : o.Permits setting.isPattern checked t ↔
      o.Permits setting.isPattern (r.addFindings type (t.findings setting)) t := by
    rw [hchecked]
    exact ⟨fun ⟨hf, ho, huf, hui, hw, hp, hd⟩ => ⟨hf, ho, huf, hui, hw, hp, hd⟩,
      fun ⟨hf, ho, huf, hui, hw, hp, hd⟩ => ⟨hf, ho, huf, hui, hw, hp, hd⟩⟩
  rw [hpermits, ← o.errors_eq_nil_iff setting, hchecked]
  exact ⟨List.isEmpty_iff, List.isEmpty_iff⟩

end ValidationResult

namespace Pass

/-- A check from the root that starts with nothing found but unresolved names, and that is not to
fail, leaves the query alone and counts what it uses. The query is valid, and there are no errors,
if and only if the policy permits what was counted. -/
theorem validation_is_policy {s : Session} (h : s.store.WellFormed)
    (hroot : s.store.root < s.store.next) (own : Option ValidationOptions)
    (hclean : s.context.validation.Clean)
    (hfails : (own.getD s.context.options).failsOnInvalid = false) :
    ∃ r : ValidationResult,
      (validation own).run s.store.root s =
        (.ok s.store.root, { s with context := { s.context with validation := r } }) ∧
      r.Counts s.context.validation (setting s) s.store.tree ∧
      (r.isValid ↔ (own.getD s.context.options).Permits s.context.isPattern r s.store.tree) ∧
      (r.isValid ↔ r.errors = []) := by
  have hpaths : s.store.tree.paths [] ≠ [] := by
    cases htree : s.store.tree with
    | nil => exact nomatch htree ▸ h.id?_tree hroot
    | leaf => exact List.cons_ne_nil _ _
    | group => exact List.cons_ne_nil _ _
  refine ⟨s.context.validation.validate s.context.queryType (own.getD s.context.options)
    (s.store.tree.findings (setting s)), ?_, ?_, hclean.isValid_validate_iff _ _ _ _⟩
  · rw [run, runValidation, hfails, Bool.false_and]
    rfl
  · rw [hclean.validate_eq]
    obtain ⟨hd, hf, ht, ho, hu, hri, hui, hq⟩ := hclean.counts_addFindings hpaths
    exact ⟨hd, hf, ht, ho, hu, hri, hui, hq⟩

/-- A restricted field inside a group on another field makes the query invalid, and so does the
pattern `(`, which the library for patterns does not take. -/
theorem validation_of_restricted_field :
    let secret : Attributes := { Attributes.plain with field := some "secret" }
    let group : Attributes := { Attributes.plain with field := some "public" }
    let context : Context := { Context.empty with isPattern := (· ≠ "(") }
    let s : Session := ⟨.ofTree (.group 0 .plain .plain
      (.group 1 group ⟨.or, true⟩ (.leaf 2 .plain (.term ⟨"x", .bare⟩))
        (.leaf 3 secret (.term ⟨"y", .bare⟩))) .nil), context⟩
    let t : Session :=
      ⟨.ofTree (.group 0 .plain .plain (.leaf 1 .plain (.term ⟨"(", .pattern⟩)) .nil), context⟩
    let options := { ValidationOptions.standard with restrictedFields := .ofList ["secret"] }
    (∃ r : ValidationResult,
      (validation (some options)).run s.store.root s =
        (.ok s.store.root, { s with context := { s.context with validation := r } }) ∧
      r.isValid = false) ∧
    ∃ r : ValidationResult,
      (validation (some options)).run t.store.root t =
        (.ok t.store.root, { t with context := { t.context with validation := r } }) ∧
      r.isValid = false := by
  intro secret group context s t options
  constructor
  · have htree : s.store.tree = _ := Store.tree_ofTree rfl (by decide)
    obtain ⟨r, hrun, hcounts, hvalid, -⟩ := validation_is_policy (s := s)
      (Store.wellFormed_ofTree rfl (by decide)) (by decide) (some options)
      ⟨rfl, rfl, rfl, rfl, rfl, rfl⟩ rfl
    refine ⟨r, hrun, Bool.eq_false_iff.2 fun h => ?_⟩
    have hsecret : "secret" ∈ r.referencedFields := by
      refine (hcounts.referencedFields "secret").2 ?_
      rw [htree]
      exact ⟨_, .tail _ (.tail _ (.tail _ (.head _))), ⟨3, secret, .inl (.term ⟨"y", .bare⟩)⟩, rfl,
        .own rfl⟩
    exact ((hvalid.1 h).fields "secret" hsecret (by decide)).2 (by decide)
  · have htree : t.store.tree = _ := Store.tree_ofTree rfl (by decide)
    obtain ⟨r, hrun, -, hvalid, -⟩ := validation_is_policy (s := t)
      (Store.wellFormed_ofTree rfl (by decide)) (by decide) (some options)
      ⟨rfl, rfl, rfl, rfl, rfl, rfl⟩ rfl
    refine ⟨r, hrun, Bool.eq_false_iff.2 fun h => ?_⟩
    have hpattern := (hvalid.1 h).patterns
    rw [htree] at hpattern
    exact absurd (hpattern _ (.tail _ (.head _)) _ rfl ⟨"(", .pattern⟩ rfl rfl) (by decide)

end Pass

end SearchQuery
