import SearchQuery.Proofs.Operations.InPlace
import SearchQuery.Proofs.Validation.Verdict

/-!
# Checking a query again

A check adds what a tree uses to what is known about the query, and then those errors that are not
there yet. When it has been run, the tree uses nothing that is not known, `ValidationResult.Knows`,
and none of its errors is new. So a second run leaves everything as it is and has the same outcome,
`Pass.validation_again`, in every context that passes lead to.
-/

namespace SearchQuery

theorem NameSet.union_eq_left {s t : NameSet} (h : ∀ name ∈ t, name ∈ s) : s.union t = s :=
  NameSet.ext fun name => mem_union.trans (or_iff_right_of_imp (h name))

theorem NameTable.Tidy.union_eq_left {t u : NameTable} (h : t.Tidy) (hu : u.Tidy)
    (hfiles : ∀ key name, u.Files key name → t.Files key name) : t.union u = t :=
  (h.union hu).ext h fun key name => files_union.trans (or_iff_left_of_imp (hfiles key name))

namespace ValidationResult

variable {r : ValidationResult} {type : QueryType} {found : Findings} {errors : List String}

/-- What a tree uses is known already. -/
structure Knows (r : ValidationResult) (type : QueryType) (found : Findings) : Prop where
  queryType : r.queryType = type
  maxDepth : found.maxDepth ≤ r.maxNodeDepth
  fields : ∀ field ∈ found.fields, field ∈ r.referencedFields
  unresolved : ∀ field ∈ found.unresolved, field ∈ r.unresolvedFields
  operations : ∀ operation field, found.operations.Files operation field →
    r.operations.Files operation field

theorem knows_addFindings (r : ValidationResult) (type : QueryType) (found : Findings) :
    (r.addFindings type found).Knows type found where
  queryType := rfl
  maxDepth := Nat.le_max_right _ _
  fields _ hfield := NameSet.mem_union.2 (.inl hfield)
  unresolved _ hfield := NameSet.mem_union.2 (.inl hfield)
  operations _ _ hfiles := NameTable.files_union.2 (.inr hfiles)

theorem Knows.addFindings_eq_self (h : r.Knows type found) (hr : r.operations.Tidy)
    (hfound : found.operations.Tidy) : r.addFindings type found = r := by
  rw [addFindings, Nat.max_eq_left h.maxDepth, NameSet.union_eq_left h.fields,
    NameSet.union_eq_left h.unresolved, hr.union_eq_left hfound h.operations, ← h.queryType]

theorem errors_addNewErrors (r : ValidationResult) (errors : List String) :
    (r.addNewErrors errors).errors =
      r.errors ++ errors.filter fun error => !r.errors.contains error := by
  rw [addNewErrors, foldl_addError]

theorem mem_errors_addNewErrors {error : String} (h : error ∈ errors) :
    error ∈ (r.addNewErrors errors).errors := by
  rw [errors_addNewErrors, List.mem_append, List.mem_filter]
  by_cases hknown : error ∈ r.errors
  · exact .inl hknown
  · exact .inr ⟨h, by simpa using hknown⟩

theorem addNewErrors_eq_self (h : ∀ error ∈ errors, error ∈ r.errors) :
    r.addNewErrors errors = r := by
  have hnone : errors.filter (fun error => !r.errors.contains error) = [] :=
    List.filter_eq_nil_iff.2 fun error herror => by simpa using h error herror
  rw [addNewErrors, hnone, List.foldl_nil]

/-- The policy looks at what is known, not at the verdict so far. -/
theorem errors_foldl_addError (o : ValidationOptions) (found : Findings) (errors : List String)
    (r : ValidationResult) : o.errors found (errors.foldl addError r) = o.errors found r := by
  rw [foldl_addError]
  rfl

/-- The policy applied to a tree a second time finds nothing new. -/
theorem validate_validate (hr : r.operations.Tidy) (type : QueryType) (o : ValidationOptions)
    (hfound : found.operations.Tidy) :
    (r.validate type o found).validate type o found = r.validate type o found := by
  let known := r.addFindings type found
  let checked := known.addNewErrors (o.errors found known)
  have hknows : checked.Knows type found := by
    obtain ⟨htype, hdepth, hfields, hunresolved, hoperations⟩ := r.knows_addFindings type found
    rw [show checked = _ from foldl_addError _ known]
    exact ⟨htype, hdepth, hfields, hunresolved, hoperations⟩
  have htidy : checked.operations.Tidy := by
    rw [show checked = _ from foldl_addError _ known]
    exact hr.union hfound
  have hsame : checked.addFindings type found = checked := hknows.addFindings_eq_self htidy hfound
  have herrors : o.errors found checked = o.errors found known := errors_foldl_addError ..
  calc checked.validate type o found
      = (checked.addFindings type found).addNewErrors
          (o.errors found (checked.addFindings type found)) := rfl
    _ = checked.addNewErrors (o.errors found known) := by rw [hsame, herrors]
    _ = checked := addNewErrors_eq_self fun _ => mem_errors_addNewErrors

end ValidationResult

section Operations

/-- Splicing in fragments is no use of operations. -/
theorem Session.operations_expandTo (e : Expansion) (chain : List String) (depth : Nat)
    (id : NodeId) (s : Session) :
    (expandTo e chain depth id s).2.context.validation.operations =
      s.context.validation.operations := by
  have hsplice {s s' : Session} {id : NodeId} {name : String} {fragment : Tree}
      {top : Option NodeId} (h : s.spliceFragment id name fragment = (top, s')) :
      s'.context = s.context := by
    rw [spliceFragment] at h
    split at h <;> cases h <;> rfl
  fun_induction expandTo e chain depth id s with
  | case3 _ _ s _ _ _ left right _ _ middle after ihl ihr =>
      have hl : middle.context.validation.operations = s.context.validation.operations := by
        cases left with
        | none => rfl
        | some child => exact ihl child
      have hr : after.context.validation.operations = middle.context.validation.operations := by
        cases right with
        | none => rfl
        | some child => exact ihr child
      exact hr.trans hl
  | case9 => rename_i h; exact congrArg (·.validation.operations) (hsplice h)
  | case10 => rename_i h ih; exact ih.trans (congrArg (·.validation.operations) (hsplice h))
  | _ => rfl

theorem OperationEvent.operations_foldl_record (events : List OperationEvent)
    (r : ValidationResult) : (events.foldl record r).operations = r.operations := by
  refine foldl_keeps (p := fun r' : ValidationResult => r'.operations = r.operations)
    (fun r' event _ h => ?_) rfl
  match event with
  | assigned .. => exact h
  | fieldMissing (some _) => exact h
  | fieldMissing none => exact h

theorem Session.operations_foldl_observe (events : List OperationEvent) (s : Session) :
    (events.foldl observe s).context.validation.operations = s.context.validation.operations := by
  rw [foldl_observe]
  exact OperationEvent.operations_foldl_record ..

theorem Session.operations_assignOperation (id : NodeId) (s : Session) :
    (s.assignOperation id).context.validation.operations = s.context.validation.operations := by
  have hassigned (operation : String) (s : Session) :=
    operations_foldl_observe [.assigned id operation] s
  rw [assignOperation]
  split
  · split
    · rfl
    · next operation _ =>
        refine (hassigned operation _).trans ?_
        split
        · rfl
        · exact operations_foldl_observe [.fieldMissing (some operation)] s
  · exact operations_foldl_observe ..
  · rfl

/-- Of all passes only a check uses operations, and it leaves the table tidy. -/
theorem Pass.tidy_run {s : Session} (h : s.context.validation.operations.Tidy) (p : Pass)
    (id : NodeId) : (p.run id s).2.context.validation.operations.Tidy := by
  cases p with
  | fragments table skip parse =>
      have hexpand := Session.operations_expandTo ⟨s.context.fragments.toList ++ table.toList, skip,
        parse⟩ [] s.store.next id s
      exact hexpand.symm ▸ h
  | aliases own =>
      rw [run]
      split <;> exact h
  | fields own =>
      have hresolve := Rewriter.keeps_visitTo (r := .fields (s.context.fields.toList ++ own.toList))
        (R := fun s s' => s'.context.validation.operations = s.context.validation.operations)
        (fun _ => rfl) (fun h h' => h'.trans h) (fun _ _ => rfl) (fun _ _ => rfl) s.store.next id s
      exact hresolve.symm ▸ h
  | operations =>
      have hassign := Rewriter.keeps_visitTo (r := .operations)
        (R := fun s s' => s'.context.validation.operations = s.context.validation.operations)
        (fun _ => rfl) (fun h h' => h'.trans h) Session.operations_assignOperation (fun _ _ => rfl)
        s.store.next id s
      exact hassign.symm ▸ h
  | inversion kept =>
      rw [run, runInversion]
      split
      · exact h
      · split <;> exact h
  | removal unwanted => exact h
  | cleanup => exact h
  | validation own =>
      rw [run, runValidation, ValidationResult.validate, ValidationResult.addNewErrors,
        ValidationResult.foldl_addError]
      exact h.union Findings.tidy_findings

end Operations

namespace Context

/-- What can happen to a context: a pass is run in it, on whatever query; the findings are taken;
it is used for another type of query; or it is set up in another way, which leaves the findings
alone. -/
inductive Step : Context → Context → Prop
  | run (c : Context) (p : Pass) (store : Store) (id : NodeId) :
      Step c (p.run id ⟨store, c⟩).2.context
  | taken (c : Context) : Step c c.freshValidation
  | typed (c : Context) (type : QueryType) : Step c (c.withQueryType type)
  | settings {c c' : Context} (h : c'.validation = c.validation) : Step c c'

def Reachable (c : Context) : Prop :=
  ∃ (start : Context) (type : QueryType), start.validation = .fresh type ∧
    Relation.ReflTransGen Step start c

theorem Step.tidy {c c' : Context} (hstep : c.Step c') (h : c.validation.operations.Tidy) :
    c'.validation.operations.Tidy := by
  cases hstep with
  | run p store id => exact Pass.tidy_run (s := ⟨store, c⟩) h p id
  | taken => exact NameTable.tidy_empty
  | typed => exact h
  | settings heq => exact heq ▸ h

theorem Reachable.tidy {c : Context} (h : c.Reachable) : c.validation.operations.Tidy := by
  obtain ⟨start, type, hfresh, hsteps⟩ := h
  induction hsteps with
  | refl => exact hfresh ▸ NameTable.tidy_empty
  | tail _ hstep ih => exact hstep.tidy ih

end Context

namespace Pass

def verdict (o : ValidationOptions) (id : NodeId) (r : ValidationResult) :
    Except QueryError NodeId :=
  if o.failsOnInvalid && !r.isValid then .error (.invalid r) else .ok id

theorem run_validation (own : Option ValidationOptions) (id : NodeId) (s : Session)
    {r : ValidationResult} (hr : s.context.validation.validate s.context.queryType
      (own.getD s.context.options) ((s.store.view id).findings (setting s)) = r) :
    (validation own).run id s = (verdict (own.getD s.context.options) id r,
      { s with context := { s.context with validation := r } }) := by
  subst hr
  rfl

/-- A check adds those errors of the policy that are not there yet, as often as the policy finds
them, and when it is run again with the same options it changes nothing and has the same outcome. -/
theorem validation_again {s : Session} (h : s.context.Reachable) (own : Option ValidationOptions)
    (id : NodeId) :
    let once := (validation own).run id s
    let found := (s.store.view id).findings (setting s)
    let known := s.context.validation.addFindings s.context.queryType found
    once.2.context.validation.errors = s.context.validation.errors ++
        ((own.getD s.context.options).errors found known).filter
          (fun error => !s.context.validation.errors.contains error) ∧
      (validation own).run id once.2 = once := by
  intro once found known
  have hagain := ValidationResult.validate_validate h.tidy s.context.queryType
    (own.getD s.context.options) (show found.operations.Tidy from Findings.tidy_findings)
  refine ⟨ValidationResult.errors_addNewErrors .., ?_⟩
  -- what is known after the first run is all that counts from here on
  have honce : once = _ := run_validation own id s rfl
  rw [honce]
  generalize s.context.validation.validate s.context.queryType (own.getD s.context.options)
    ((s.store.view id).findings (setting s)) = r at hagain
  exact run_validation own id { s with context := { s.context with validation := r } } hagain

/-- In a context where `terms:()` was found to name no field, the query `*a *a` breaks the rule
about wildcards twice. A second check finds neither error once more. -/
theorem validation_again_of_two_wildcards :
    let wild (id : NodeId) : Tree := .leaf id .plain (.term ⟨"*a", .bare⟩)
    let terms : Attributes := { Attributes.plain with field := some "terms" }
    let empty : Store :=
      .ofTree (.group 0 .plain .plain (.group 1 terms ⟨.default, true⟩ .nil .nil) .nil)
    let context := (operations.run 0 ⟨empty, Context.empty.withQueryType .aggregation⟩).2.context
    let s : Session := ⟨.ofTree (.group 0 .plain .plain (wild 1) (wild 2)), context⟩
    let policy := { ValidationOptions.standard with
      allowLeadingWildcards := false
      failsOnInvalid := true }
    let once := (validation (some policy)).run 0 s
    once.2.context.validation.errors = ["terms must specify a field",
        "Terms must not start with a wildcard: *a", "Terms must not start with a wildcard: *a"] ∧
      (validation (some policy)).run 0 once.2 = once := by
  intro wild terms empty context s policy once
  have hreachable : context.Reachable :=
    ⟨Context.empty.withQueryType .aggregation, .aggregation, rfl, .single (.run _ operations empty 0)⟩
  have hempty : empty.IsQuery := ⟨Store.wellFormed_ofTree rfl (by decide), by decide⟩
  have htree : empty.tree = _ := Store.tree_ofTree rfl (by decide)
  obtain ⟨s₁, hrun, -, -, -, hcontext⟩ :=
    exists_run_operations (s := ⟨empty, Context.empty.withQueryType .aggregation⟩) hempty
  have hknown : context = { Context.empty.withQueryType .aggregation with
      validation := (ValidationResult.fresh .aggregation).addError "terms must specify a field" } := by
    rw [show context = s₁.context from congrArg (·.2.context) hrun, hcontext, htree]
    refine congrArg (fun v => { Context.empty.withQueryType .aggregation with validation := v }) ?_
    decide +kernel
  clear_value context
  subst hknown
  obtain ⟨herrors, hagain⟩ := validation_again (s := s) hreachable (some policy) 0
  exact ⟨herrors.trans (by decide +kernel), hagain⟩

end Pass

end SearchQuery
