import SearchQuery.Proofs.Validation.Repetition

/-!
# Checking one query after another

`Session.validate` checks a whole query and takes the findings out of the context, so that the next
query finds nothing of them there. But it only gets to take them when the check does not fail: an
error leaves the context as the check left it. So a context in which nothing had been found is such
a context again after each call that succeeds and after no other, and the calls that follow have the
outcomes that they have on their own just if no call before them has failed,
`Context.validations_isolated_iff`.
-/

namespace SearchQuery

namespace ValidationResult

def IsFresh (r : ValidationResult) : Prop :=
  ∃ type, r = .fresh type

theorem isFresh_fresh (type : QueryType) : (fresh type).IsFresh :=
  ⟨type, rfl⟩

theorem IsFresh.isValid {r : ValidationResult} (h : r.IsFresh) : r.isValid = true := by
  obtain ⟨type, rfl⟩ := h
  rfl

theorem IsFresh.validate_eq {r : ValidationResult} (h : r.IsFresh) (type : QueryType)
    (o : ValidationOptions) (found : Findings) :
    r.validate type o found = (fresh type).validate type o found := by
  obtain ⟨_, rfl⟩ := h
  rfl

theorem isValid_validate_of_invalid {r : ValidationResult} (h : r.isValid = false)
    (type : QueryType) (o : ValidationOptions) (found : Findings) :
    (r.validate type o found).isValid = false := by
  rw [validate, addNewErrors, foldl_addError, show (r.addFindings type found).isValid = _ from h,
    Bool.false_and]

end ValidationResult

namespace Context

def validateEach (c : Context) : List Store → List (Except QueryError ValidationResult) × Context
  | [] => ([], c)
  | store :: rest =>
      let first := Session.validate ⟨store, c⟩
      let others := first.2.context.validateEach rest
      (first.1 :: others.1, others.2)

/-- How the check of a query ends in a context of the same setup where nothing has been found. -/
def alone (c : Context) (store : Store) : Except QueryError ValidationResult :=
  (Session.validate ⟨store, c.freshValidation⟩).1

def withValidation (c : Context) (r : ValidationResult) : Context :=
  { c with validation := r }

def known (c : Context) (store : Store) : ValidationResult :=
  c.validation.validate c.queryType c.options (store.tree.findings (Pass.setting ⟨store, c⟩))

variable {c : Context} {store : Store}

/-- A check ends with an error and leaves what is known in the context, or it takes what is known
out of the context. -/
theorem validate_eq (c : Context) (store : Store) :
    Session.validate ⟨store, c⟩ =
      if c.options.failsOnInvalid && !(c.known store).isValid then
        (.error (.invalid (c.known store)), ⟨store, c.withValidation (c.known store)⟩)
      else (.ok (c.known store), ⟨store, c.freshValidation⟩) := by
  have hrun := Pass.run_validation none store.root ⟨store, c⟩ (r := c.known store) rfl
  rw [Session.validate, hrun, Pass.verdict, Option.getD_none]
  generalize c.known store = r
  cases c.options.failsOnInvalid && !r.isValid <;> rfl

/-- A check that starts with nothing found ends as it does alone. If it succeeds nothing is found
again, and if it fails what is known is invalid. -/
theorem validate_of_isFresh (h : c.validation.IsFresh) (store : Store) :
    (Session.validate ⟨store, c⟩).1 = c.alone store ∧
      (((c.alone store).isOk ∧ (Session.validate ⟨store, c⟩).2.context = c.freshValidation) ∨
        ((c.alone store).isOk = false ∧ c.options.failsOnInvalid ∧
          ∃ r, r.isValid = false ∧
            (Session.validate ⟨store, c⟩).2.context = c.withValidation r)) := by
  have hknown : c.freshValidation.known store = c.known store := (h.validate_eq ..).symm
  have hoptions : c.freshValidation.options = c.options := rfl
  rw [alone, validate_eq, validate_eq, hknown, hoptions]
  generalize c.known store = r
  by_cases hfails : (c.options.failsOnInvalid && !r.isValid) = true
  · rw [if_pos hfails, if_pos hfails]
    rw [Bool.and_eq_true, Bool.not_eq_true'] at hfails
    exact ⟨rfl, .inr ⟨rfl, hfails.1, r, hfails.2, rfl⟩⟩
  · rw [if_neg hfails, if_neg hfails]
    exact ⟨rfl, .inl ⟨rfl, rfl⟩⟩

/-- Where what is known is invalid and that is an error, every check fails. -/
theorem validate_of_invalid (hinvalid : c.validation.isValid = false)
    (hfails : c.options.failsOnInvalid) (store : Store) :
    (Session.validate ⟨store, c⟩).1.isOk = false ∧ ∃ r, r.isValid = false ∧
      (Session.validate ⟨store, c⟩).2.context = c.withValidation r := by
  have hknown : (c.known store).isValid = false :=
    ValidationResult.isValid_validate_of_invalid hinvalid ..
  rw [validate_eq, hfails, hknown]
  exact ⟨rfl, c.known store, hknown, rfl⟩

theorem validateEach_of_invalid (hinvalid : c.validation.isValid = false)
    (hfails : c.options.failsOnInvalid) (stores : List Store) :
    ∃ r, r.isValid = false ∧ (c.validateEach stores).2 = c.withValidation r := by
  induction stores generalizing c with
  | nil => exact ⟨c.validation, hinvalid, rfl⟩
  | cons store rest ih =>
      obtain ⟨-, r, hr, hcontext⟩ := validate_of_invalid hinvalid hfails store
      obtain ⟨r', hr', hrest⟩ := ih (c := c.withValidation r) hr hfails
      refine ⟨r', hr', ?_⟩
      rw [validateEach, hcontext]
      exact hrest

/-- Either all checks succeed, and each of them ends as it does alone, or one of them fails, and what
is known in the end is invalid. -/
theorem validateEach_cases (h : c.validation.IsFresh) (stores : List Store) :
    ((∀ store ∈ stores, (c.alone store).isOk) ∧
      (c.validateEach stores).1 = stores.map c.alone ∧
      ∃ r, r.IsFresh ∧ (c.validateEach stores).2 = c.withValidation r) ∨
    ((∃ store ∈ stores, (c.alone store).isOk = false) ∧
      (∃ outcome ∈ (c.validateEach stores).1, outcome.isOk = false) ∧ c.options.failsOnInvalid ∧
      ∃ r, r.isValid = false ∧ (c.validateEach stores).2 = c.withValidation r) := by
  induction stores generalizing c with
  | nil => exact .inl ⟨List.forall_mem_nil _, rfl, c.validation, h, rfl⟩
  | cons store rest ih =>
      obtain ⟨houtcome, ⟨hok, hcontext⟩ | ⟨hnot, hfails, r, hr, hcontext⟩⟩ :=
        validate_of_isFresh h store
      · simp only [validateEach, hcontext, houtcome]
        obtain ⟨hall, houtcomes, r, hr, hafter⟩ | ⟨hsome, hsome', hfails, r, hr, hafter⟩ :=
          ih (c := c.freshValidation) (ValidationResult.isFresh_fresh c.queryType)
        · refine .inl ⟨List.forall_mem_cons.2 ⟨hok, hall⟩, ?_, r, hr, hafter⟩
          exact congrArg (c.alone store :: ·) houtcomes
        · obtain ⟨other, hmem, hother⟩ := hsome
          obtain ⟨outcome, hmem', hnot⟩ := hsome'
          exact .inr ⟨⟨other, .tail _ hmem, hother⟩, ⟨outcome, .tail _ hmem', hnot⟩, hfails, r, hr,
            hafter⟩
      · obtain ⟨r', hr', hafter⟩ := validateEach_of_invalid (c := c.withValidation r) hr hfails rest
        simp only [validateEach, hcontext, houtcome]
        exact .inr ⟨⟨store, .head _, hnot⟩, ⟨_, .head _, hnot⟩, hfails, r', hr', hafter⟩

/-- A query without clauses is in no conflict with any policy: it is one group deep, and a limit of
zero is none. -/
theorem isOk_alone_empty (c : Context) : (c.alone .empty).isOk := by
  let setting := Pass.setting ⟨.empty, c⟩
  let known := (ValidationResult.fresh c.queryType).addFindings c.queryType
    (Store.empty.tree.findings setting)
  have htree : Store.empty.tree = .group 0 .plain .plain .nil .nil := rfl
  have hpaths : ∀ path ∈ Store.empty.tree.paths [], ∀ spot ∈ path.head?, ∀ term,
      spot.label ≠ .inl (.term term) := by
    rw [htree]
    rintro path hpath spot hspot term hlabel
    obtain rfl := List.mem_singleton.1 hpath
    obtain rfl := Option.some.inj hspot
    cases hlabel
  have hpermits : c.options.Permits c.isPattern known Store.empty.tree := by
    constructor
    · exact fun field hfield => nomatch hfield
    · exact fun operation hkey => nomatch hkey
    · exact .inr rfl
    · exact .inr rfl
    · exact .inr fun path hpath spot hspot term hterm =>
        absurd hterm (hpaths path hpath spot hspot term)
    · exact fun path hpath spot hspot term hterm =>
        absurd hterm (hpaths path hpath spot hspot term)
    · exact (Nat.eq_zero_or_pos _).imp_right Nat.succ_le_of_lt
  have hclean : (ValidationResult.fresh c.queryType).Clean := ⟨rfl, rfl, rfl, rfl, rfl, rfl⟩
  have hvalid : (c.freshValidation.known .empty).isValid = true := by
    have hchecked : c.freshValidation.known .empty = _ :=
      hclean.validate_eq c.queryType c.options (Store.empty.tree.findings setting)
    rw [hchecked, List.isEmpty_iff, c.options.errors_eq_nil_iff setting]
    exact hpermits
  rw [alone, validate_eq, hvalid, Bool.not_true, Bool.and_false, if_neg Bool.false_ne_true]
  rfl

/-- Of calls one after another in a context where nothing has been found all succeed if and only if
each of them does alone, and then they end as they do alone. Nothing is found in the context after
them if and only if they all succeed, and just then every further call ends as it does alone. -/
theorem validations_isolated_iff (h : c.validation.IsFresh) (stores : List Store) :
    let outcomes := (c.validateEach stores).1
    let after := (c.validateEach stores).2
    after = c.withValidation after.validation ∧
      ((∀ outcome ∈ outcomes, outcome.isOk) ↔ ∀ store ∈ stores, (c.alone store).isOk) ∧
      ((∀ outcome ∈ outcomes, outcome.isOk) → outcomes = stores.map c.alone) ∧
      (after.validation.IsFresh ↔ ∀ outcome ∈ outcomes, outcome.isOk) ∧
      ((∀ next, (Session.validate ⟨next, after⟩).1 = c.alone next) ↔
        ∀ outcome ∈ outcomes, outcome.isOk) := by
  intro outcomes after
  obtain ⟨hall, houtcomes, r, hr, hafter⟩ | ⟨⟨store, hmem, hnot⟩, ⟨outcome, hmem', hnot'⟩, hfails, r,
    hr, hafter⟩ := validateEach_cases h stores
  · have hok : ∀ outcome ∈ outcomes, outcome.isOk := by
      rw [show outcomes = _ from houtcomes]
      exact List.forall_mem_map.2 hall
    have hafter : after = c.withValidation r := hafter
    have hfresh : after.validation.IsFresh := hafter ▸ hr
    have hnext : ∀ next, (Session.validate ⟨next, after⟩).1 = c.alone next := by
      intro next
      rw [(validate_of_isFresh hfresh next).1, hafter]
      rfl
    exact ⟨hafter ▸ rfl, iff_of_true hok hall, fun _ => houtcomes, iff_of_true hfresh hok,
      iff_of_true hnext hok⟩
  · have hsome : ¬ ∀ outcome ∈ outcomes, outcome.isOk := fun hok =>
      Bool.false_ne_true (hnot'.symm.trans (hok outcome hmem'))
    have hafter : after = c.withValidation r := hafter
    have hinvalid : after.validation.isValid = false := hafter ▸ hr
    have hfails' : after.options.failsOnInvalid := hafter ▸ hfails
    refine ⟨hafter ▸ rfl, iff_of_false hsome fun hall => ?_, fun hok => absurd hok hsome,
      iff_of_false (fun hfresh => ?_) hsome, iff_of_false (fun hnext => ?_) hsome⟩
    · exact Bool.false_ne_true (hnot.symm.trans (hall store hmem))
    · exact Bool.false_ne_true (hinvalid.symm.trans hfresh.isValid)
    · -- a query that nothing can be said against tells the two contexts apart
      have hempty := (validate_of_invalid hinvalid hfails' .empty).1
      rw [hnext] at hempty
      exact Bool.false_ne_true (hempty.symm.trans c.isOk_alone_empty)

/-- Where errors are to be raised and the field `secret` is restricted, the query `a:1` can be
checked twice, but not the query `secret:1`. -/
theorem validations_isolated_until_failure :
    let on (field : String) : Store := .ofTree (.group 0 .plain .plain
      (.leaf 1 { Attributes.plain with field := some field } (.term ⟨"1", .bare⟩)) .nil)
    let c : Context := { Context.empty with
      options := { ValidationOptions.standard with
        restrictedFields := .ofList ["secret"]
        failsOnInvalid := true } }
    (c.validateEach [on "a", on "a"]).1 = [c.alone (on "a"), c.alone (on "a")] ∧
      (c.validateEach [on "a", on "a"]).2.validation.IsFresh ∧
      ¬ (c.validateEach [on "a", on "secret"]).2.validation.IsFresh := by
  intro on c
  have hfresh : c.validation.IsFresh := ⟨.query, rfl⟩
  have ha : (c.alone (on "a")).isOk = true := by decide +kernel
  have hsecret : (c.alone (on "secret")).isOk = false := by decide +kernel
  obtain ⟨-, hok, houtcomes, hafter, -⟩ := validations_isolated_iff hfresh [on "a", on "a"]
  obtain ⟨-, hok', -, hafter', -⟩ := validations_isolated_iff hfresh [on "a", on "secret"]
  have hboth := hok.2 (by simpa using ha)
  refine ⟨houtcomes hboth, hafter.2 hboth, fun h => ?_⟩
  have hnone := hok'.1 (hafter'.1 h) (on "secret") (by simp)
  exact Bool.false_ne_true (hsecret.symm.trans hnone)

/-- Where errors are to be raised and the field `secret` is restricted, the check of `secret:1`
fails, and then that of `a:1` fails in the same context, with the error about `secret`. -/
theorem validation_of_next_query_fails :
    let on (field : String) : Store := .ofTree (.group 0 .plain .plain
      (.leaf 1 { Attributes.plain with field := some field } (.term ⟨"1", .bare⟩)) .nil)
    let c : Context := { Context.empty with
      options := { ValidationOptions.standard with
        restrictedFields := .ofList ["secret"]
        failsOnInvalid := true } }
    let after := (c.validateEach [on "secret"]).2
    c.validation = .fresh .query ∧ after.validation.errors = ["Field is restricted: secret"] ∧
      (c.alone (on "a")).isOk = true ∧ (Session.validate ⟨on "a", after⟩).1.isOk = false := by
  intro on c after
  exact ⟨rfl, by decide +kernel, by decide +kernel, by decide +kernel⟩

end Context

end SearchQuery
