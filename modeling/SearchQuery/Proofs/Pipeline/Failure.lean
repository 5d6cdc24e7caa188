import SearchQuery.Proofs.Pass.Runs
import SearchQuery.Proofs.Validation.Repetition

/-!
# Pipelines that fail

All that can make a pass fail is looked at before it changes anything, but for the check of a query,
which fails on what it has found, `Pass.run_eq_error_iff`. A pipeline ends with the first pass that
fails, `Session.runAll_eq_error`. So what it leaves behind is what the passes before that one leave,
and only a check that fails adds its findings to the context: those that its error carries,
`Pipeline.failure_leaves_prefix`.
-/

namespace SearchQuery

namespace Pass

/-- How a pass can fail at a node: with the error, and with the session that it leaves then. -/
inductive Fails (id : NodeId) (s : Session) : Pass → QueryError → Session → Prop
  | aliasesMissing {own} (h : s.context.aliases.or own = none) :
      Fails id s (aliases own) .aliasesMissing s
  | inversionUnderOr {kept} (h : s.context.defaultOperator = .or) :
      Fails id s (inversion kept) .inversionUnderOr s
  | inversionOfLeaf {kept} (h : s.context.defaultOperator ≠ .or) (hleaf : s.store.isGroup id = false) :
      Fails id s (inversion kept) .inversionOfLeaf s
  | invalid {own r} (hresult : r = s.context.validation.validate s.context.queryType
        (own.getD s.context.options) ((s.store.view id).findings (setting s)))
      (hthrows : (own.getD s.context.options).failsOnInvalid) (hinvalid : r.isValid = false) :
      Fails id s (validation own) (.invalid r)
        { s with context := { s.context with validation := r } }

variable {p : Pass} {id : NodeId} {s s' : Session} {e : QueryError}

theorem run_eq_error_iff : p.run id s = (.error e, s') ↔ p.Fails id s e s' := by
  constructor
  · intro h
    cases p with
    | aliases own =>
        rw [run] at h
        split at h
        · next hnone =>
            cases h
            exact .aliasesMissing hnone
        · cases h
    | inversion kept =>
        rw [run, runInversion] at h
        split at h
        · next hor =>
            cases h
            exact .inversionUnderOr hor
        · next hor =>
            split at h
            · next hleaf =>
                cases h
                exact .inversionOfLeaf hor (by simpa using hleaf)
            · cases h
    | validation own =>
        rw [run_validation own id s rfl, verdict] at h
        split at h
        · next hinvalid =>
            cases h
            rw [Bool.and_eq_true, Bool.not_eq_true'] at hinvalid
            exact .invalid rfl hinvalid.1 hinvalid.2
        · cases h
    | _ => cases h
  · intro h
    cases h with
    | aliasesMissing hnone => rw [run, hnone]
    | inversionUnderOr hor => rw [run, runInversion, if_pos hor]
    | inversionOfLeaf hor hleaf =>
        rw [run, runInversion, if_neg hor, hleaf]
        rfl
    | @invalid own r hresult hthrows hinvalid =>
        rw [run_validation own id s hresult.symm, verdict, hthrows, hinvalid]
        rfl

namespace Fails

/-- A pass that fails leaves the query and the notes on it alone. -/
theorem store_eq (h : p.Fails id s e s') : s'.store = s.store := by
  cases h <;> rfl

/-- A pass other than a check leaves the context alone, too, when it fails. -/
theorem eq_of_kind_ne (h : p.Fails id s e s') (hp : p.kind ≠ .validation) : s' = s := by
  cases h with
  | invalid => exact absurd rfl hp
  | _ => rfl

end Fails

end Pass

namespace Session

variable {s s' t : Session} {id top : NodeId} {e : QueryError} {passes before : List Pass}
  {failing : Pass}

/-- If passes one after another end with an error, one of them has failed where those before it have
led. -/
theorem exists_failing (h : s.runAll id passes = (.error e, s')) :
    ∃ before failing after top t, passes = before ++ failing :: after ∧
      s.runAll id before = (.ok top, t) ∧ failing.Fails top t e s' := by
  induction passes generalizing s id with
  | nil => cases h
  | cons p rest ih =>
      rw [runAll] at h
      split at h
      · next middle u hrun =>
          obtain ⟨before, failing, after, top, t, rfl, hbefore, hfails⟩ := ih h
          exact ⟨p :: before, failing, after, top, t, rfl, by rw [runAll, hrun]; exact hbefore, hfails⟩
      · next hrun =>
          cases h
          exact ⟨[], p, rest, id, s, rfl, rfl, Pass.run_eq_error_iff.1 hrun⟩

theorem runAll_of_fails (hbefore : s.runAll id before = (.ok top, t))
    (hfails : failing.Fails top t e s') (later : List Pass) :
    s.runAll id (before ++ failing :: later) = (.error e, s') := by
  rw [runAll_append, hbefore]
  dsimp only
  rw [runAll, Pass.run_eq_error_iff.2 hfails]

end Session

namespace Pipeline

/-- Where a run of a pipeline ends with an error, one of its passes has failed, those of inner
pipelines counted. The query and the notes on it are as the passes before that one leave them, and no
pass behind it has any effect. The context is as the passes before leave it, too, unless a check has
failed: then what this check has found is added to what was known, the errors that are new
included, and all of it is in the error. -/
theorem failure_leaves_prefix {p : Pipeline PassKind Stage} {s s' : Session} {e : QueryError}
    (h : p.run s = (.error e, s')) :
    ∃ before failing after top t, p.passes = before ++ failing :: after ∧
      s.runAll s.store.root before = (.ok top, t) ∧ failing.run top t = (.error e, s') ∧
      (∀ later, s.runAll s.store.root (before ++ failing :: later) = (.error e, s')) ∧
      s'.store = t.store ∧
      (failing.kind ≠ .validation → s'.context = t.context) ∧
      ∀ own, failing = .validation own →
        let known := t.context.validation
        let found := (t.store.view top).findings (Pass.setting t)
        let errors := (own.getD t.context.options).errors found
          (known.addFindings t.context.queryType found)
        ∃ r, e = .invalid r ∧ s'.context = { t.context with validation := r } ∧
          r.isValid = false ∧
          r.Adds known t.context.queryType found
            (errors.filter fun error => !known.errors.contains error) := by
  obtain ⟨before, failing, after, top, t, hpasses, hbefore, hfails⟩ := Session.exists_failing h
  refine ⟨before, failing, after, top, t, hpasses, hbefore, Pass.run_eq_error_iff.2 hfails,
    Session.runAll_of_fails hbefore hfails, hfails.store_eq, fun hkind => ?_, ?_⟩
  · rw [hfails.eq_of_kind_ne hkind]
  · rintro own rfl known found errors
    cases hfails with
    | @invalid _ r hresult _ hinvalid =>
        refine ⟨r, rfl, rfl, hinvalid, ?_⟩
        rw [hresult]
        exact ValidationResult.adds_validate ..

/-- The query `(a) secret:1` is tidied up, and then a pipeline of its own checks it, which fails, and
would invert it. -/
theorem failure_leaves_prefix_of_restricted_field :
    let secret : Attributes := { Attributes.plain with field := some "secret" }
    let s : Session := ⟨.ofTree (.group 0 .plain .plain
      (.group 1 .plain ⟨.default, true⟩ (.leaf 2 .plain (.term ⟨"a", .bare⟩)) .nil)
      (.leaf 3 secret (.term ⟨"1", .bare⟩))), .empty⟩
    let policy := { ValidationOptions.standard with
      restrictedFields := .ofList ["secret"]
      failsOnInvalid := true }
    let inner : Pipeline PassKind Stage := ⟨[⟨0, .validation, .pass (.validation (some policy))⟩,
      ⟨1, .inversion, .pass (.inversion [])⟩]⟩
    let p : Pipeline PassKind Stage :=
      ⟨[⟨0, .cleanup, .pass .cleanup⟩, ⟨1, .pipeline, inner.toStage⟩]⟩
    ∃ e s' tidied, p.run s = (.error e, s') ∧ s.runAll s.store.root [.cleanup] = (.ok 0, tidied) ∧
      s'.store = tidied.store ∧ e = .invalid s'.context.validation ∧
      s'.context.validation.errors = ["Field is restricted: secret"] := by
  intro secret s policy inner p
  have hfailed : (p.run s).1.isOk = false := by decide +kernel
  have hchecked : (s.runAll s.store.root [.cleanup, .validation (some policy)]).1.isOk = false := by
    decide +kernel
  have herrors : (p.run s).2.context.validation.errors = ["Field is restricted: secret"] := by
    decide +kernel
  have htop : (s.runAll s.store.root [.cleanup]).1.toOption = some 0 := by decide +kernel
  match hrun : p.run s with
  | (.ok _, _) =>
      rw [hrun] at hfailed
      cases hfailed
  | (.error e, s') =>
      obtain ⟨before, failing, after, top, t, hpasses, hbefore, hfails, -, hstore, -, hcheck⟩ :=
        failure_leaves_prefix hrun
      have hcut : [Pass.cleanup, .validation (some policy), .inversion []] =
          before ++ failing :: after := hpasses
      -- neither tidying up nor the inversion, which is not reached, has failed
      obtain ⟨hclean, hfailing⟩ : before = [.cleanup] ∧ failing = .validation (some policy) := by
        rcases before with _ | ⟨first, _ | ⟨second, _ | ⟨third, rest⟩⟩⟩ <;>
          simp only [List.cons_append, List.nil_append, List.cons.injEq] at hcut
        · obtain ⟨rfl, -⟩ := hcut
          cases Pass.run_eq_error_iff.1 hfails
        · obtain ⟨rfl, rfl, -⟩ := hcut
          exact ⟨rfl, rfl⟩
        · obtain ⟨rfl, rfl, -⟩ := hcut
          rw [hbefore] at hchecked
          cases hchecked
        · obtain ⟨-, -, -, hnil⟩ := hcut
          simp at hnil
      obtain ⟨r, rfl, hcontext, -⟩ := hcheck _ hfailing
      rw [hclean] at hbefore
      rw [hbefore] at htop
      obtain rfl : top = 0 := Option.some.inj htop
      rw [hrun] at herrors
      refine ⟨_, s', t, rfl, hbefore, hstore, ?_, herrors⟩
      rw [hcontext]

end Pipeline

end SearchQuery
