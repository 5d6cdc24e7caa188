import SearchQuery.Proofs.Operations.Assignment
import SearchQuery.Proofs.Query.FixedPoint
import SearchQuery.Proofs.Validation.Repetition

/-!
# Operations that are accounted for

An operation that an aggregation is written with is accounted for if the check of it has found it in
use, or if an error says that it names no field. The operations in use are those that nodes ask for,
`Tree.mem_keys_findings_assignOperations`, and no error of the policy can be taken for one about a
field, `ValidationOptions.not_mem_errors`. So the operations of terms and groups are all accounted
for, but one that is written in front of a range only if a term or a group asks for it as well,
`Pass.operations_accounted_iff`.
-/

namespace SearchQuery

section Use

variable {s : Findings.Setting} {t u : Tree} {operation : String} {path : List Spot}

theorem Findings.exists_asks_leaf (s : Findings.Setting) (id : NodeId) (a : Attributes) (l : Leaf) :
    ∃ name, Asks s ⟨id, a, .inl l⟩ name := by
  obtain ⟨name, hname⟩ := List.exists_mem_of_ne_nil _ (leafFields_ne_nil s a)
  exact ⟨name, asks_leaf.2 hname⟩

/-- Outside plain queries an operation applies only where it is noted, or around there. -/
theorem Findings.Applies.exists_noted (h : Applies s path operation)
    (hother : s.queryType ≠ .query) : ∃ id, s.operation? id = some operation := by
  cases h with
  | noted h => exact ⟨_, h⟩
  | kind _ hquery => exact absurd hquery hother
  | around _ _ h =>
      obtain ⟨group, -, hgroup⟩ := List.exists_of_findSome?_eq_some h
      exact ⟨group.id, hgroup⟩

theorem Findings.mem_keys_findings : operation ∈ (t.findings s).operations.keys ↔
    ∃ path ∈ t.paths [], ∃ spot ∈ path.head?,
      Applies s path operation ∧ ∃ name, Asks s spot name := by
  rw [tidy_findings.mem_keys_iff]
  simp only [files_findings]
  constructor
  · rintro ⟨name, path, hpath, spot, hspot, happlies, hasks⟩
    exact ⟨path, hpath, spot, hspot, happlies, name, hasks⟩
  · rintro ⟨path, hpath, spot, hspot, happlies, name, hasks⟩
    exact ⟨name, path, hpath, spot, hspot, happlies, hasks⟩

/-- A node that asks for an operation asks about a field when it has been assigned. -/
theorem Tree.exists_asks_assignOperations (h : u.asked? = some operation) :
    ∃ spot, u.assignOperations.spot? = some spot ∧ u.id? = some spot.id ∧
      ∀ s, ∃ name, Findings.Asks s spot name := by
  cases u with
  | nil => cases h
  | leaf id a l =>
      cases l with
      | term term => exact ⟨_, rfl, rfl, fun s => Findings.exists_asks_leaf s _ _ _⟩
      | _ => cases h
  | group id a g l r =>
      have hoperation : operation? a = some operation := h
      rw [assignOperations, hoperation]
      cases hoperand : l.operand? with
      | none =>
          have hfield := (Option.filter_eq_some_iff.1 hoperation).1
          exact ⟨_, rfl, rfl, fun s => ⟨operation, .own hfield⟩⟩
      | some field =>
          obtain ⟨i, b, term, rfl⟩ := eq_leaf_of_operand? hoperand
          rw [operand?, Option.filter_eq_some_iff] at hoperand
          have hfield : (takeOperand a b field).fieldName? = some field := by
            simpa [Attributes.fieldName?, takeOperand] using hoperand.2
          exact ⟨_, rfl, rfl, fun s => ⟨field, .own hfield⟩⟩

/-- The operations that an assigned tree uses are those that its nodes ask for. -/
theorem Tree.mem_keys_findings_assignOperations (hnodup : t.ids.Nodup)
    (hnotes : s.notes = t.operationEvents.foldl OperationEvent.note .empty)
    (hother : s.queryType ≠ .query) :
    operation ∈ (t.assignOperations.findings s).operations.keys ↔
      ∃ u ∈ t.subtrees, ¬ t.IsTaken u ∧ u.asked? = some operation := by
  have hnoted : ∀ id, s.operation? id = some operation ↔
      ∃ u ∈ t.subtrees, ¬ t.IsTaken u ∧ u.id? = some id ∧ u.asked? = some operation := by
    intro id
    rw [Findings.Setting.operation?, hnotes, get?_operationType_iff hnodup]
  rw [Findings.mem_keys_findings]
  constructor
  · rintro ⟨path, -, spot, -, happlies, -⟩
    obtain ⟨id, hid⟩ := happlies.exists_noted hother
    obtain ⟨u, hu, hfree, -, hasked⟩ := (hnoted id).1 hid
    exact ⟨u, hu, hfree, hasked⟩
  · rintro ⟨u, hu, hfree, hasked⟩
    obtain ⟨spot, hspot, hid, hasks⟩ := exists_asks_assignOperations hasked
    have hmem : u.assignOperations ∈ t.assignOperations.subtrees := by
      rw [subtrees_assignOperations]
      exact List.mem_map_of_mem (mem_untaken_of_not_isTaken hu hfree)
    obtain ⟨path, hpath, spot, hhead, hoperation, hasks⟩ := exists_path_iff
      (p := fun spot => s.operation? spot.id = some operation ∧ ∃ name, Findings.Asks s spot name).2
        ⟨_, hmem, spot, hspot, (hnoted _).2 ⟨u, hu, hfree, hid, hasked⟩, hasks s⟩
    obtain ⟨above, rfl⟩ := List.head?_eq_some_iff.1 hhead
    exact ⟨_, hpath, spot, rfl, .noted hoperation, hasks⟩

end Use

section Errors

variable {operation error : String} {events : List OperationEvent} {r : ValidationResult}

def OperationEvent.error? : OperationEvent → Option String
  | assigned .. => none
  | fieldMissing (some operation) => some (operation ++ " must specify a field")
  | fieldMissing none => some "must specify a field"

theorem OperationEvent.mem_errors_foldl_record :
    error ∈ (events.foldl record r).errors ↔
      error ∈ r.errors ∨ ∃ event ∈ events, event.error? = some error := by
  refine foldl_iff (p := fun r : ValidationResult => error ∈ r.errors) (fun r event => ?_) events r
  match event with
  | assigned .. => simp [record, error?]
  | fieldMissing (some _) => simp [record, error?, ValidationResult.addError, eq_comm]
  | fieldMissing none => simp [record, error?, ValidationResult.addError, eq_comm]

theorem OperationEvent.eq_fieldMissing {event : OperationEvent}
    (h : event.error? = some (operation ++ " must specify a field")) :
    event = .fieldMissing (some operation) := by
  match event, h with
  | fieldMissing (some other), h =>
      have hlist := congrArg String.toList (Option.some.inj h)
      rw [String.toList_append, String.toList_append, List.append_left_inj] at hlist
      rw [String.toList_inj.1 hlist]
  | fieldMissing none, h =>
      have hlength := congrArg (fun text : String => text.toList.length) (Option.some.inj h)
      simp at hlength

namespace ValidationOptions

/-- An error that begins with a word and a blank and goes on in its own way is not about an operation
without a field. -/
theorem ne_of_begins (hoperation : Token.IsWord operation.toList) (first rest : String)
    (hfirst : Token.IsWord first.toList) (hrest : rest.toList.take 6 ≠ "must s".toList)
    (herror : error = first ++ (" " ++ rest)) : error ≠ operation ++ " must specify a field" := by
  subst herror
  intro heq
  have hlist : first.toList ++ ' ' :: rest.toList =
      operation.toList ++ ' ' :: "must specify a field".toList := by
    simpa using congrArg String.toList heq
  obtain ⟨-, h⟩ := Token.eq_of_isWord_append hfirst hoperation hlist
  exact hrest (h ▸ rfl)

theorem nameError?_ne (hoperation : Token.IsWord operation.toList) {allowed restricted : NameSet}
    {kind name : String} (hkind : Token.IsWord kind.toList)
    (h : nameError? allowed restricted kind name = some error) :
    error ≠ operation ++ " must specify a field" := by
  rw [nameError?] at h
  split at h
  · exact ne_of_begins hoperation kind ("not allowed: " ++ name) hkind (by simp)
      (by simp [← Option.some.inj h, ← String.toList_inj])
  · split at h
    · exact ne_of_begins hoperation kind ("is restricted: " ++ name) hkind (by simp)
        (by simp [← Option.some.inj h, ← String.toList_inj])
    · cases h

theorem unresolvedError?_ne (hoperation : Token.IsWord operation.toList) {allow : Bool}
    {kind : String} {names : NameSet}
    (hkind : ∀ text, (kind ++ ": " ++ text).toList.take 6 ≠ "must s".toList)
    (h : unresolvedError? allow kind names = some error) :
    error ≠ operation ++ " must specify a field" := by
  rw [unresolvedError?] at h
  split at h
  · exact ne_of_begins hoperation "Unresolved" (kind ++ ": " ++ ", ".intercalate names.names)
      (by decide) (hkind _) (by simp [← Option.some.inj h, ← String.toList_inj])
  · cases h

theorem depthError?_ne (hoperation : Token.IsWord operation.toList) {limit depth : Nat}
    (h : depthError? limit depth = some error) : error ≠ operation ++ " must specify a field" := by
  rw [depthError?] at h
  split at h
  · exact ne_of_begins hoperation "Query" ("has a node depth of " ++ toString depth ++
      " but at most " ++ toString limit ++ " is allowed") (by decide) (by simp)
      (by simp [← Option.some.inj h, ← String.toList_inj])
  · cases h

/-- No error of the policy says of an operation that it must specify a field. -/
theorem not_mem_errors (hoperation : Token.IsWord operation.toList) (o : ValidationOptions)
    (found : Findings) (r : ValidationResult) :
    operation ++ " must specify a field" ∉ o.errors found r := by
  suffices h : ∀ error ∈ o.errors found r, error ≠ operation ++ " must specify a field" from
    fun hmem => h _ hmem rfl
  intro error herror
  simp only [errors, List.mem_append, List.mem_filterMap, Option.mem_toList, List.mem_map] at herror
  rcases herror with (((((⟨_, -, h⟩ | ⟨_, -, h⟩) | h) | h) | h) | ⟨text, -, h⟩) | h
  · exact nameError?_ne hoperation (by decide) h
  · exact nameError?_ne hoperation (by decide) h
  · exact unresolvedError?_ne hoperation (by simp) h
  · exact unresolvedError?_ne hoperation (by simp) h
  · split at h
    · cases h
    · obtain ⟨text, -, h⟩ := List.mem_map.1 h
      exact ne_of_begins hoperation "Terms" ("must not start with a wildcard: " ++ text)
        (by decide) (by simp) (by simp [← h, ← String.toList_inj])
  · exact ne_of_begins hoperation "Invalid" ("regular expression: " ++ text) (by decide) (by simp)
      (by simp [← h, ← String.toList_inj])
  · exact depthError?_ne hoperation h

end ValidationOptions

end Errors

namespace ValidationResult

variable {operation : String}

def AccountsFor (r : ValidationResult) (operation : String) : Prop :=
  operation ∈ r.operations.keys ∨ operation ++ " must specify a field" ∈ r.errors

instance (r : ValidationResult) (operation : String) : Decidable (r.AccountsFor operation) :=
  inferInstanceAs (Decidable (_ ∨ _))

theorem accountsFor_foldl_record (events : List OperationEvent) (r : ValidationResult) :
    (events.foldl OperationEvent.record r).AccountsFor operation ↔
      r.AccountsFor operation ∨ .fieldMissing (some operation) ∈ events := by
  have hmissing : (∃ event ∈ events, event.error? = some (operation ++ " must specify a field")) ↔
      .fieldMissing (some operation) ∈ events :=
    ⟨fun ⟨_, hevent, herror⟩ => OperationEvent.eq_fieldMissing herror ▸ hevent,
      fun h => ⟨_, h, rfl⟩⟩
  rw [AccountsFor, AccountsFor, OperationEvent.operations_foldl_record,
    OperationEvent.mem_errors_foldl_record, hmissing, or_assoc]

theorem mem_keys_validate_iff (r : ValidationResult) (type : QueryType) (o : ValidationOptions)
    (found : Findings) :
    operation ∈ (r.validate type o found).operations.keys ↔
      operation ∈ r.operations.keys ∨ operation ∈ found.operations.keys := by
  rw [(adds_validate ..).operations]
  exact NameTable.mem_keys_union

/-- A check accounts for the operations that a tree uses, and for no others. -/
theorem accountsFor_validate_iff (hoperation : Token.IsWord operation.toList) (r : ValidationResult)
    (type : QueryType) (o : ValidationOptions) (found : Findings) :
    (r.validate type o found).AccountsFor operation ↔
      r.AccountsFor operation ∨ operation ∈ found.operations.keys := by
  let known := r.addFindings type found
  have herrors : operation ++ " must specify a field" ∈ (r.validate type o found).errors ↔
      operation ++ " must specify a field" ∈ r.errors := by
    have hpolicy := o.not_mem_errors hoperation found known
    have hknown : known.errors = r.errors := rfl
    rw [show r.validate type o found = known.addNewErrors (o.errors found known) from rfl,
      errors_addNewErrors, List.mem_append, hknown]
    exact or_iff_left fun hmem => hpolicy (List.mem_filter.1 hmem).1
  rw [AccountsFor, AccountsFor, mem_keys_validate_iff, herrors, or_right_comm]

end ValidationResult

namespace Tree

variable {text operation : String} {t u : Tree}

/-- The operation that a node is written with, in front of its colon. Unlike the one that a node asks
for it may also stand in front of a range. -/
def writtenOperation? : Tree → Option String
  | leaf _ a (.term _) => operation? a
  | leaf _ a (.range _) => operation? a
  | group _ a _ _ _ => operation? a
  | _ => none

def isRange : Tree → Bool
  | leaf _ _ (.range _) => true
  | _ => false

theorem pieces_subset_of_mem_subtrees (h : u ∈ t.subtrees) : u.pieces ⊆ t.pieces := by
  induction t with
  | nil => cases h
  | leaf => exact List.mem_singleton.1 h ▸ List.Subset.refl _
  | group id a g l r ihl ihr =>
      rcases mem_subtrees_group.1 h with rfl | h | h
      · exact List.Subset.refl _
      · intro piece hpiece
        simp [pieces, ihl h hpiece]
      · have hr : r.isNil = false := by
          cases r with
          | nil => cases h
          | _ => rfl
        intro piece hpiece
        simp [pieces, hr, ihr h hpiece]

theorem field_mem_pieces (h : u.writtenOperation? = some operation) :
    .token (.field operation) ∈ u.pieces := by
  have hfield : ∀ {a : Attributes}, operation? a = some operation →
      .token (.field operation) ∈ a.fieldPieces := by
    intro a ha
    rw [Attributes.fieldPieces, (Option.filter_eq_some_iff.1 ha).1]
    exact List.mem_singleton_self _
  cases u with
  | nil => cases h
  | leaf id a l =>
      cases l with
      | term term => simp [pieces, Leaf.pieces, hfield h]
      | range range => simp [pieces, Leaf.pieces, hfield h]
      | _ => cases h
  | group id a g l r => simp [pieces, hfield h]

theorem isWord_of_writtenOperation? (h : Tree.parse text = .ok t) (hu : u ∈ t.subtrees)
    (hoperation : u.writtenOperation? = some operation) : Token.IsWord operation.toList := by
  obtain ⟨-, -, hpieces⟩ := exists_pieces_eq_of_parse h
  have hlexical : (Token.field operation).Lexical := by
    rcases hpieces _ (pieces_subset_of_mem_subtrees hu (field_mem_pieces hoperation)) with
      hread | hlexical
    · obtain ⟨lexeme, hlexeme, htoken⟩ := List.mem_map.1 hread
      have hcases := Lexing.lexical_of_mem hlexeme
      rw [htoken] at hcases
      exact hcases.resolve_right (by rintro (h | h) <;> cases h)
    · exact hlexical
  exact hlexical.1

theorem asked?_of_writtenOperation? (h : u.writtenOperation? = some operation)
    (hrange : ¬ u.isRange) : u.asked? = some operation := by
  cases u with
  | nil => cases h
  | leaf id a l =>
      cases l with
      | term term =>
          have hfield := (Option.filter_eq_some_iff.1 (show operation? a = some operation from h)).1
          rw [asked?, hfield, if_pos (Option.isSome_some)]
          exact h
      | range range => exact absurd rfl hrange
      | _ => cases h
  | group id a g l r => exact h

end Tree

namespace Pass

variable {text : String} {t : Tree}

/-- What is known when operations have been assigned from the root on and the query has been
checked. -/
theorem exists_validation_of_operations {s : Session} (h : s.store.IsQuery)
    (own : Option ValidationOptions) :
    ∃ setting : Findings.Setting,
      setting.notes =
        s.store.tree.operationEvents.foldl OperationEvent.note s.store.annotations ∧
      setting.queryType = s.context.queryType ∧
      (s.runAll s.store.root [.operations, .validation own]).2.context.validation =
        (s.store.tree.operationEvents.foldl OperationEvent.record s.context.validation).validate
          s.context.queryType (own.getD s.context.options)
          (s.store.tree.assignOperations.findings setting) := by
  obtain ⟨s₁, hrun, hroot, htree, hnotes, hcontext⟩ := exists_run_operations h
  have hview : s₁.store.view s.store.root = s.store.tree.assignOperations := by
    rw [← hroot]
    exact htree
  refine ⟨setting s₁, hnotes, by rw [setting, hcontext], ?_⟩
  have hall : (s.runAll s.store.root [.operations, .validation own]).2 =
      ((validation own).run s.store.root s₁).2 := by
    rw [Session.runAll, hrun]
    exact s₁.snd_runAll_singleton _ _
  rw [hall, run_validation own s.store.root s₁ rfl, hview, hcontext]

/-- In an aggregation the operations that terms and groups are written with are all in use when it
has been checked. One in front of a range is accounted for only if it was before or if a term or a
group asks for it, which the range itself does not do. -/
theorem operations_accounted_iff (h : Tree.parse text = .ok t) {context : Context}
    (htype : context.queryType = .aggregation) (own : Option ValidationOptions) :
    let s' := (Session.runAll ⟨.ofTree t, context⟩ (Store.ofTree t).root
      [.operations, .validation own]).2
    ∀ u ∈ t.subtrees, ¬ t.IsTaken u → ∀ operation, u.writtenOperation? = some operation →
      (¬ u.isRange → operation ∈ s'.context.validation.operations.keys) ∧
      (s'.context.validation.AccountsFor operation ↔
        context.validation.AccountsFor operation ∨
          ∃ v ∈ t.subtrees, ¬ t.IsTaken v ∧ v.asked? = some operation) := by
  intro s' u hu hfree operation hwritten
  obtain ⟨-, hnodup⟩ := Tree.nodup_ids_of_parse h
  obtain ⟨hquery, htree, -⟩ := Store.isQuery_of_parse h
  have hword := Tree.isWord_of_writtenOperation? h hu hwritten
  obtain ⟨setting, hnotes, hsetting, hresult⟩ :=
    exists_validation_of_operations (s := ⟨.ofTree t, context⟩) hquery own
  have hfresh : (Store.ofTree t).annotations = .empty := Store.annotations_ofTree t
  rw [htree] at hnotes hresult
  have hused : operation ∈ (t.assignOperations.findings setting).operations.keys ↔
      ∃ v ∈ t.subtrees, ¬ t.IsTaken v ∧ v.asked? = some operation :=
    Tree.mem_keys_findings_assignOperations hnodup (hfresh ▸ hnotes)
      (by rw [hsetting, htype]; decide)
  rw [show s'.context.validation = _ from hresult]
  constructor
  · intro hrange
    have hasked := Tree.asked?_of_writtenOperation? hwritten hrange
    exact (ValidationResult.mem_keys_validate_iff ..).2 (.inr (hused.2 ⟨u, hu, hfree, hasked⟩))
  · rw [ValidationResult.accountsFor_validate_iff hword, hused,
      ValidationResult.accountsFor_foldl_record, or_assoc]
    -- an operation without a field is asked for like any other
    exact or_congr_right (or_iff_right_of_imp (Tree.exists_asked_of_fieldMissing hnodup))

/-- The aggregation `terms:(status min:[1 TO 5]) min:price`: the operation `terms` is in use, and so
is `min`, which the last term asks for. -/
theorem operations_accounted_of_terms :
    let text := "terms:(status min:[1 TO 5]) min:price"
    let min : Attributes := { Attributes.plain with field := some "min" }
    let aggregation : Context := Context.empty.withQueryType .aggregation
    ∃ t s', Tree.parse text = .ok t ∧ .leaf 2 min (.range (.between "1" "5")) ∈ t.subtrees ∧
      s' = (Session.runAll ⟨.ofTree t, aggregation⟩ (Store.ofTree t).root
        [.operations, .validation none]).2 ∧
      "terms" ∈ s'.context.validation.operations.keys ∧
      s'.context.validation.AccountsFor "min" := by
  intro text min aggregation
  have htext : Lexes "terms:(status min:[1 TO 5]) min:price".toList
      [.field "terms", .leftParen, .term "status", .field "min", .leftBracket, .term "1",
        .term "TO", .term "5", .rightBracket, .rightParen, .field "min", .term "price"] :=
    .of_scan (by decide) rfl (.of_scan (by decide) rfl (.of_scan (by decide) rfl
      (.blank (by decide) (.of_scan (by decide) rfl (.of_scan (by decide) rfl
        (.of_scan (by decide) rfl (.blank (by decide) (.of_scan (by decide) rfl
          (.blank (by decide) (.of_scan (by decide) rfl (.of_scan (by decide) rfl
            (.of_scan (by decide) rfl (.blank (by decide) (.of_scan (by decide) rfl
              (.of_scan (by decide) rfl .nil)))))))))))))))
  let range : Tree := .leaf 2 min (.range (.between "1" "5"))
  let terms : Tree := .group 3 { Attributes.plain with field := some "terms" } ⟨.default, true⟩
    (.leaf 1 .plain (.term ⟨"status", .bare⟩)) range
  let price : Tree := .leaf 4 min (.term ⟨"price", .bare⟩)
  let t : Tree := .group 0 .plain ⟨.default, false⟩ terms price
  have hparse : Tree.parse text = .ok t := Tree.parse_of_reads htext rfl rfl
  have hnodup : t.ids.Nodup := (Tree.nodup_ids_of_parse hparse).2
  have huntaken : t.untaken = [t, terms, range, price] := rfl
  have hmem : ∀ u ∈ [t, terms, range, price], u ∈ t.subtrees ∧ ¬ t.IsTaken u := fun u hu =>
    (Tree.mem_untaken_iff hnodup).1 (huntaken ▸ hu)
  have haccounted := operations_accounted_iff hparse
    (show aggregation.queryType = .aggregation from rfl) none
  obtain ⟨hterms, hterms'⟩ := hmem terms (by simp)
  obtain ⟨hrange, hrange'⟩ := hmem range (by simp)
  obtain ⟨hprice, hprice'⟩ := hmem price (by simp)
  exact ⟨t, _, hparse, hrange, rfl,
    (haccounted terms hterms hterms' "terms" (by decide)).1 (by decide),
    (haccounted range hrange hrange' "min" (by decide)).2.2
      (.inr ⟨price, hprice, hprice', by decide⟩)⟩

/-- The operation in front of a range is not accounted for: in the aggregation `min:[1 TO 5]` it is
neither found in use nor an error. -/
theorem operation_of_range_escapes :
    ∃ t u, Tree.parse "min:[1 TO 5]" = .ok t ∧ u ∈ t.subtrees ∧ ¬ t.IsTaken u ∧
      u.writtenOperation? = some "min" ∧
      ¬ (Session.runAll ⟨.ofTree t, Context.empty.withQueryType .aggregation⟩
        (Store.ofTree t).root
        [.operations, .validation none]).2.context.validation.AccountsFor "min" := by
  have htext : Lexes "min:[1 TO 5]".toList
      [.field "min", .leftBracket, .term "1", .term "TO", .term "5", .rightBracket] :=
    .of_scan (by decide) rfl (.of_scan (by decide) rfl (.of_scan (by decide) rfl
      (.blank (by decide) (.of_scan (by decide) rfl (.blank (by decide)
        (.of_scan (by decide) rfl (.of_scan (by decide) rfl .nil)))))))
  let range : Tree := .leaf 1 { Attributes.plain with field := some "min" }
    (.range (.between "1" "5"))
  let t : Tree := .group 0 .plain ⟨.default, false⟩ range .nil
  have hparse : Tree.parse "min:[1 TO 5]" = .ok t := Tree.parse_of_reads htext rfl rfl
  have huntaken : t.untaken = [t, range] := rfl
  obtain ⟨hmem, hfree⟩ := (Tree.mem_untaken_iff (Tree.nodup_ids_of_parse hparse).2).1
    (show range ∈ t.untaken from huntaken ▸ List.mem_cons_of_mem t List.mem_cons_self)
  exact ⟨t, range, hparse, hmem, hfree, by decide, by decide +kernel⟩

end Pass

end SearchQuery
