import SearchQuery.Proofs.Cleanup.Survival
import SearchQuery.Proofs.Validation.Verdict

/-!
# What a check finds after tidying up

Tidying up makes no query deeper, `Tree.depth_cleanup_le`, since all that a rule does with
parentheses is to take some away or to move them from one group to the group around it. What else a
check of a plain query looks at is said by nodes on their own, and every node that is left stands for
one that there was: so nothing is found that was not found before, `Pass.checked_after_cleanup`, and
what is not found any more was said by groups without a leaf in them.
-/

namespace SearchQuery

namespace Tree

variable {t t' out : Tree} {isRoot : Bool} {root : NodeId}

section Depth

def depth (root : NodeId) : Tree → Nat
  | nil => 0
  | leaf .. => 0
  | group id _ g l r =>
      (id = root || g.parens : Bool).toNat + max (l.depth root) (r.depth root)

variable (s : Findings.Setting)

theorem depthOn_group (id : NodeId) (a : Attributes) (g : Group) (above : List Spot) :
    s.depthOn (⟨id, a, .inr g⟩ :: above) =
      s.depthOn above + (id = s.root || g.parens : Bool).toNat := by
  rw [Findings.depthOn_group, Findings.Setting.countsDepth]
  cases (id = s.root || g.parens : Bool) <;> rfl

theorem depthOn_le_of_mem_paths {path above : List Spot} (h : path ∈ t.paths above) :
    s.depthOn path ≤ s.depthOn above + t.depth s.root := by
  induction t generalizing above with
  | nil => cases h
  | leaf id a l =>
      obtain rfl := List.mem_singleton.1 h
      exact Nat.le_of_eq Findings.depthOn_leaf
  | group id a g l r ihl ihr =>
      have hhere := depthOn_group s id a g above
      rw [depth]
      rcases List.mem_cons.1 h with rfl | h
      · omega
      · rcases List.mem_append.1 h with h | h
        · have := ihl h
          omega
        · have := ihr h
          omega

theorem depth_le_of_forall_paths {n : Nat} {above : List Spot} (habove : s.depthOn above ≤ n)
    (h : ∀ path ∈ t.paths above, s.depthOn path ≤ n) : s.depthOn above + t.depth s.root ≤ n := by
  induction t generalizing above with
  | nil => exact habove
  | leaf => exact habove
  | group id a g l r ihl ihr =>
      have hhere := h _ List.mem_cons_self
      have hl := ihl hhere fun path hpath =>
        h path (List.mem_cons_of_mem _ (List.mem_append_left _ hpath))
      have hr := ihr hhere fun path hpath =>
        h path (List.mem_cons_of_mem _ (List.mem_append_right _ hpath))
      rw [depthOn_group] at hl hr
      rw [depth]
      omega

theorem maxDepth_findings (t : Tree) : (t.findings s).maxDepth = t.depth s.root := by
  have hnone : s.depthOn [] = 0 := rfl
  refine Nat.le_antisymm (Nat.le_of_not_lt fun hlt => ?_) ?_
  · obtain ⟨path, hpath, -, -, -, hdeep⟩ := Findings.lt_maxDepth_findings.1 hlt
    have hle := depthOn_le_of_mem_paths s hpath
    omega
  · have hle := depth_le_of_forall_paths s (hnone ▸ Nat.zero_le (t.findings s).maxDepth)
      Findings.depthOn_le_maxDepth
    omega

theorem Changes.depth_le (h : Changes isRoot t t') : t'.depth root ≤ t.depth root := by
  cases h with
  | shift => simp [depth]
  | @absorb id a g innerId inner innerForm l r =>
      have hparens : (id = root || (absorbedForm isRoot (a.negation.merge inner.negation) g
          innerForm).parens : Bool).toNat ≤
            (id = root || g.parens : Bool).toNat +
              (innerId = root || innerForm.parens : Bool).toNat := by
        rw [absorbedForm]
        cases decide (id = root) <;> cases g.parens <;> cases innerForm.parens <;>
          simp [Bool.toNat_le]
      simp only [depth]
      omega
  | fold => exact Nat.le_refl _
  | @unwrap id =>
      simp only [depth, Bool.or_false]
      cases decide (id = root) <;> simp

theorem Moves.depth_le (h : Moves isRoot t t') : t'.depth root ≤ t.depth root := by
  cases h with
  | drop => exact Nat.zero_le _
  | hoist => exact Nat.zero_le _

theorem Checked.depth_le (h : Checked isRoot t out) : out.depth root ≤ t.depth root := by
  induction h with
  | unchanged => exact Nat.le_refl _
  | moved h => exact (moves_of_check h).depth_le
  | changed h _ ih => exact ih.trans (changes_of_check h).depth_le

theorem Sweeps.depth_le (h : Sweeps isRoot t out) : out.depth root ≤ t.depth root := by
  induction h with
  | nil => exact Nat.le_refl _
  | leaf => exact Nat.le_refl _
  | group _ _ hout ihl ihr =>
      exact hout.depth_le.trans (Nat.add_le_add_left (max_le_max ihl ihr) _)

theorem depth_cleanup_le (t : Tree) (isRoot : Bool) (root : NodeId) :
    (t.cleanup isRoot).depth root ≤ t.depth root :=
  (t.sweeps_cleanup isRoot).depth_le

end Depth

end Tree

/-- The two are the same node but for marks and form. -/
structure Spot.StandsFor (spot' spot : Spot) : Prop where
  id_eq : spot'.id = spot.id
  field_eq : spot'.attrs.field = spot.attrs.field
  leaf?_eq : spot'.label.getLeft? = spot.label.getLeft?

theorem Spot.StandsFor.fieldName?_eq {spot' spot : Spot} (h : spot'.StandsFor spot) :
    spot'.attrs.fieldName? = spot.attrs.fieldName? := by
  rw [Attributes.fieldName?, h.field_eq, Attributes.fieldName?]

namespace Tree

section Spots

variable {t t' u u' : Tree} {p : Spot → Prop}

theorem StandsFor.exists_spot (h : u'.StandsFor u) {spot' : Spot} (hspot : spot' ∈ u'.spot?) :
    ∃ spot ∈ u.spot?, spot'.StandsFor spot := by
  obtain ⟨hid, hgroup, hfield, hleaves⟩ := h
  cases u' with
  | nil => cases hspot
  | leaf id a l =>
      cases u with
      | nil => cases hid
      | leaf _ b m =>
          cases hspot
          cases hid
          have hleaf : l = m := congrArg Prod.fst (List.singleton_inj.1 hleaves)
          exact ⟨_, rfl, rfl, hfield, congrArg some hleaf⟩
      | group => cases hgroup
  | group id a g l r =>
      cases u with
      | nil => cases hid
      | leaf => cases hgroup
      | group =>
          cases hspot
          cases hid
          exact ⟨_, rfl, rfl, hfield, rfl⟩

theorem StandsFor.symm (h : u'.StandsFor u) : u.StandsFor u' :=
  ⟨h.id?_eq.symm, h.isGroup_eq.symm, h.field_eq.symm, h.leaves_eq.symm⟩

theorem Tidies.exists_path_before (h : Tidies t t')
    (hp : ∀ {spot' spot : Spot}, spot'.StandsFor spot → p spot' → p spot)
    (hpath : ∃ path ∈ t'.paths [], ∃ spot ∈ path.head?, p spot) :
    ∃ path ∈ t.paths [], ∃ spot ∈ path.head?, p spot := by
  obtain ⟨u', hu', spot', hspot', hsaid⟩ := exists_path_iff.1 hpath
  obtain ⟨u, hu, hstands⟩ := h.exists_origin hu'
  obtain ⟨spot, hspot, hsame⟩ := hstands.exists_spot hspot'
  exact exists_path_iff.2 ⟨u, hu, spot, hspot, hp hsame hsaid⟩

/-- What was said before, if it is said by leaves and groups with a field, is still said unless it was
said by a group without a leaf in it. -/
theorem Tidies.exists_path_after (h : Tidies t t')
    (hp : ∀ {spot' spot : Spot}, spot'.StandsFor spot → p spot' → p spot)
    (hfield : ∀ {spot : Spot}, p spot → spot.label.isRight → spot.attrs.field.isSome)
    (hpath : ∃ path ∈ t.paths [], ∃ spot ∈ path.head?, p spot) :
    (∃ path ∈ t'.paths [], ∃ spot ∈ path.head?, p spot) ∨
      ∃ u ∈ t.subtrees, u.isGroup ∧ u.leaves = [] ∧ ∃ spot ∈ u.spot?, p spot := by
  obtain ⟨u, hu, spot, hspot, hsaid⟩ := exists_path_iff.1 hpath
  by_cases hleaves : u.leaves = []
  · refine .inr ⟨u, hu, ?_, hleaves, spot, hspot, hsaid⟩
    cases u with
    | nil => cases hspot
    | leaf => cases hleaves
    | group => rfl
  · have hgroup : u.isGroup → u.attrs.field.isSome := by
      cases u with
      | nil => cases hspot
      | leaf => intro h; cases h
      | group =>
          cases hspot
          exact fun _ => hfield hsaid rfl
    obtain ⟨u', hu', hstands⟩ := h.exists_standing hu hleaves hgroup
    obtain ⟨spot', hspot', hsame⟩ := hstands.symm.exists_spot hspot
    exact .inl (exists_path_iff.2 ⟨u', hu', spot', hspot', hp hsame hsaid⟩)

end Spots

end Tree

namespace Findings

variable {s : Setting} {spot spot' : Spot} {name operation : String}

theorem Asks.of_standsFor (h : spot'.StandsFor spot) (hasks : Asks s spot' name) :
    Asks s spot name := by
  have hfield := h.fieldName?_eq
  cases hasks with
  | own hown => exact .own (hfield ▸ hown)
  | @default _ _ l _ hnone hdefault =>
      obtain ⟨id, a, m | g⟩ := spot
      · exact .default (hfield ▸ hnone) hdefault
      · cases h.leaf?_eq
  | @unnamed _ _ l hnone hempty =>
      obtain ⟨id, a, m | g⟩ := spot
      · exact .unnamed (hfield ▸ hnone) hempty
      · cases h.leaf?_eq

def Setting.operationAt? (s : Setting) (spot : Spot) : Option String :=
  (s.operation? spot.id).or (spot.label.getLeft?.map Leaf.label)

theorem Setting.operationAt?_group (s : Setting) (id : NodeId) (a : Attributes) (g : Group) :
    s.operationAt? ⟨id, a, .inr g⟩ = s.operation? id :=
  Option.or_none

theorem applies_iff_operationAt? (hquery : s.queryType = .query) {above : List Spot} :
    Applies s (spot :: above) operation ↔ s.operationAt? spot = some operation := by
  obtain ⟨id, a, l | g⟩ := spot
  · rw [applies_leaf, Setting.impliedOperation?, if_pos hquery]
    rfl
  · rw [applies_group, s.operationAt?_group]

theorem Setting.operationAt?_eq (s : Setting) (h : spot'.StandsFor spot) :
    s.operationAt? spot' = s.operationAt? spot := by
  rw [operationAt?, operationAt?, h.id_eq, h.leaf?_eq]

variable {t t' : Tree}

theorem files_findings_iff (hquery : s.queryType = .query) :
    (t.findings s).operations.Files operation name ↔
      ∃ path ∈ t.paths [], ∃ spot ∈ path.head?,
        s.operationAt? spot = some operation ∧ Asks s spot name := by
  rw [files_findings]
  refine exists_congr fun path => and_congr_right fun _ => exists_congr fun spot =>
    and_congr_right fun hhead => and_congr_left fun _ => ?_
  cases path with
  | nil => cases hhead
  | cons => cases hhead; exact applies_iff_operationAt? hquery

theorem isSome_field_of_asks (h : Asks s spot name) (hgroup : spot.label.isRight) :
    spot.attrs.field.isSome := by
  obtain ⟨id, a, l | g⟩ := spot
  · cases hgroup
  · exact Option.isSome_iff_exists.2 ⟨name, (Option.filter_eq_some_iff.1 (asks_group.1 h)).1⟩

section Tidied

variable (htidies : Tree.Tidies t t')

include htidies

theorem mem_fields_of_tidies (h : name ∈ (t'.findings s).fields) : name ∈ (t.findings s).fields :=
  mem_fields_findings.2
    (htidies.exists_path_before Asks.of_standsFor (mem_fields_findings.1 h))

theorem mem_unresolved_of_tidies (h : name ∈ (t'.findings s).unresolved) :
    name ∈ (t.findings s).unresolved := by
  refine mem_unresolved_findings.2
    (htidies.exists_path_before (fun hstands => ?_) (mem_unresolved_findings.1 h))
  rw [hstands.id_eq, hstands.fieldName?_eq]
  exact id

theorem files_of_tidies (hquery : s.queryType = .query)
    (h : (t'.findings s).operations.Files operation name) :
    (t.findings s).operations.Files operation name := by
  refine (files_findings_iff hquery).2
    (htidies.exists_path_before (fun hstands => ?_) ((files_findings_iff hquery).1 h))
  rw [s.operationAt?_eq hstands]
  exact And.imp_right (.of_standsFor hstands)

/-- A field that is not asked for any more is that of a group without a leaf in it. -/
theorem mem_fields_or_of_tidies (h : name ∈ (t.findings s).fields) :
    name ∈ (t'.findings s).fields ∨
      ∃ u ∈ t.subtrees, u.isGroup ∧ u.leaves = [] ∧ u.attrs.fieldName? = some name := by
  refine (htidies.exists_path_after Asks.of_standsFor isSome_field_of_asks
    (mem_fields_findings.1 h)).imp mem_fields_findings.2 ?_
  rintro ⟨u, hu, hgroup, hleaves, spot, hspot, hasks⟩
  refine ⟨u, hu, hgroup, hleaves, ?_⟩
  cases u with
  | nil => cases hspot
  | leaf => cases hgroup
  | group =>
      cases hspot
      exact asks_group.1 hasks

/-- An operation that is not found any more was noted on a group without a leaf in it. -/
theorem files_or_of_tidies (hquery : s.queryType = .query)
    (h : (t.findings s).operations.Files operation name) :
    (t'.findings s).operations.Files operation name ∨
      ∃ u ∈ t.subtrees, u.isGroup ∧ u.leaves = [] ∧
        ∃ id ∈ u.id?, s.operation? id = some operation := by
  refine (htidies.exists_path_after (fun hstands => ?_)
    (fun hfound => isSome_field_of_asks hfound.2) ((files_findings_iff hquery).1 h)).imp
    (files_findings_iff hquery).2 ?_
  · rw [s.operationAt?_eq hstands]
    exact And.imp_right (.of_standsFor hstands)
  · rintro ⟨u, hu, hgroup, hleaves, spot, hspot, happlies, -⟩
    refine ⟨u, hu, hgroup, hleaves, ?_⟩
    cases u with
    | nil => cases hspot
    | leaf => cases hgroup
    | group id =>
        cases hspot
        exact ⟨id, rfl, (s.operationAt?_group ..).symm.trans happlies⟩

end Tidied

end Findings

theorem ValidationOptions.Permits.mono {o : ValidationOptions} {isPattern : String → Bool}
    {r r' : ValidationResult} {t t' : Tree} (h : o.Permits isPattern r t)
    (hfields : ∀ field ∈ r'.referencedFields, field ∈ r.referencedFields)
    (hoperations : ∀ operation ∈ r'.operations.keys, operation ∈ r.operations.keys)
    (hunresolved : ∀ field ∈ r'.unresolvedFields, field ∈ r.unresolvedFields)
    (hincludes : ∀ name ∈ r'.unresolvedIncludes, name ∈ r.unresolvedIncludes)
    (hterms : ∀ term, (∃ path ∈ t'.paths [], ∃ spot ∈ path.head?, spot.label = .inl (.term term)) →
      ∃ path ∈ t.paths [], ∃ spot ∈ path.head?, spot.label = .inl (.term term))
    (hdepth : r'.maxNodeDepth ≤ r.maxNodeDepth) : o.Permits isPattern r' t' := by
  have hempty {names names' : NameSet} (hsub : ∀ name ∈ names', name ∈ names)
      (hnames : names = .empty) : names' = .empty :=
    NameSet.ext fun name => ⟨fun hname => hnames ▸ hsub name hname,
      fun hname => absurd hname NameSet.not_mem_empty⟩
  refine ⟨fun field hfield => h.fields field (hfields field hfield),
    fun operation hoperation => h.operations operation (hoperations operation hoperation),
    h.unresolvedFields.imp_right (hempty hunresolved),
    h.unresolvedIncludes.imp_right (hempty hincludes),
    h.leadingWildcards.imp_right fun hnone path hpath spot hspot term hterm => ?_,
    fun path hpath spot hspot term hterm => ?_, h.depth.imp_right hdepth.trans⟩
  · obtain ⟨path, hpath, spot, hspot, hlabel⟩ := hterms term ⟨path, hpath, spot, hspot, hterm⟩
    exact hnone path hpath spot hspot term hlabel
  · obtain ⟨path, hpath, spot, hspot, hlabel⟩ := hterms term ⟨path, hpath, spot, hspot, hterm⟩
    exact h.patterns path hpath spot hspot term hlabel

namespace Session

/-- What a check from the root finds if nothing was found before. -/
def checked (s : Session) (own : Option ValidationOptions) : ValidationResult :=
  ((Pass.validation own).run s.store.root s.takeValidation.2).2.context.validation

variable (s : Session) (own : Option ValidationOptions) {field operation : String}

def found : Findings :=
  s.store.tree.findings (Pass.setting s)

theorem tidy_found : s.found.operations.Tidy :=
  Findings.tidy_findings

theorem clean_fresh (type : QueryType) : (ValidationResult.fresh type).Clean :=
  ⟨rfl, rfl, rfl, rfl, rfl, rfl⟩

theorem checked_eq_validate : s.checked own = (ValidationResult.fresh s.context.queryType).validate
    s.context.queryType (own.getD s.context.options) s.found := by
  rw [checked, takeValidation, Pass.run, Pass.runValidation]
  rfl

theorem checked_eq : ∃ valid errors message, s.checked own =
    { (ValidationResult.fresh s.context.queryType).addFindings s.context.queryType s.found with
      isValid := valid, errors := errors, message := message } := by
  rw [checked_eq_validate, (clean_fresh _).validate_eq]
  exact ⟨_, _, _, rfl⟩

theorem mem_referencedFields_checked :
    field ∈ (s.checked own).referencedFields ↔ field ∈ s.found.fields := by
  obtain ⟨_, _, _, heq⟩ := s.checked_eq own
  rw [heq]
  exact NameSet.mem_union.trans (or_iff_left NameSet.not_mem_empty)

theorem mem_unresolvedFields_checked :
    field ∈ (s.checked own).unresolvedFields ↔ field ∈ s.found.unresolved := by
  obtain ⟨_, _, _, heq⟩ := s.checked_eq own
  rw [heq]
  exact NameSet.mem_union.trans (or_iff_left NameSet.not_mem_empty)

theorem unresolvedIncludes_checked : (s.checked own).unresolvedIncludes = .empty := by
  obtain ⟨_, _, _, heq⟩ := s.checked_eq own
  rw [heq]
  rfl

theorem operations_checked : (s.checked own).operations = s.found.operations := by
  obtain ⟨_, _, _, heq⟩ := s.checked_eq own
  rw [heq]
  refine (NameTable.tidy_empty.union s.tidy_found).ext s.tidy_found fun operation field => ?_
  exact NameTable.files_union.trans (or_iff_right NameTable.not_files_empty)

theorem maxNodeDepth_checked :
    (s.checked own).maxNodeDepth = s.store.tree.depth s.store.root := by
  obtain ⟨_, _, _, heq⟩ := s.checked_eq own
  rw [heq]
  exact (Nat.zero_max _).trans (Tree.maxDepth_findings _ _)

theorem isValid_checked_iff : (s.checked own).isValid ↔
    (own.getD s.context.options).Permits s.context.isPattern (s.checked own) s.store.tree := by
  rw [checked_eq_validate]
  exact ((clean_fresh _).isValid_validate_iff _ _ _ _).1

section Tidied

variable {s} {s' : Session} (hsetting : Pass.setting s' = Pass.setting s)
  (htidies : Tree.Tidies s.store.tree s'.store.tree)

include hsetting htidies

theorem referencedFields_subset (h : field ∈ (s'.checked own).referencedFields) :
    field ∈ (s.checked own).referencedFields := by
  rw [s'.mem_referencedFields_checked, found, hsetting] at h
  rw [s.mem_referencedFields_checked]
  exact Findings.mem_fields_of_tidies htidies h

theorem unresolvedFields_subset (h : field ∈ (s'.checked own).unresolvedFields) :
    field ∈ (s.checked own).unresolvedFields := by
  rw [s'.mem_unresolvedFields_checked, found, hsetting] at h
  rw [s.mem_unresolvedFields_checked]
  exact Findings.mem_unresolved_of_tidies htidies h

theorem exists_group_of_lost (hs : s.store.IsQuery)
    (hfield : field ∈ (s.checked own).referencedFields)
    (hlost : field ∉ (s'.checked own).referencedFields) :
    ∃ id ∈ s.store.tree.ids, s.store.isGroup id ∧ (s.store.view id).leaves = [] ∧
      (s.store.attrs id).fieldName? = some field := by
  rw [s'.mem_referencedFields_checked, found, hsetting] at hlost
  rw [s.mem_referencedFields_checked] at hfield
  obtain ⟨u, hu, hgroup, hleaves, hname⟩ :=
    (Findings.mem_fields_or_of_tidies htidies hfield).resolve_left hlost
  obtain ⟨id, hid, -, hgroup', rfl⟩ := hs.exists_group_of_mem_subtrees hu hgroup
  exact ⟨id, hid, hgroup', hleaves, hs.attrs_view hid ▸ hname⟩

theorem files_found (hquery : s.context.queryType = .query)
    (h : s'.found.operations.Files operation field) : s.found.operations.Files operation field := by
  rw [found, hsetting] at h
  exact Findings.files_of_tidies htidies hquery h

theorem operations_eq (hs : s.store.IsQuery) (hquery : s.context.queryType = .query)
    (hnone : ∀ id ∈ s.store.tree.ids, s.store.isGroup id → (s.store.view id).leaves = [] →
      s.store.annotations.get? .operationType id = none) :
    (s'.checked own).operations = (s.checked own).operations := by
  rw [s'.operations_checked, s.operations_checked]
  refine s'.tidy_found.ext s.tidy_found fun operation field =>
    ⟨files_found hsetting htidies hquery, fun hfiled => ?_⟩
  rw [found, hsetting]
  refine (Findings.files_or_of_tidies htidies hquery hfiled).resolve_right ?_
  rintro ⟨u, hu, hgroup, hleaves, id, hid?, hnoted⟩
  obtain ⟨top, hid, htop, hgroup', rfl⟩ := hs.exists_group_of_mem_subtrees hu hgroup
  rw [Option.mem_def, htop, Option.some_inj] at hid?
  rw [← hid?] at hnoted
  exact nomatch (hnone top hid hgroup' hleaves).symm.trans hnoted

/-- What was valid is valid if the context is the same and the tree no deeper. -/
theorem isValid_of_isValid (hcontext : s'.context = s.context)
    (hquery : s.context.queryType = .query)
    (hdepth : (s'.checked own).maxNodeDepth ≤ (s.checked own).maxNodeDepth)
    (hvalid : (s.checked own).isValid) : (s'.checked own).isValid := by
  rw [s'.isValid_checked_iff, hcontext]
  refine ((s.isValid_checked_iff own).1 hvalid).mono
    (fun _ => referencedFields_subset own hsetting htidies) (fun operation hkey => ?_)
    (fun _ => unresolvedFields_subset own hsetting htidies) (fun name hname => ?_)
    (fun term => ?_) hdepth
  · rw [s'.operations_checked, s'.tidy_found.mem_keys_iff] at hkey
    rw [s.operations_checked, s.tidy_found.mem_keys_iff]
    exact hkey.imp fun _ => files_found hsetting htidies hquery
  · rw [s'.unresolvedIncludes_checked] at hname
    exact absurd hname NameSet.not_mem_empty
  · refine htidies.exists_path_before fun hstands hlabel => ?_
    exact Sum.getLeft?_eq_some_iff.1
      (hstands.leaf?_eq.symm.trans (Sum.getLeft?_eq_some_iff.2 hlabel))

end Tidied

end Session

namespace Pass

/-- Tidying up a plain query from the root hides no leaf, and a check that starts afresh finds
nothing that it did not find before: the operations are the same unless one is noted on a group
without a leaf in it, the fields that are gone are those of such groups, the query is no deeper, and
what was valid is still valid. -/
theorem checked_after_cleanup {s : Session} (h : s.store.IsQuery)
    (hquery : s.context.queryType = .query) (own : Option ValidationOptions) :
    ∃ s', cleanup.run s.store.root s = (.ok s.store.root, s') ∧ s'.store.IsQuery ∧
      s'.store.tree.leaves = s.store.tree.leaves ∧
      ((∀ id ∈ s.store.tree.ids, s.store.isGroup id → (s.store.view id).leaves = [] →
          s.store.annotations.get? .operationType id = none) →
        (s'.checked own).operations = (s.checked own).operations) ∧
      (∀ field ∈ (s'.checked own).unresolvedFields, field ∈ (s.checked own).unresolvedFields) ∧
      (∀ field ∈ (s'.checked own).referencedFields, field ∈ (s.checked own).referencedFields) ∧
      (∀ field ∈ (s.checked own).referencedFields, field ∉ (s'.checked own).referencedFields →
        ∃ id ∈ s.store.tree.ids, s.store.isGroup id ∧ (s.store.view id).leaves = [] ∧
          (s.store.attrs id).fieldName? = some field) ∧
      (s'.checked own).maxNodeDepth ≤ (s.checked own).maxNodeDepth ∧
      ((s.checked own).isValid → (s'.checked own).isValid) := by
  obtain ⟨s', hrun, hs', htree, hroot, hnotes, hcontext⟩ := exists_run_cleanup h
  have htidies : Tree.Tidies s.store.tree s'.store.tree := htree ▸ Tree.tidies_cleanup _ true
  have hsetting : setting s' = setting s := by
    rw [setting, setting, hroot, hnotes, hcontext]
  have hdepth : (s'.checked own).maxNodeDepth ≤ (s.checked own).maxNodeDepth := by
    rw [s'.maxNodeDepth_checked, s.maxNodeDepth_checked, hroot, htree]
    exact Tree.depth_cleanup_le ..
  exact ⟨s', hrun, hs', htidies.leaves_eq, Session.operations_eq own hsetting htidies h hquery,
    fun _ => Session.unresolvedFields_subset own hsetting htidies,
    fun _ => Session.referencedFields_subset own hsetting htidies,
    fun _ => Session.exists_group_of_lost own hsetting htidies h, hdepth,
    Session.isValid_of_isValid own hsetting htidies hcontext hquery hdepth⟩

/-- The query `((a)) status:()` may be three groups deep, which it is, and be about `status`. Tidied
up it is `a`. -/
theorem checked_after_cleanup_of_nested_term :
    let status : Attributes := { Attributes.plain with field := some "status" }
    let s : Session := ⟨.ofTree (.group 0 .plain .plain
      (.group 1 .plain ⟨.default, true⟩
        (.group 2 .plain ⟨.default, true⟩ (.leaf 3 .plain (.term ⟨"a", .bare⟩)) .nil) .nil)
      (.group 4 status ⟨.default, true⟩ .nil .nil)), .empty⟩
    let policy : ValidationOptions :=
      { ValidationOptions.standard with
        allowedFields := .ofList ["status"]
        maxNodeDepth := 3 }
    ∃ s', cleanup.run s.store.root s = (.ok s.store.root, s') ∧
      (s'.checked (some policy)).operations = .add .empty "term" [""] ∧
      (s'.checked (some policy)).maxNodeDepth ≤ 3 ∧ (s'.checked (some policy)).isValid := by
  intro status s policy
  have hs : s.store.IsQuery := ⟨Store.wellFormed_ofTree rfl (by decide), by decide⟩
  obtain ⟨s', hrun, -, -, hoperations, -, -, -, hdepth, hvalid⟩ :=
    checked_after_cleanup hs rfl (some policy)
  have hnotes : ∀ id ∈ s.store.tree.ids, s.store.isGroup id → (s.store.view id).leaves = [] →
      s.store.annotations.get? .operationType id = none := by
    decide +kernel
  exact ⟨s', hrun, (hoperations hnotes).trans (by decide +kernel),
    hdepth.trans (by decide +kernel), hvalid (by decide +kernel)⟩

end Pass

end SearchQuery
