import SearchQuery.Proofs.Aliases.Dotted
import SearchQuery.Proofs.Pass.Runs

/-!
# Aliases of fields inside each other

Renaming goes down every path of a tree with the resolver that is in scope, `paths_resolveAliases`.
The nodes with a field that a path comes by get the names of fields inside each other, whatever groups
without a field stand between them and whatever is beside them. Where no alias has a dot, these are
the names that a dotted path gets, `Pass.aliases_of_dotted_path`.
-/

namespace SearchQuery

def fieldNodes (path : List Spot) : List Spot :=
  (path.filter (·.attrs.fieldName?.isSome)).reverse

theorem Attributes.field_of_fieldName? {a : Attributes} {field : String}
    (h : a.fieldName? = some field) : a.field = some field :=
  (Option.filter_eq_some_iff.1 h).1

namespace AliasResolver

variable {r : AliasResolver} {a : Attributes} {field : String}

theorem field_apply (h : a.fieldName? = some field) :
    (r.apply a).field = some (r.name field) := by
  rw [apply, rename?, h, name]
  cases hresolve : r.resolve? field with
  | none => simpa [hresolve] using a.field_of_fieldName? h
  | some entry =>
      by_cases heq : entry.1 = field
      · simpa [hresolve, heq] using a.field_of_fieldName? h
      · simp [hresolve, heq]

theorem scope_of_fieldName? (h : a.fieldName? = some field) : r.scope a = r.inside field := by
  match hresolve : r.resolve? field with
  | Option.none => simp [scope, inside, h, hresolve]
  | some (_, Option.none) => simp [scope, inside, h, hresolve]
  | some (_, some _) => simp [scope, inside, h, hresolve]

theorem scope_of_fieldName?_eq_none (h : a.fieldName? = Option.none) : r.scope a = r := by
  rw [scope, h]

def scopeOn (r : AliasResolver) : List Spot → AliasResolver
  | [] => r
  | spot :: above => (r.scopeOn above).scope spot.attrs

def applyOn (r : AliasResolver) : List Spot → List Spot
  | [] => []
  | spot :: above =>
      { spot with attrs := (r.scopeOn above).apply spot.attrs } :: r.applyOn above

theorem map_field_fieldNodes {after : NodeId → Attributes} {path : List Spot}
    (hafter : ∀ spot ∈ r.applyOn path, after spot.id = spot.attrs) {segments : List String}
    (hfields : (fieldNodes path).map (·.attrs.field) = segments.map some) :
    (fieldNodes path).map (fun spot => (after spot.id).field) = (r.nameAll segments).map some ∧
      r.scopeOn path = r.insideAll segments := by
  induction path generalizing segments with
  | nil =>
      obtain rfl : segments = [] := by simpa [fieldNodes] using hfields.symm
      exact ⟨rfl, rfl⟩
  | cons spot above ih =>
      rw [applyOn, List.forall_mem_cons] at hafter
      obtain ⟨hspot, habove⟩ := hafter
      cases hfield : spot.attrs.fieldName? with
      | none =>
          have hnodes : fieldNodes (spot :: above) = fieldNodes above := by
            rw [fieldNodes, List.filter_cons_of_neg (by simp [hfield])]
            rfl
          rw [hnodes] at hfields ⊢
          rw [scopeOn, scope_of_fieldName?_eq_none hfield]
          exact ih habove hfields
      | some field =>
          have hnodes : fieldNodes (spot :: above) = fieldNodes above ++ [spot] := by
            rw [fieldNodes, List.filter_cons_of_pos (by simp [hfield]), List.reverse_cons]
            rfl
          rw [hnodes, List.map_append, List.map_singleton,
            spot.attrs.field_of_fieldName? hfield] at hfields
          obtain ⟨outer, inner, rfl, houter, hinner⟩ := List.map_eq_append_iff.1 hfields.symm
          obtain ⟨last, rfl, hlast⟩ := List.map_eq_singleton_iff.1 hinner
          obtain rfl := Option.some.inj hlast
          obtain ⟨hnames, hscope⟩ := ih habove houter.symm
          have hlast : (after spot.id).field = some ((r.insideAll outer).name last) := by
            rw [← hscope, ← field_apply hfield]
            exact congrArg Attributes.field hspot
          rw [hnodes, List.map_append, hnames, List.map_singleton, hlast, nameAll_concat,
            List.map_append, scopeOn, scope_of_fieldName? hfield, hscope, insideAll_concat]
          exact ⟨rfl, rfl⟩

end AliasResolver

namespace Tree

theorem paths_resolveAliases (r : AliasResolver) (t : Tree) (above : List Spot) :
    (t.resolveAliases (r.scopeOn above)).paths (r.applyOn above) =
      (t.paths above).map r.applyOn := by
  induction t generalizing above with
  | nil => rfl
  | leaf => rfl
  | group id a g left right ihl ihr =>
      rw [resolveAliases, paths_group, paths_group, List.map_cons, List.map_append, ← ihl, ← ihr]
      rfl

theorem attrs_resolveAliases (r : AliasResolver) (t : Tree) :
    (t.resolveAliases r).attrs = r.apply t.attrs := by
  cases t <;> rfl

end Tree

namespace Pass

theorem exists_run_aliases {s : Session} (h : s.store.IsQuery) {own : Option AliasResolver}
    {r : AliasResolver} (hr : s.context.aliases.or own = some r) {id : NodeId}
    (hid : id ∈ s.store.tree.ids) :
    ∃ s', (aliases own).run id s = (.ok id, s') ∧ s'.store.IsQuery ∧ id ∈ s'.store.tree.ids ∧
      s'.store.view id = (s.store.view id).resolveAliases r := by
  have hputs := (Store.renamed_resolveAliases h.rooted hid r).puts
  have htop := (Tree.id?_resolveAliases r _).trans (h.id?_view hid)
  refine ⟨{ s with store := s.store.resolveAliases r id }, ?_, h.of_puts hputs ?_,
    hputs.mem_top htop, hputs.view_top htop⟩
  · simp only [run, hr]
    rfl
  · rintro rfl
    exact (Tree.isGroup_resolveAliases r _).trans h.isGroup_tree

/-- A dotted path and its segments as fields inside each other get the same names, whatever the
map knows of them, if none of its aliases has a dot. -/
theorem aliases_of_dotted_path {m : AliasMap} (hm : m.DotFree) {segments : List String}
    (hne : segments ≠ [])
    (hsegments : ∀ segment ∈ segments, segment ≠ "" ∧ '.' ∉ segment.toList)
    {s : Session} (hs : s.store.IsQuery) {own : Option AliasResolver}
    (hr : s.context.aliases.or own = some (.ofMap m)) {id : NodeId}
    (hid : id ∈ s.store.tree.ids)
    (hfield : (s.store.attrs id).field = some (".".intercalate segments))
    {t : Session} (ht : t.store.IsQuery) {own' : Option AliasResolver}
    (hr' : t.context.aliases.or own' = some (.ofMap m)) {top : NodeId}
    (htop : top ∈ t.store.tree.ids) {path : List Spot}
    (hpath : path ∈ (t.store.view top).paths [])
    (hfields : (fieldNodes path).map (·.attrs.field) = segments.map some) :
    ∃ s' t' names, (aliases own).run id s = (.ok id, s') ∧
      (aliases own').run top t = (.ok top, t') ∧
      (fieldNodes path).map (fun spot => (t'.store.attrs spot.id).field) = names.map some ∧
      (s'.store.attrs id).field = some (".".intercalate names) := by
  obtain ⟨s', hrun, hs', hid', hview⟩ := exists_run_aliases hs hr hid
  obtain ⟨t', hrun', ht', htop', hview'⟩ := exists_run_aliases ht hr' htop
  refine ⟨s', t', (AliasResolver.ofMap m).nameAll segments, hrun, hrun', ?_, ?_⟩
  · have hpaths := Tree.paths_resolveAliases (.ofMap m) (t.store.view top) []
    have hpath' : AliasResolver.applyOn (.ofMap m) path ∈ (t'.store.view top).paths [] := by
      rw [hview', show (t.store.view top).resolveAliases (.ofMap m) =
        (t.store.view top).resolveAliases (AliasResolver.scopeOn (.ofMap m) []) from rfl]
      exact hpaths ▸ List.mem_map_of_mem hpath
    refine (AliasResolver.map_field_fieldNodes (fun spot hspot => ?_) hfields).1
    exact ht'.attrs_eq htop' (Tree.mem_nodes_of_mem_paths hpath' hspot)
  · have hname : (s.store.attrs id).fieldName? = some (".".intercalate segments) := by
      rw [Attributes.fieldName?, hfield, Option.filter_some, if_pos]
      simpa using Path.intercalate_ne_empty hne fun x hx => (hsegments x hx).1
    rw [← hs'.attrs_view hid', hview, Tree.attrs_resolveAliases, hs.attrs_view hid,
      AliasResolver.field_apply hname, hm.name_intercalate hne fun x hx => (hsegments x hx).2]

/-- Where `user` is `account` and `mail` below it `email`, both `user.mail.x:v` and
`user:(mail:(x:v))` come to the field `x` of the `email` of an `account`. -/
theorem aliases_of_user_mail_path :
    let m : AliasMap := .nested "user" "account" (.plain "mail" "email" .empty) .empty
    let named (field : String) : Attributes := { Attributes.plain with field := some field }
    let v : Leaf := .term ⟨"v", .bare⟩
    let s : Session :=
      ⟨.ofTree (.group 0 .plain .plain (.leaf 1 (named "user.mail.x") v) .nil), .empty⟩
    let t : Session := ⟨.ofTree (.group 0 .plain .plain
      (.group 1 (named "user") ⟨.default, true⟩
        (.group 2 (named "mail") ⟨.default, true⟩ (.leaf 3 (named "x") v) .nil) .nil) .nil), .empty⟩
    ∃ s' t', (aliases (some (.ofMap m))).run 1 s = (.ok 1, s') ∧
      (aliases (some (.ofMap m))).run 1 t = (.ok 1, t') ∧
      [1, 2, 3].map (fun id => (t'.store.attrs id).field) =
        ["account", "email", "x"].map some ∧
      (s'.store.attrs 1).field = some "account.email.x" := by
  intro m named v s t
  have hs : s.store.IsQuery := ⟨Store.wellFormed_ofTree rfl (by decide), by decide +kernel⟩
  have ht : t.store.IsQuery := ⟨Store.wellFormed_ofTree rfl (by decide), by decide +kernel⟩
  have hr (u : Session) (hu : u.context = .empty) :
      u.context.aliases.or (some (AliasResolver.ofMap m)) = some (.ofMap m) := by
    rw [hu]
    rfl
  have hid : 1 ∈ s.store.tree.ids := by decide +kernel
  have hpath : [⟨3, named "x", .inl v⟩, ⟨2, named "mail", .inr ⟨.default, true⟩⟩,
      ⟨1, named "user", .inr ⟨.default, true⟩⟩] ∈ (t.store.view 1).paths [] := by decide +kernel
  have hsegments : ∀ segment ∈ ["user", "mail", "x"],
      segment ≠ "" ∧ '.' ∉ segment.toList := by decide
  obtain ⟨s', t', names, hrun, hrun', hfields, hfield⟩ :=
    aliases_of_dotted_path (by simp [m, AliasMap.DotFree]) (by decide) hsegments hs (hr s rfl) hid
      (by decide +kernel) ht (hr t rfl) (by decide +kernel) hpath (by decide +kernel)
  obtain rfl : t' = ((aliases (some (.ofMap m))).run 1 t).2 := congrArg Prod.snd hrun'.symm
  have hnames : names = ["account", "email", "x"] :=
    List.map_injective_iff.2 (fun _ _ => Option.some.inj) (hfields.symm.trans (by decide +kernel))
  rw [hnames] at hfields hfield
  exact ⟨s', _, hrun, hrun', hfields, hfield.trans (by decide +kernel)⟩

end Pass

end SearchQuery
