import SearchQuery.Pass
import SearchQuery.Proofs.Fragments.Calls
import SearchQuery.Proofs.Query.Paths
import SearchQuery.Proofs.Query.Steps

/-!
# Chains of fragments

The marks on the path of a node name the fragments that the node came with, the innermost first.
They are the chain that the expansion carried along, so no name is twice among them. A term that
names a fragment and is still there after the expansion is accounted for by the findings and by
this chain, `Accounts`.

`Expands.traced` follows the marks and the findings through the calls of an expansion, and
`Pass.expansion_ends_and_accounts` says what this means for a run from the root.
-/

namespace SearchQuery

def marksOn (mark : NodeId → Option String) (path : List Spot) : List String :=
  path.filterMap fun spot => mark spot.id

theorem marksOn_cons (mark : NodeId → Option String) (spot : Spot) (path : List Spot) :
    marksOn mark (spot :: path) = (mark spot.id).toList ++ marksOn mark path := by
  rw [marksOn, List.filterMap_cons]
  cases mark spot.id <;> rfl

/-- Findings about fragments that have not been taken back. -/
structure ValidationResult.Grows (v v' : ValidationResult) : Prop where
  referenced : ∀ name ∈ v.referencedIncludes, name ∈ v'.referencedIncludes
  unresolved : ∀ name ∈ v.unresolvedIncludes, name ∈ v'.unresolvedIncludes
  errors : v.errors ⊆ v'.errors

namespace ValidationResult.Grows

variable {v v' v'' : ValidationResult}

theorem refl (v : ValidationResult) : v.Grows v :=
  ⟨fun _ => id, fun _ => id, fun _ => id⟩

theorem trans (h : v.Grows v') (h' : v'.Grows v'') : v.Grows v'' :=
  ⟨fun name hname => h'.referenced name (h.referenced name hname),
    fun name hname => h'.unresolved name (h.unresolved name hname),
    fun _ herror => h'.errors (h.errors herror)⟩

theorem insert_referenced (v : ValidationResult) (name : String) :
    v.Grows { v with referencedIncludes := v.referencedIncludes.insert name } :=
  ⟨fun _ hname => NameSet.mem_insert.2 (.inr hname), fun _ => id, fun _ => id⟩

theorem insert_unresolved (v : ValidationResult) (name : String) :
    v.Grows { v with unresolvedIncludes := v.unresolvedIncludes.insert name } :=
  ⟨fun _ => id, fun _ hname => NameSet.mem_insert.2 (.inr hname), fun _ => id⟩

theorem addError (v : ValidationResult) (error : String) : v.Grows (v.addError error) :=
  ⟨fun _ => id, fun _ => id, fun _ => List.mem_append_left _⟩

end ValidationResult.Grows

namespace Tree

/-- What the findings say of a term that still names a fragment, inside the fragments of a
chain. -/
structure Accounts (e : Expansion) (chain : List String) (name : String) (v : ValidationResult) :
    Prop where
  referenced : name ∈ v.referencedIncludes
  reason : e.skip name ∨
    (name ∈ chain ∧ recursionError chain name ∈ v.errors) ∨
    (e.text? name = none ∧ name ∈ v.unresolvedIncludes) ∨
    ∃ text error, e.text? name = some text ∧ e.parse text = .error error ∧
      "Unable to parse include " ++ name ++ ": " ++ error.display ∈ v.errors

/-- No mark is twice on the path, and the findings account for the term at its end, if there is
one that names a fragment. -/
structure Traced (e : Expansion) (mark : NodeId → Option String) (v : ValidationResult)
    (path : List Spot) : Prop where
  nodup : (marksOn mark path).Nodup
  accounts : ∀ spot ∈ path.head?, ∀ l, spot.label = .inl l → ∀ name,
    fragmentName? spot.attrs l = some name → Accounts e (marksOn mark path).reverse name v

variable {e : Expansion} {chain : List String} {mark : NodeId → Option String}
  {v v' : ValidationResult} {path : List Spot}

theorem Accounts.mono {name : String} (h : Accounts e chain name v) (hgrows : v.Grows v') :
    Accounts e chain name v' := by
  refine ⟨hgrows.referenced name h.referenced, ?_⟩
  rcases h.reason with hskip | ⟨hchain, herror⟩ | ⟨htext, hlisted⟩ |
    ⟨text, error, htext, hparse, herror⟩
  · exact .inl hskip
  · exact .inr (.inl ⟨hchain, hgrows.errors herror⟩)
  · exact .inr (.inr (.inl ⟨htext, hgrows.unresolved name hlisted⟩))
  · exact .inr (.inr (.inr ⟨text, error, htext, hparse, hgrows.errors herror⟩))

theorem Traced.mono (h : Traced e mark v path) (hgrows : v.Grows v') : Traced e mark v' path :=
  ⟨h.nodup, fun spot hspot l hl name hname => (h.accounts spot hspot l hl name hname).mono hgrows⟩

/-- The path of a leaf is traced if its marks are the chain and its term is accounted for. -/
theorem traced_leaf {id : NodeId} {a : Attributes} {l : Leaf} {above : List Spot}
    (hnodup : chain.Nodup) (hchain : marksOn mark (⟨id, a, .inl l⟩ :: above) = chain.reverse)
    (haccounts : ∀ name, fragmentName? a l = some name → Accounts e chain name v) :
    ∀ path ∈ (leaf id a l).paths above, Traced e mark v path := by
  intro path hpath
  obtain rfl := List.mem_singleton.1 hpath
  refine ⟨hchain ▸ List.nodup_reverse.2 hnodup, fun spot hspot l' hl' name hname => ?_⟩
  obtain rfl := Option.mem_some_iff.1 hspot
  obtain rfl := Sum.inl.inj hl'
  rw [hchain, List.reverse_reverse]
  exact haccounts name hname

theorem traced_term {id : NodeId} {a : Attributes} {l : Leaf} {name : String} {above : List Spot}
    (hnodup : chain.Nodup) (hchain : marksOn mark (⟨id, a, .inl l⟩ :: above) = chain.reverse)
    (hname : fragmentName? a l = some name) (haccounts : Accounts e chain name v) :
    ∀ path ∈ (leaf id a l).paths above, Traced e mark v path :=
  traced_leaf hnodup hchain fun _ hsome => Option.some.inj (hname.symm.trans hsome) ▸ haccounts

namespace Expands

variable {t t' : Tree} {s s' : Splicing} {marks : List (NodeId × String)}

theorem grows (h : Expands e chain t s marks t' s') : s.validation.Grows s'.validation := by
  induction h with
  | nil => exact .refl _
  | group _ _ ihl ihr => exact ihl.trans ihr
  | plain => exact .refl _
  | skipped => exact .insert_referenced _ _
  | recursive => exact (ValidationResult.Grows.insert_referenced _ _).trans (.addError _ _)
  | unresolved =>
      exact (ValidationResult.Grows.insert_referenced _ _).trans (.insert_unresolved _ _)
  | unread => exact (ValidationResult.Grows.insert_referenced _ _).trans (.addError _ _)
  | spliced _ _ _ _ _ _ _ ih => exact (ValidationResult.Grows.insert_referenced _ _).trans ih

def Shows (mark : NodeId → Option String) (first after : NodeId) (marks : List (NodeId × String)) :
    Prop :=
  ∀ x : Nat, first ≤ x → x < after → mark x = marks.lookup x

namespace Shows

variable {l l' r r' : Tree} {s'' : Splicing} {ml mr : List (NodeId × String)} {name : String}

/-- The marks of the two sides of a group do not get into each other's way. -/
theorem left (h : Shows mark s.next s''.next (ml ++ mr)) (hr : Expands e chain r s' mr r' s'') :
    Shows mark s.next s'.next ml := by
  intro x hle hlt
  rw [h x hle (Nat.lt_of_lt_of_le hlt hr.next_le), List.lookup_append,
    hr.lookup_eq_none (.inl hlt), Option.or_none]

theorem right (h : Shows mark s.next s''.next (ml ++ mr)) (hl : Expands e chain l s ml l' s') :
    Shows mark s'.next s''.next mr := by
  intro x hle hlt
  rw [h x (Nat.le_trans hl.next_le hle) hlt, List.lookup_append, hl.lookup_eq_none (.inr hle),
    Option.none_or]

theorem first {first after : Nat} (h : Shows mark first after ((first, name) :: marks))
    (hlt : first < after) : mark first = some name := by
  rw [h first (Nat.le_refl first) hlt, List.lookup_cons, beq_self_eq_true]

theorem rest {first after : Nat} (h : Shows mark first after ((first, name) :: marks)) :
    Shows mark (first + 1) after marks := by
  intro x hle hlt
  rw [h x (Nat.le_of_lt hle) hlt, List.lookup_cons, beq_false_of_ne (Nat.ne_of_gt hle)]

end Shows

theorem marks_top_eq_nil {t : Tree} (h : ∀ x ∈ t.ids, mark x = none) :
    (t.id?.bind mark).toList = [] := by
  cases hid : t.id? with
  | none => rfl
  | some x => exact congrArg Option.toList (h x (Store.mem_ids_of_id? hid))

/-- Whatever is in the tree of a call, it is traced when the call ends, if the marks around it are
the chain of the call. The top of the tree may be marked too, if it is a group. -/
theorem traced (h : Expands e chain t s marks t' s') (hmark : Shows mark s.next s'.next marks)
    (hinside : ∀ x ∈ t.ids.tail, mark x = none)
    (htop : t.isGroup ∨ ∀ x ∈ t.ids, mark x = none) {above : List Spot}
    (hchain : (t.id?.bind mark).toList ++ marksOn mark above = chain.reverse)
    (hnodup : chain.Nodup) :
    ∀ path ∈ t'.paths above, Traced e mark s'.validation path := by
  induction h generalizing above with
  | nil =>
      intro path hpath
      cases hpath
  | @group chain id a g l r s ml l' s' mr r' s'' hl hr ihl ihr =>
      have hhere : marksOn mark (⟨id, a, .inr g⟩ :: above) = chain.reverse :=
        (marksOn_cons ..).trans hchain
      have hsl : ∀ x ∈ l.ids, mark x = none := fun x hx =>
        hinside x (List.mem_append_left _ hx)
      have hsr : ∀ x ∈ r.ids, mark x = none := fun x hx =>
        hinside x (List.mem_append_right _ hx)
      have hleft := ihl (hmark.left hr) (fun x hx => hsl x (List.mem_of_mem_tail hx)) (.inr hsl)
        (by rw [marks_top_eq_nil hsl, List.nil_append, hhere]) hnodup
      have hright := ihr (hmark.right hl) (fun x hx => hsr x (List.mem_of_mem_tail hx)) (.inr hsr)
        (by rw [marks_top_eq_nil hsr, List.nil_append, hhere]) hnodup
      intro path hpath
      rw [paths_group, List.mem_cons, List.mem_append] at hpath
      rcases hpath with rfl | hpath | hpath
      · refine ⟨hhere ▸ List.nodup_reverse.2 hnodup, fun spot hspot leaf hleaf => ?_⟩
        obtain rfl := Option.mem_some_iff.1 hspot
        cases hleaf
      · exact (hleft path hpath).mono hr.grows
      · exact hright path hpath
  | plain hname =>
      exact traced_leaf hnodup ((marksOn_cons ..).trans hchain) fun _ hsome =>
        nomatch hname.symm.trans hsome
  | skipped hname hskip =>
      exact traced_term hnodup ((marksOn_cons ..).trans hchain) hname
        ⟨NameSet.mem_insert.2 (.inl rfl), .inl hskip⟩
  | recursive hname _ hin =>
      exact traced_term hnodup ((marksOn_cons ..).trans hchain) hname
        ⟨NameSet.mem_insert.2 (.inl rfl),
          .inr (.inl ⟨hin, List.mem_append_right _ (List.mem_singleton_self _)⟩)⟩
  | unresolved hname _ _ htext =>
      exact traced_term hnodup ((marksOn_cons ..).trans hchain) hname
        ⟨NameSet.mem_insert.2 (.inl rfl),
          .inr (.inr (.inl ⟨htext, NameSet.mem_insert.2 (.inl rfl)⟩))⟩
  | unread hname _ _ htext hparse =>
      exact traced_term hnodup ((marksOn_cons ..).trans hchain) hname
        ⟨NameSet.mem_insert.2 (.inl rfl), .inr (.inr (.inr ⟨_, _, htext, hparse,
          List.mem_append_right _ (List.mem_singleton_self _)⟩))⟩
  | @spliced chain id a _ s name _ fragment marks _ s' _ _ hout _ _ hgroup hfragment ih =>
      have hid : mark id = none :=
        htop.elim (fun hleaf => nomatch hleaf) fun hleaf => hleaf id (List.mem_singleton_self _)
      have hlt := next_lt_renumber hgroup s.next
      -- the name is marked at the top of the copy and nowhere below, and is new to the chain
      have hcopied := hmark.first (Nat.lt_of_lt_of_le hlt hfragment.next_le)
      refine ih ?_ ?_ (.inl ?_) ?_ ?_
      · exact fun x hle => hmark.rest x (Nat.le_trans hlt hle)
      · intro x hx
        rw [ids_asClause] at hx
        obtain ⟨hgt, hlt⟩ := mem_tail_renumber hx
        rw [hmark.rest x hgt (Nat.lt_of_lt_of_le hlt hfragment.next_le)]
        exact hfragment.lookup_eq_none (.inl hlt)
      · rw [isGroup_asClause, isGroup_renumber, hgroup]
      · rw [id?_asClause, id?_renumber hgroup, Option.bind_some, hcopied, List.reverse_append,
          ← hchain, id?, Option.bind_some, hid]
        rfl
      · exact List.nodup_append.2 ⟨hnodup, List.nodup_singleton name, fun x hx y hy heq =>
          hout (List.mem_singleton.1 hy ▸ heq ▸ hx)⟩

end Expands

end Tree

namespace Pass

/-- A run from the root shows the expanded tree and files its notes and its findings. -/
theorem exists_run_fragments {s : Session} (h : s.store.WellFormed)
    (hroot : s.store.root < s.store.next) (own : Option FragmentTable) (skip : String → Bool)
    {parse : String → Except ParseError Tree} (hparse : ∀ text t, parse text = .ok t → t.isGroup) :
    let e : Expansion := ⟨s.context.fragments.toList ++ own.toList, skip, parse⟩
    let start : Splicing := ⟨s.store.next, s.store.annotations, s.context.validation⟩
    ∃ (s' : Session) (next : NodeId) (marks : List (NodeId × String)),
      (fragments own skip parse).run s.store.root s = (.ok s'.store.root, s') ∧
      s'.store.WellFormed ∧
      Tree.Expands e [] s.store.tree start marks s'.store.tree
        ⟨next, s'.store.annotations, s'.context.validation⟩ := by
  intro e start
  have hs : s.store.Rooted := ⟨h, hroot⟩
  have hexpanded := Session.expanded_expand (e := e) hs hs.shows.mem
    fun _ => .inr fun text hnil => nomatch hparse text .nil hnil
  obtain ⟨marks, hexpands⟩ := Tree.expands_expand (e := e) hparse [] s.store.tree start
  obtain ⟨top, htop⟩ := Option.isSome_iff_exists.1
    (hexpands.isSome_id? (Option.isSome_iff_exists.2 ⟨_, h.id?_tree hroot⟩))
  let out := s.expand e s.store.root
  have hout : out.1 = out.2.store.root :=
    (hexpanded.top top htop).trans (Option.some.inj (htop.symm.trans hexpanded.puts.id?_eq_root))
  refine ⟨out.2, out.2.store.next, marks,
    congrArg (fun top => (Except.ok top, out.2)) hout, hexpanded.puts.after.wellFormed, ?_⟩
  rw [hexpanded.puts.tree_eq_of_root,
    show Splicing.mk out.2.store.next out.2.store.annotations out.2.context.validation = _ from
      hexpanded.splicing_eq]
  exact hexpands

/-- Expansion ends, whatever fragments the tables hold and however they refer to each other. On no
path of the tree that it leaves is a name marked twice, so no more fragments are inside each other
than the tables know; and each term that still names a fragment is listed, and either left alone on
purpose, or inside the fragment of that name, or not to be resolved, or the fragment is no query.
The last three are findings. -/
theorem expansion_ends_and_accounts {s : Session} (h : s.store.WellFormed)
    (hroot : s.store.root < s.store.next) (own : Option FragmentTable) (skip : String → Bool)
    {parse : String → Except ParseError Tree} (hparse : ∀ text t, parse text = .ok t → t.isGroup) :
    let e : Expansion := ⟨s.context.fragments.toList ++ own.toList, skip, parse⟩
    let start : Splicing := ⟨s.store.next, s.store.annotations, s.context.validation⟩
    ∃ (s' : Session) (next : NodeId) (marks : List (NodeId × String)),
      (fragments own skip parse).run s.store.root s = (.ok s'.store.root, s') ∧
      s'.store.WellFormed ∧
      Tree.Expands e [] s.store.tree start marks s'.store.tree
        ⟨next, s'.store.annotations, s'.context.validation⟩ ∧
      (∀ id, s'.store.annotations.get? .includeName id =
        (marks.lookup id).or (s.store.annotations.get? .includeName id)) ∧
      ∀ path ∈ s'.store.tree.paths [],
        Tree.Traced e (fun id => marks.lookup id) s'.context.validation path ∧
        (marksOn (fun id => marks.lookup id) path).length ≤ e.names.length := by
  intro e start
  obtain ⟨hnodup, hlt⟩ := h.nodup_ids_tree hroot
  obtain ⟨s', next, marks, hrun, hwf, hexpands⟩ := exists_run_fragments h hroot own skip hparse
  have hnotes := hexpands.notes_eq
  have hold : ∀ x ∈ s.store.tree.ids, marks.lookup x = none := fun x hx =>
    hexpands.lookup_eq_none (.inl (hlt x hx))
  have htraced : ∀ path ∈ s'.store.tree.paths [],
      Tree.Traced e (fun id => marks.lookup id) s'.context.validation path := by
    refine hexpands.traced (fun _ _ _ => rfl) (fun x hx => hold x (List.mem_of_mem_tail hx))
      (.inr hold) ?_ .nil
    rw [h.id?_tree hroot, Option.bind_some, hold _ (Store.mem_ids_of_id? (h.id?_tree hroot))]
    rfl
  refine ⟨s', next, marks, hrun, hwf, hexpands, fun id => ?_,
    fun path hpath => ⟨htraced path hpath, ?_⟩⟩
  · rw [show s'.store.annotations = _ from hnotes]
    exact Annotations.get?_foldl_set hexpands.nodup_marks _ _ id
  · refine ((htraced path hpath).nodup.subperm fun name hname => ?_).length_le
    obtain ⟨spot, -, hspot⟩ := List.mem_filterMap.1 hname
    obtain ⟨before, after, rfl, -⟩ := List.lookup_eq_some_iff.1 hspot
    exact (hexpands.of_mem_marks (List.mem_append_right _ List.mem_cons_self)).2.2

/-- Two fragments name each other, one in a table of the context and one in a table of the pass.
At most two are inside each other. -/
theorem expansion_ends_for_circle :
    let term : Attributes := { Attributes.plain with field := some "@Include" }
    let s : Session := ⟨.ofTree (.group 0 .plain .plain (.leaf 1 term (.term ⟨"a", .bare⟩)) .nil),
      { Context.empty with fragments := some [("a", .resolved "x OR @include:b")] }⟩
    let own : FragmentTable := [("b", .resolved "-@include:a y")]
    ∃ (s' : Session) (marks : List (NodeId × String)),
      (fragments (some own) (fun _ => false) Tree.parse).run s.store.root s =
        (.ok s'.store.root, s') ∧
      s'.store.WellFormed ∧ ∀ path ∈ s'.store.tree.paths [],
        (marksOn (fun id => marks.lookup id) path).Nodup ∧
        (marksOn (fun id => marks.lookup id) path).length ≤ 2 := by
  intro term s own
  have hparse : ∀ text t, Tree.parse text = .ok t → t.isGroup := by
    intro text t h
    obtain ⟨operator, l, r, rfl⟩ := Tree.exists_eq_group_of_parse h
    rfl
  have hwf : s.store.WellFormed := Store.wellFormed_ofTree rfl (by decide)
  obtain ⟨s', -, marks, hrun, hwf', -, -, hpaths⟩ :=
    expansion_ends_and_accounts hwf (by decide) (some own) (fun _ => false) hparse
  exact ⟨s', marks, hrun, hwf', fun path hpath =>
    ⟨(hpaths path hpath).1.nodup, (hpaths path hpath).2⟩⟩

end Pass

end SearchQuery
