import Mathlib.Logic.Relation
import SearchQuery.Proofs.Fragments.Chains
import SearchQuery.Proofs.Query.Building
import SearchQuery.Proofs.Query.Reading

/-!
# What a query with fragments means

`Tree.Means` reads a tree without expanding it: a term that names a fragment means what the
fragment means in the scope of the term, complemented as the term is. Fragments that do not refer
to themselves, however indirectly, are put in place without a change of meaning,
`Pass.expansion_preserves_meaning`.

A name that no table knows is read like any other term, before and after.
-/

namespace SearchQuery

namespace Tree

def fragmentNames : Tree → List String
  | nil => []
  | leaf _ a l => (fragmentName? a l).toList
  | group _ _ _ l r => l.fragmentNames ++ r.fragmentNames

theorem fragmentNames_renumber (t : Tree) (next : NodeId) :
    (t.renumber next).1.fragmentNames = t.fragmentNames := by
  induction t generalizing next with
  | nil => rfl
  | leaf => rfl
  | group id a g l r ihl ihr =>
      simp only [renumber, fragmentNames]
      rw [ihl, ihr]

theorem fragmentNames_asClause {t : Tree} (h : t.isGroup) (a : Attributes) :
    (t.asClause a).fragmentNames = t.fragmentNames := by
  cases t with
  | nil => cases h
  | leaf => cases h
  | group => rfl

end Tree

namespace Expansion

def Refers (e : Expansion) (name name' : String) : Prop :=
  ∃ text fragment, e.text? name = some text ∧ e.parse text = .ok fragment ∧
    name' ∈ fragment.fragmentNames

end Expansion

namespace Tree

/-- The truth value of a tree in a scope, where the terms that name fragments stand for them. -/
inductive Means (e : Expansion) (i : Interpretation) : Option String → Tree → Option Bool → Prop
  | nil {inherited} : Means e i inherited nil none
  | atom {inherited id a l} (hname : fragmentName? a l = none) :
      Means e i inherited (leaf id a l) (some (a.complements ^^ i.holds l (a.searched inherited)))
  | unknown {inherited id a l name} (hname : fragmentName? a l = some name)
      (htext : e.text? name = none) :
      Means e i inherited (leaf id a l) (some (a.complements ^^ i.holds l (a.searched inherited)))
  | fragment {inherited id a l name text fragment o} (hname : fragmentName? a l = some name)
      (htext : e.text? name = some text) (hparse : e.parse text = .ok fragment)
      (hfragment : Means e i inherited fragment o) :
      Means e i inherited (leaf id a l) (o.map (a.complements ^^ ·))
  | group {inherited id a g l r ol or} (hl : Means e i (a.scope inherited) l ol)
      (hr : Means e i (a.scope inherited) r or) :
      Means e i inherited (group id a g l r)
        ((ol.merge (g.operator.combine i) or).map (a.complements ^^ ·))

namespace Means

variable {e : Expansion} {i : Interpretation} {inherited : Option String} {t : Tree}
  {o o' : Option Bool}

theorem unique (h : Means e i inherited t o) (h' : Means e i inherited t o') : o = o' := by
  induction h generalizing o' with
  | nil =>
      cases h'
      rfl
  | atom hname =>
      cases h' with
      | atom => rfl
      | unknown => rfl
      | fragment hname' => exact nomatch hname.symm.trans hname'
  | unknown hname htext =>
      cases h' with
      | atom => rfl
      | unknown => rfl
      | fragment hname' htext' =>
          obtain rfl := Option.some.inj (hname.symm.trans hname')
          exact nomatch htext.symm.trans htext'
  | fragment hname htext hparse _ ih =>
      cases h' with
      | atom hname' => exact nomatch hname.symm.trans hname'
      | unknown hname' htext' =>
          obtain rfl := Option.some.inj (hname.symm.trans hname')
          exact nomatch htext.symm.trans htext'
      | fragment hname' htext' hparse' hfragment' =>
          obtain rfl := Option.some.inj (hname.symm.trans hname')
          obtain rfl := Option.some.inj (htext.symm.trans htext')
          obtain rfl := Except.ok.inj (hparse.symm.trans hparse')
          rw [ih hfragment']
  | group _ _ ihl ihr =>
      cases h' with
      | group hl' hr' => rw [ihl hl', ihr hr']

theorem of_renumber {next : NodeId} (h : Means e i inherited (t.renumber next).1 o) :
    Means e i inherited t o := by
  induction t generalizing next inherited o with
  | nil => exact h
  | leaf id a l =>
      cases h with
      | atom hname => exact .atom hname
      | unknown hname htext => exact .unknown hname htext
      | fragment hname htext hparse hfragment => exact .fragment hname htext hparse hfragment
  | group id a g l r ihl ihr =>
      cases h with
      | group hl hr => exact .group (ihl hl) (ihr hr)

/-- A fragment in the place of a term says what the fragment says, complemented as the term is. -/
theorem of_asClause {fragment : Tree}
    (hroot : ∃ id g l r, fragment = Tree.group id .plain g l r)
    {next : NodeId} {a : Attributes}
    (h : Means e i inherited ((fragment.renumber next).1.asClause a) o) :
    ∃ o', Means e i inherited fragment o' ∧ o = o'.map (a.complements ^^ ·) := by
  obtain ⟨id, g, l, r, rfl⟩ := hroot
  have hscope : ∀ b : Attributes, b.field = none →
      b.scope inherited = Attributes.plain.scope inherited :=
    fun b hb => Attributes.scope_congr hb inherited
  cases h with
  | group hl hr =>
      rw [hscope _ rfl] at hl hr
      refine ⟨_, .group hl.of_renumber hr.of_renumber, ?_⟩
      rw [Attributes.complements_plain, map_false_xor]
      rfl

end Means

def LedTo (e : Expansion) (chain : List String) (t : Tree) : Prop :=
  ∀ outer ∈ chain, ∀ name ∈ t.fragmentNames, Relation.TransGen e.Refers outer name

namespace LedTo

variable {e : Expansion} {chain : List String} {id : NodeId} {a : Attributes} {g : Group}
  {l r : Tree} {leaf : Leaf} {name text : String} {fragment : Tree}

theorem left (h : LedTo e chain (group id a g l r)) : LedTo e chain l :=
  fun outer hin name hname => h outer hin name (List.mem_append_left _ hname)

theorem right (h : LedTo e chain (group id a g l r)) : LedTo e chain r :=
  fun outer hin name hname => h outer hin name (List.mem_append_right _ hname)

theorem transGen (h : LedTo e chain (.leaf id a leaf)) (hname : fragmentName? a leaf = some name)
    {outer : String} (hin : outer ∈ chain) : Relation.TransGen e.Refers outer name := by
  refine h outer hin name ?_
  rw [fragmentNames, hname]
  exact List.mem_singleton_self name

theorem inside (h : LedTo e chain (.leaf id a leaf)) (hname : fragmentName? a leaf = some name)
    (htext : e.text? name = some text) (hparse : e.parse text = .ok fragment)
    (hgroup : fragment.isGroup) (next : NodeId) :
    LedTo e (chain ++ [name]) ((fragment.renumber next).1.asClause a) := by
  intro outer hin inner hinner
  rw [fragmentNames_asClause (by rw [isGroup_renumber, hgroup]), fragmentNames_renumber] at hinner
  have hrefers : e.Refers name inner := ⟨text, fragment, htext, hparse, hinner⟩
  rcases List.mem_append.1 hin with hin | hin
  · exact (h.transGen hname hin).tail hrefers
  · exact List.mem_singleton.1 hin ▸ .single hrefers

end LedTo

end Tree

/-- Nothing can go wrong in such an expansion but that a name is in no table. -/
structure Expansion.Smooth (e : Expansion) : Prop where
  skips_none : ∀ name, ¬ e.skip name
  plain_root : ∀ text fragment, e.parse text = .ok fragment →
    ∃ id g l r, fragment = .group id .plain g l r
  parses : ∀ name text, e.text? name = some text → ∃ fragment, e.parse text = .ok fragment
  acyclic : ∀ name, ¬ Relation.TransGen e.Refers name name

namespace Tree.Expands

variable {e : Expansion} {chain : List String} {t t' : Tree} {s s' : Splicing}
  {marks : List (NodeId × String)}

theorem means (h : Expands e chain t s marks t' s') (he : e.Smooth) (hchain : LedTo e chain t)
    (i : Interpretation) (inherited : Option String) :
    Means e i inherited t (t'.reading i inherited) := by
  induction h generalizing inherited with
  | nil => exact .nil
  | group _ _ ihl ihr => exact .group (ihl hchain.left _) (ihr hchain.right _)
  | plain hname => exact .atom hname
  | skipped _ hskip => exact absurd hskip (he.skips_none _)
  -- a name in the chain leads to itself
  | recursive hname _ hin => exact absurd (hchain.transGen hname hin) (he.acyclic _)
  | unresolved hname _ _ htext => exact .unknown hname htext
  | unread _ _ _ htext herror =>
      obtain ⟨fragment, hfragment⟩ := he.parses _ _ htext
      exact nomatch herror.symm.trans hfragment
  | spliced hname _ _ htext hparse hgroup _ ih =>
      have hcopy := ih (hchain.inside hname htext hparse hgroup _) inherited
      obtain ⟨o, hmeans, heq⟩ := hcopy.of_asClause (he.plain_root _ _ hparse)
      rw [heq]
      exact .fragment hname htext hparse hmeans

/-- The names that are left are in no table. They were in the tree or are in a fragment. -/
theorem of_mem_fragmentNames (h : Expands e chain t s marks t' s') (he : e.Smooth)
    (hchain : LedTo e chain t) {name : String} (hleft : name ∈ t'.fragmentNames) :
    e.text? name = none ∧ (name ∈ t.fragmentNames ∨ ∃ outer, e.Refers outer name) := by
  induction h with
  | nil => exact absurd hleft List.not_mem_nil
  | group _ _ ihl ihr =>
      rcases List.mem_append.1 hleft with hleft | hleft
      · obtain ⟨htext, horigin⟩ := ihl hchain.left hleft
        exact ⟨htext, horigin.imp_left (List.mem_append_left _)⟩
      · obtain ⟨htext, horigin⟩ := ihr hchain.right hleft
        exact ⟨htext, horigin.imp_left (List.mem_append_right _)⟩
  | plain hname =>
      rw [fragmentNames, hname] at hleft
      exact absurd hleft List.not_mem_nil
  | skipped _ hskip => exact absurd hskip (he.skips_none _)
  | recursive hname _ hin => exact absurd (hchain.transGen hname hin) (he.acyclic _)
  | unresolved hname _ _ htext =>
      refine ⟨?_, .inl hleft⟩
      rw [fragmentNames, hname] at hleft
      rwa [List.mem_singleton.1 hleft]
  | unread _ _ _ htext herror =>
      obtain ⟨fragment, hfragment⟩ := he.parses _ _ htext
      exact nomatch herror.symm.trans hfragment
  | @spliced _ _ a _ s outer _ fragment _ _ _ hname _ _ htext hparse hgroup _ ih =>
      obtain ⟨hnone, horigin⟩ := ih (hchain.inside hname htext hparse hgroup _) hleft
      refine ⟨hnone, .inr (horigin.elim (fun hin => ⟨outer, _, fragment, htext, hparse, ?_⟩) id)⟩
      rwa [fragmentNames_asClause (by rw [isGroup_renumber, hgroup]), fragmentNames_renumber] at hin

end Tree.Expands

namespace Pass

/-- Expansion with the own parser, of fragments that are all queries and do not refer to
themselves, starting from a query whose terms name fragments that the tables know. The query is then
read as it meant before, under every interpretation, and this is the only thing that it meant.
The terms left over are in fragments and name nothing that the tables know, so none is left over if
the fragments too name nothing else. -/
theorem expansion_preserves_meaning {s : Session} (h : s.store.WellFormed)
    (hroot : s.store.root < s.store.next) (own : Option FragmentTable) :
    let e : Expansion := ⟨s.context.fragments.toList ++ own.toList, fun _ => false, Tree.parse⟩
    (∀ name text, e.text? name = some text → ∃ fragment, Tree.parse text = .ok fragment) →
    (∀ name, ¬ Relation.TransGen e.Refers name name) →
    (∀ name ∈ s.store.tree.fragmentNames, (e.text? name).isSome) →
    ∃ s' : Session,
      (fragments own (fun _ => false) Tree.parse).run s.store.root s = (.ok s'.store.root, s') ∧
      s'.store.WellFormed ∧
      (∀ i o, Tree.Means e i none s.store.tree o ↔ o = s'.store.tree.reading i none) ∧
      (∀ name ∈ s'.store.tree.fragmentNames,
        e.text? name = none ∧ ∃ outer, e.Refers outer name) ∧
      ((∀ outer name, e.Refers outer name → (e.text? name).isSome) →
        s'.store.tree.fragmentNames = []) := by
  intro e hparses hacyclic hknown
  have hplain : ∀ text fragment, Tree.parse text = .ok fragment →
      ∃ id g l r, fragment = .group id .plain g l r := by
    intro text fragment hparse
    obtain ⟨operator, l, r, rfl⟩ := Tree.exists_eq_group_of_parse hparse
    exact ⟨_, _, _, _, rfl⟩
  have hsmooth : e.Smooth := ⟨fun _ => Bool.false_ne_true, hplain, hparses, hacyclic⟩
  obtain ⟨s', next, marks, hrun, hwf, hexpands⟩ :=
    exists_run_fragments h hroot own (fun _ => false) fun text fragment hparse => by
      obtain ⟨_, _, _, _, rfl⟩ := hplain text fragment hparse
      rfl
  have hchain : Tree.LedTo e [] s.store.tree := fun _ hin => nomatch hin
  have hleft : ∀ name ∈ s'.store.tree.fragmentNames,
      e.text? name = none ∧ ∃ outer, e.Refers outer name := by
    intro name hname
    obtain ⟨hnone, hin | hrefers⟩ := hexpands.of_mem_fragmentNames hsmooth hchain hname
    · exact nomatch hnone ▸ hknown name hin
    · exact ⟨hnone, hrefers⟩
  refine ⟨s', hrun, hwf, fun i o => ⟨fun hmeans => ?_, ?_⟩, hleft, fun hclosed => ?_⟩
  · exact hmeans.unique (hexpands.means hsmooth hchain i none)
  · rintro rfl
    exact hexpands.means hsmooth hchain i none
  · refine List.eq_nil_iff_forall_not_mem.2 fun name hname => ?_
    obtain ⟨hnone, outer, hrefers⟩ := hleft name hname
    exact nomatch hnone ▸ hclosed outer name hrefers

/-- In the query `f:(NOT @include:a)` the fragment `a` is `-@include:b` and `b` is `x`, so the query
asks for `x` in the field `f`. -/
theorem expansion_preserves_meaning_of_nested_fragment :
    let negated : Attributes :=
      { Attributes.plain with field := some "@include", negation := .negated }
    let query : Tree := .group 0 .plain .plain
      (.group 1 { Attributes.plain with field := some "f" } ⟨.default, true⟩
        (.leaf 2 negated (.term ⟨"a", .bare⟩)) .nil) .nil
    let s : Session := ⟨.ofTree query, { Context.empty with
      fragments := some [("a", .resolved "-@include:b"), ("b", .resolved "x")] }⟩
    ∃ s' : Session,
      (fragments none (fun _ => false) Tree.parse).run s.store.root s = (.ok s'.store.root, s') ∧
      s'.store.tree.fragmentNames = [] ∧
      ∀ i, s'.store.tree.reading i none = some (i.holds (.term ⟨"x", .bare⟩) "f") := by
  intro negated query s
  have htree : s.store.tree = query := Store.tree_ofTree rfl (by decide)
  let marked : Attributes :=
    { Attributes.plain with field := some "@include", sign := some .mustNot }
  let a : Tree := .group 0 .plain .plain (.leaf 1 marked (.term ⟨"b", .bare⟩)) .nil
  let b : Tree := .group 0 .plain .plain (.leaf 1 .plain (.term ⟨"x", .bare⟩)) .nil
  have hreada : Lexes "-@include:b".toList [.minus, .field "@include", .term "b"] :=
    .of_scan (by decide) rfl (.of_scan (by decide) rfl (.of_scan (by decide) rfl .nil))
  have hreadb : Lexes "x".toList [.term "x"] := .of_scan (by decide) rfl .nil
  have hparsea : Tree.parse "-@include:b" = .ok a := Tree.parse_of_reads hreada rfl rfl
  have hparseb : Tree.parse "x" = .ok b := Tree.parse_of_reads hreadb rfl rfl
  have hnamea : fragmentName? negated (.term ⟨"a", .bare⟩) = some "a" := by decide +kernel
  have hnameb : fragmentName? marked (.term ⟨"b", .bare⟩) = some "b" := by decide +kernel
  have hnamesa : a.fragmentNames = ["b"] := by decide +kernel
  let e : Expansion := ⟨s.context.fragments.toList ++ [], fun _ => false, Tree.parse⟩
  have htext : ∀ name text, e.text? name = some text →
      (name = "a" ∧ text = "-@include:b") ∨ (name = "b" ∧ text = "x") := by
    intro name text h
    by_cases ha : name = "a"
    · subst ha
      exact .inl ⟨rfl, (Option.some.inj h).symm⟩
    · by_cases hb : name = "b"
      · subst hb
        exact .inr ⟨rfl, (Option.some.inj h).symm⟩
      · have hnone : e.text? name = none := by
          simp [e, s, Expansion.text?, FragmentTable.text?, List.lookup_cons, beq_false_of_ne ha,
            beq_false_of_ne hb]
        exact nomatch hnone.symm.trans h
  have hrefers : ∀ name name', e.Refers name name' → name = "a" ∧ name' = "b" := by
    rintro name name' ⟨text, fragment, hname, hfragment, hin⟩
    rcases htext name text hname with ⟨rfl, rfl⟩ | ⟨rfl, rfl⟩
    · obtain rfl := Except.ok.inj (hparsea.symm.trans hfragment)
      exact ⟨rfl, List.mem_singleton.1 (hnamesa ▸ hin)⟩
    · obtain rfl := Except.ok.inj (hparseb.symm.trans hfragment)
      exact nomatch hin
  obtain ⟨s', hrun, -, hmeans, -, hnone⟩ :=
    expansion_preserves_meaning (s := s) (Store.wellFormed_ofTree rfl (by decide)) (by decide) none
      (by
        intro name text hname
        rcases htext name text hname with ⟨-, rfl⟩ | ⟨-, rfl⟩
        · exact ⟨a, hparsea⟩
        · exact ⟨b, hparseb⟩)
      (by
        intro name hcircle
        obtain ⟨_, hfirst, -⟩ := Relation.TransGen.head'_iff.1 hcircle
        obtain ⟨_, -, hlast⟩ := Relation.TransGen.tail'_iff.1 hcircle
        exact absurd ((hrefers _ _ hfirst).1.symm.trans (hrefers _ _ hlast).2) (by decide))
      (by
        rw [htree]
        decide +kernel)
  refine ⟨s', hrun, hnone fun outer name hname => ?_, fun i => ?_⟩
  · rw [(hrefers outer name hname).2]
    rfl
  · have hb : Tree.Means e i (some "f") b _ := .group (.atom rfl) .nil
    have ha : Tree.Means e i (some "f") a _ := .group (.fragment hnameb rfl hparseb hb) .nil
    have hquery : Tree.Means e i none query _ :=
      .group (.group (.fragment hnamea rfl hparsea ha) .nil) .nil
    rw [← (hmeans i _).1 (htree ▸ hquery)]
    change some (false ^^ (false ^^ (true ^^ (false ^^ (true ^^ (false ^^ (false ^^
      i.holds (.term ⟨"x", .bare⟩) "f"))))))) = _
    simp only [Bool.false_xor, Bool.true_xor, Bool.not_not]

end Pass

end SearchQuery
