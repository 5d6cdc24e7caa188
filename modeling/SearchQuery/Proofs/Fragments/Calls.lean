import SearchQuery.Pass.Fragments
import SearchQuery.Proofs.Fragments.InPlace

/-!
# The calls of an expansion

Expansion reads a new text for each fragment, so nothing about the tree it starts from bounds what
it does. `Tree.Expands` lists what a call can do and which calls it makes in turn, without a word about
how many there are; a derivation of it is a run that has ended. Every call has one,
`expands_expand`.

A call also gives out the notes that it files: the top of each fragment that it puts in place is
marked with the name of the fragment.
-/

namespace SearchQuery

namespace Splicing

def refer (s : Splicing) (name : String) : Splicing :=
  s.record fun v => { v with referencedIncludes := v.referencedIncludes.insert name }

/-- A fragment of this name that starts with the next number is put in place. -/
def mark (s : Splicing) (name : String) (after : NodeId) : Splicing :=
  { s with next := after, notes := s.notes.set .includeName s.next name }

end Splicing

namespace Annotations

theorem get?_set_of_ne {α β : Type} [IsNote α] [IsNote β] {key : NoteKey α} {key' : NoteKey β}
    {node node' : NodeId} (h : ¬ (key'.name = key.name ∧ node' = node)) (a : Annotations)
    (value : α) : (a.set key node value).get? key' node' = a.get? key' node' := by
  rw [get?, set, note?_file, if_neg h]
  rfl

/-- Notes that are filed on different nodes one after another can all be read back. -/
theorem get?_foldl_set {marks : List (NodeId × String)} (h : (marks.map (·.1)).Nodup)
    (a : Annotations) (key : NoteKey String) (node : NodeId) :
    (marks.foldl (fun a m => a.set key m.1 m.2) a).get? key node =
      (marks.lookup node).or (a.get? key node) := by
  induction marks generalizing a with
  | nil => rfl
  | cons m rest ih =>
      obtain ⟨hm, hrest⟩ := List.nodup_cons.1 h
      rw [List.foldl_cons, ih hrest, List.lookup_cons]
      by_cases hnode : node = m.1
      · have hnone : rest.lookup node = none :=
          List.lookup_eq_none_iff.2 fun m' hm' => bne_iff_ne.2 fun heq =>
            hm (List.mem_map.2 ⟨m', hm', heq.symm.trans hnode⟩)
        rw [hnone, hnode, get?_set_same, beq_self_eq_true]
        rfl
      · rw [beq_false_of_ne hnode, get?_set_of_ne fun heq => hnode heq.2]

end Annotations

namespace Tree

/-- A call on a tree inside the fragments of a chain, with the marks that it files, and what comes
of the tree. -/
inductive Expands (e : Expansion) :
    List String → Tree → Splicing → List (NodeId × String) → Tree → Splicing → Prop
  | nil {chain s} : Expands e chain nil s [] nil s
  | group {chain id a g l r s ml l' s' mr r' s''} (hl : Expands e chain l s ml l' s')
      (hr : Expands e chain r s' mr r' s'') :
      Expands e chain (group id a g l r) s (ml ++ mr) (group id a g l' r') s''
  | plain {chain id a l s} (hname : fragmentName? a l = none) :
      Expands e chain (leaf id a l) s [] (leaf id a l) s
  | skipped {chain id a l s name} (hname : fragmentName? a l = some name) (hskip : e.skip name) :
      Expands e chain (leaf id a l) s [] (leaf id a l) (s.refer name)
  | recursive {chain id a l s name} (hname : fragmentName? a l = some name)
      (hskip : ¬ e.skip name) (hchain : name ∈ chain) :
      Expands e chain (leaf id a l) s [] (leaf id a l)
        ((s.refer name).record (·.addError (recursionError chain name)))
  | unresolved {chain id a l s name} (hname : fragmentName? a l = some name)
      (hskip : ¬ e.skip name) (hchain : name ∉ chain) (htext : e.text? name = none) :
      Expands e chain (leaf id a l) s [] (leaf id a l) ((s.refer name).record fun v =>
        { v with unresolvedIncludes := v.unresolvedIncludes.insert name })
  | unread {chain id a l s name text error} (hname : fragmentName? a l = some name)
      (hskip : ¬ e.skip name) (hchain : name ∉ chain) (htext : e.text? name = some text)
      (hparse : e.parse text = .error error) :
      Expands e chain (leaf id a l) s [] (leaf id a l) ((s.refer name).record
        (·.addError ("Unable to parse include " ++ name ++ ": " ++ error.display)))
  | spliced {chain id a l s name text fragment marks t' s'} (hname : fragmentName? a l = some name)
      (hskip : ¬ e.skip name) (hchain : name ∉ chain) (htext : e.text? name = some text)
      (hparse : e.parse text = .ok fragment) (hgroup : fragment.isGroup)
      (hfragment : Expands e (chain ++ [name]) ((fragment.renumber s.next).1.asClause a)
        ((s.refer name).mark name (fragment.renumber s.next).2) marks t' s') :
      Expands e chain (leaf id a l) s ((s.next, name) :: marks) t' s'

theorem id?_renumber {t : Tree} (h : t.isGroup) (next : NodeId) :
    (t.renumber next).1.id? = some next := by
  cases t with
  | nil => cases h
  | leaf => cases h
  | group => rfl

theorem next_lt_renumber {fragment : Tree} (hgroup : fragment.isGroup) (next : Nat) :
    next < (fragment.renumber next).2 :=
  ((extends_renumber fragment next).mem_iff.1
    (Store.mem_ids_of_id? (id?_renumber hgroup next)) |>.resolve_left (by simp)).2

/-- Below its top a tree gets greater numbers. -/
theorem mem_tail_renumber {t : Tree} {next x : Nat} (hx : x ∈ (t.renumber next).1.ids.tail) :
    next < x ∧ x < (t.renumber next).2 := by
  have hextends := extends_renumber t next
  have hbounds := (hextends.mem_iff.1 (List.mem_of_mem_tail hx)).resolve_left List.not_mem_nil
  have hnodup := hextends.nodup .nil fun x hx => nomatch hx
  refine ⟨Nat.lt_of_le_of_ne hbounds.1 ?_, hbounds.2⟩
  rintro rfl
  cases t with
  | nil => cases hx
  | leaf => cases hx
  | group => exact (List.nodup_cons.1 hnodup).1 hx

theorem id?_asClause (a : Attributes) (t : Tree) : (t.asClause a).id? = t.id? := by
  cases t <;> rfl

theorem ids_asClause (a : Attributes) (t : Tree) : (t.asClause a).ids = t.ids := by
  cases t <;> rfl

theorem isGroup_asClause (a : Attributes) (t : Tree) : (t.asClause a).isGroup = t.isGroup := by
  cases t <;> rfl

theorem isGroup_renumber (t : Tree) (next : NodeId) : (t.renumber next).1.isGroup = t.isGroup := by
  cases t <;> rfl

/-- Every call ends, where fragments are read as groups. -/
theorem expands_expand {e : Expansion} (hparse : ∀ text t, e.parse text = .ok t → t.isGroup)
    (chain : List String) (t : Tree) (s : Splicing) :
    ∃ marks, Expands e chain t s marks (t.expand e chain s).1 (t.expand e chain s).2 := by
  fun_induction expand e chain t s with
  | case1 => exact ⟨[], .nil⟩
  | case2 chain s id a g l r l' s' hl r' s'' hr ihl ihr =>
      obtain ⟨ml, hml⟩ := ihl
      obtain ⟨mr, hmr⟩ := ihr
      rw [hl] at hml
      rw [hr] at hmr
      exact ⟨ml ++ mr, .group hml hmr⟩
  | case3 chain s id a l hname => exact ⟨[], .plain hname⟩
  | case4 chain s id a l name hname _ hskip => exact ⟨[], .skipped hname hskip⟩
  | case5 chain s id a l name hname _ hskip hchain =>
      exact ⟨[], .recursive hname hskip hchain⟩
  | case6 chain s id a l name hname _ hskip hchain htext =>
      exact ⟨[], .unresolved hname hskip hchain htext⟩
  | case7 chain s id a l name hname _ hskip hchain text htext error herror =>
      exact ⟨[], .unread hname hskip hchain htext herror⟩
  | case8 chain s id a l name hname _ hskip hchain text htext fragment hfragment copied next hcopied
      notes ih =>
      have hgroup := hparse text fragment hfragment
      have htop : copied.id? = some s.next := by
        have hid := id?_renumber hgroup s.next
        rwa [show fragment.renumber s.next = (copied, next) from hcopied] at hid
      obtain ⟨marks, hmarks⟩ := ih
      refine ⟨(s.next, name) :: marks, .spliced hname hskip hchain htext hfragment hgroup ?_⟩
      have hmarked : (s.refer name).mark name next = ⟨next, notes, (s.refer name).validation⟩ := by
        simp only [notes, htop]
        rfl
      rw [show fragment.renumber s.next = (copied, next) from hcopied, hmarked]
      exact hmarks

namespace Expands

variable {e : Expansion} {chain : List String} {t t' : Tree} {s s' : Splicing}
  {marks : List (NodeId × String)}

/-- The notes of a call are its marks, filed one after another. -/
theorem notes_eq (h : Expands e chain t s marks t' s') :
    s'.notes = marks.foldl (fun notes m => notes.set .includeName m.1 m.2) s.notes := by
  induction h with
  | group _ _ ihl ihr => rw [ihr, ihl, List.foldl_append]
  | spliced _ _ _ _ _ _ _ ih => exact ih
  | _ => rfl

theorem next_le (h : Expands e chain t s marks t' s') : s.next ≤ s'.next := by
  induction h with
  | group _ _ ihl ihr => exact Nat.le_trans ihl ihr
  | @spliced _ _ _ _ s _ _ _ _ _ _ _ _ _ _ _ hgroup _ ih =>
      exact Nat.le_trans (Nat.le_of_lt (next_lt_renumber hgroup s.next)) ih
  | _ => exact Nat.le_refl _

theorem isSome_id? (h : Expands e chain t s marks t' s') (ht : t.id?.isSome) : t'.id?.isSome := by
  induction h with
  | @spliced _ _ a _ s _ _ _ _ _ _ _ _ _ _ _ hgroup _ ih =>
      refine ih ?_
      rw [id?_asClause, id?_renumber hgroup]
      rfl
  | group => rfl
  | _ => exact ht

/-- What is marked is new, and the marks are names that the tables know. -/
theorem of_mem_marks (h : Expands e chain t s marks t' s') {id : Nat} {name : String}
    (hm : (id, name) ∈ marks) : s.next ≤ id ∧ id < s'.next ∧ name ∈ e.names := by
  induction h with
  | group hl hr ihl ihr =>
      rcases List.mem_append.1 hm with hm | hm
      · obtain ⟨hle, hlt, hname⟩ := ihl hm
        exact ⟨hle, Nat.lt_of_lt_of_le hlt hr.next_le, hname⟩
      · obtain ⟨hle, hlt, hname⟩ := ihr hm
        exact ⟨Nat.le_trans hl.next_le hle, hlt, hname⟩
  | @spliced _ _ _ _ s _ _ _ _ _ _ _ _ _ htext _ hgroup hfragment ih =>
      have hlt := next_lt_renumber hgroup s.next
      rcases List.mem_cons.1 hm with heq | hm
      · obtain ⟨rfl, rfl⟩ := Prod.mk.injEq .. ▸ heq
        exact ⟨Nat.le_refl _, Nat.lt_of_lt_of_le hlt hfragment.next_le,
          Expansion.mem_names_of_text? htext⟩
      · obtain ⟨hle, hlt', hname⟩ := ih hm
        exact ⟨Nat.le_trans (Nat.le_of_lt hlt) hle, hlt', hname⟩
  | _ => cases hm

theorem lookup_eq_none (h : Expands e chain t s marks t' s') {id : Nat}
    (hid : id < s.next ∨ s'.next ≤ id) : marks.lookup id = none := by
  refine List.lookup_eq_none_iff.2 fun ⟨x, name⟩ hmark => bne_iff_ne.2 fun heq => ?_
  obtain rfl : id = x := heq
  obtain ⟨hle, hlt, -⟩ := h.of_mem_marks hmark
  exact hid.elim (Nat.not_lt.2 hle) (Nat.not_le.2 hlt)

theorem nodup_marks (h : Expands e chain t s marks t' s') : (marks.map (·.1)).Nodup := by
  induction h with
  | group hl hr ihl ihr =>
      rw [List.map_append]
      refine List.nodup_append.2 ⟨ihl, ihr, fun x hx y hy => ?_⟩
      obtain ⟨⟨_, _⟩, hmx, rfl⟩ := List.mem_map.1 hx
      obtain ⟨⟨_, _⟩, hmy, rfl⟩ := List.mem_map.1 hy
      exact Nat.ne_of_lt (Nat.lt_of_lt_of_le (hl.of_mem_marks hmx).2.1 (hr.of_mem_marks hmy).1)
  | @spliced _ _ _ _ s _ _ _ _ _ _ _ _ _ _ _ hgroup hfragment ih =>
      rw [List.map_cons]
      refine List.nodup_cons.2 ⟨fun hmem => ?_, ih⟩
      obtain ⟨⟨x, _⟩, hm, heq⟩ := List.mem_map.1 hmem
      obtain rfl : x = s.next := heq
      exact absurd (next_lt_renumber hgroup s.next) (Nat.not_lt.2 (hfragment.of_mem_marks hm).1)
  | _ => exact List.nodup_nil

end Expands

end Tree

end SearchQuery
