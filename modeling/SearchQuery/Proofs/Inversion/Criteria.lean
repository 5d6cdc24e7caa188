import SearchQuery.Proofs.Inversion.Negation

/-!
# The criteria beside a negated part

`invertNode` negates a tree and puts it beside a copy of the criteria. The copy says what the
criteria say, except that a root that is unwrapped takes its sign with it: criteria that are a
single clause in a group marked `-` come out as the clause alone. `LosesSign` tells these criteria.
-/

namespace SearchQuery.Tree

/-- Whether the criteria are a group that is unwrapped although it complements its clause. -/
def losesSign : Tree → Bool
  | group _ a _ l r =>
      a.field.isNone && !a.negation.isExplicit && !l.isNil && r.isNil && a.complements
  | _ => false

theorem reading_criteria (i : Interpretation) (inherited : Option String) (t : Tree) :
    t.criteria.reading i inherited = (t.reading i inherited).map (t.losesSign ^^ ·) := by
  cases t with
  | nil => rfl
  | leaf id a l => exact (map_false_xor _).symm
  | group id a g l r =>
      by_cases h : a.field.isNone && !a.negation.isExplicit && !l.isNil && r.isNil
      · have hfield : a.field = none := by simp_all
        obtain rfl : r = nil := isNil_iff.1 (by simp_all)
        rw [criteria, if_pos h, losesSign, h, Bool.true_and, reading_group_nil,
          Attributes.scope_of_field_eq_none hfield, map_xor_map_xor, Bool.xor_self, map_false_xor]
      · rw [criteria, if_neg h, losesSign, (Bool.not_eq_true _).mp h, Bool.false_and,
          map_false_xor]
        rfl

theorem invertNode_none (t : Tree) (next : NodeId) : t.invertNode none next = t.negate next := rfl

theorem invertNode_some (root t : Tree) (next : NodeId) :
    t.invertNode (some root) next =
      let inverted := t.negate next
      let copied := root.criteria.renumber inverted.2
      (group copied.2 .plain ⟨.or, true⟩ copied.1 inverted.1, copied.2 + 1) := rfl

theorem extends_invertNode (alternate : Option Tree) (t : Tree) (next : NodeId) :
    Extends t.ids (t.invertNode alternate next).1.ids next (t.invertNode alternate next).2 := by
  have hnegate := (negates_negate t next).extends_ids
  cases alternate with
  | none => exact hnegate
  | some root =>
      have hcopy := extends_renumber root.criteria (t.negate next).2
      have hboth : Extends t.ids ((root.criteria.renumber (t.negate next).2).1.ids ++
          (t.negate next).1.ids) next (root.criteria.renumber (t.negate next).2).2 := by
        obtain ⟨count, heq, hperm⟩ := hnegate.append hcopy
        rw [List.append_nil] at hperm
        exact ⟨count, heq, List.perm_append_comm.trans hperm⟩
      exact hboth.push

/-- The inverted tree is true just if the criteria hold, as they are copied, or the tree does
not. -/
theorem reading_invertNode (i : Interpretation) (inherited : Option String)
    (alternate : Option Tree) (t : Tree) (next : NodeId) :
    (t.invertNode alternate next).1.reading i inherited =
      (alternate.bind fun root => root.criteria.reading i inherited).merge (· || ·)
        ((t.reading i inherited).map (!·)) := by
  have hnegate := (negates_negate t next).reading i inherited
  cases alternate with
  | none => rw [invertNode_none, hnegate, Option.bind_none, Option.merge_none_left]
  | some root =>
      rw [invertNode_some, reading_group, Attributes.scope_plain, Attributes.complements_plain,
        map_false_xor, reading_renumber, hnegate, Option.bind_some]
      rfl

theorem filter_occurrences_renumber {bound next : Nat} (hbound : bound ≤ next) (t : Tree)
    (p : Place) : ((t.renumber next).1.occurrences p).filter (·.id < bound) = [] := by
  rw [List.filter_eq_nil_iff]
  intro o ho
  have hnew := (extends_renumber t next).mem_iff.1 (id_mem_ids ho)
  simp only [List.not_mem_nil, false_or] at hnew
  rw [decide_eq_true_iff]
  exact Nat.not_lt.2 (Nat.le_trans hbound hnew.1)

/-- The leaves of the inverted tree that were there before ask what they asked, and each is
complemented the other way. -/
theorem occurrences_invertNode {bound next : Nat} (hbound : bound ≤ next) {t : Tree}
    (hids : ∀ x ∈ t.ids, x < bound) (alternate : Option Tree) (p : Place) :
    List.Forall₂ (Occurrence.Agrees true) (t.occurrences p)
      (((t.invertNode alternate next).1.occurrences p).filter (·.id < bound)) := by
  have hnegate : ∀ p, List.Forall₂ (Occurrence.Agrees true) (t.occurrences p)
      (((t.negate next).1.occurrences p).filter (·.id < bound)) := by
    intro p
    have hagree := (negates_negate t next).occurrences p
    rwa [List.filter_eq_self.2]
    intro o' ho'
    obtain ⟨o, ho, hoo'⟩ := Occurrence.Agrees.exists_of_mem hagree ho'
    rw [decide_eq_true_iff, hoo'.id_eq]
    exact hids _ (id_mem_ids ho)
  cases alternate with
  | none => exact hnegate p
  | some root =>
      have hle : next ≤ (t.negate next).2 := (negates_negate t next).extends_ids.le
      rw [invertNode_some, occurrences_group, List.filter_append,
        filter_occurrences_renumber (Nat.le_trans hbound hle), List.nil_append]
      -- the new group around says nothing, so the leaves stand in it as they stand at `p`
      have hinside : ∀ top, List.Forall₂ (Occurrence.Agrees false) (t.occurrences p)
          (t.occurrences (p.inside top .plain)) := by
        intro top
        have hscope : (p.inside top .plain).scope = p.scope := Attributes.scope_plain p.scope
        exact occurrences_agree hscope rfl t
      exact Occurrence.Agrees.forall₂_trans (hinside _) (hnegate _)

end SearchQuery.Tree
