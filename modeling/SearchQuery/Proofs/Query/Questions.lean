import Mathlib.Data.List.Nodup
import Mathlib.Logic.Function.Basic
import SearchQuery.Proofs.Query.Occurrence

/-!
# Queries that ask nothing twice

If no two leaves of a query ask the same about the same field, then each of them matters. The other
questions can be answered such that the query says what the leaf says, `Tree.canFollow`; and
however they are answered, it never says the contrary, `Tree.reading_update`. So queries that ask
the same questions and always have the same reading complement the same leaves,
`Tree.polarities_eq_of_reading_eq`.
-/

namespace SearchQuery

abbrev Question := Leaf × String

def Occurrence.question (o : Occurrence) : Question :=
  (o.leaf, o.field)

def Interpretation.answering (holds : Question → Bool) : Interpretation :=
  ⟨(· && ·), fun l field => holds (l, field)⟩

namespace Operator

/-- The truth value that leaves the other side of a group as it is. -/
def neutral : Operator → Bool
  | or => false
  | _ => true

variable (holds : Question → Bool) (operator : Operator) (x : Bool)

theorem combine_neutral : operator.combine (.answering holds) x operator.neutral = x := by
  cases operator with
  | default | and => exact Bool.and_true x
  | or => exact Bool.or_false x

theorem merge_neutral {y : Option Bool} (hy : y = none ∨ y = some operator.neutral) :
    (some x).merge (operator.combine (.answering holds)) y = some x := by
  rcases hy with rfl | rfl
  · exact Option.merge_none_right
  · rw [Option.merge_some_some, combine_neutral]

theorem combine_comm (y : Bool) :
    operator.combine (.answering holds) x y = operator.combine (.answering holds) y x := by
  cases operator with
  | default | and => exact Bool.and_comm x y
  | or => exact Bool.or_comm x y

theorem combine_of_ne_neutral {y : Bool} (hy : y ≠ operator.neutral) :
    operator.combine (.answering holds) x y = y := by
  cases operator with
  | default | and =>
      obtain rfl : y = false := by simpa [neutral] using hy
      exact Bool.and_false x
  | or =>
      obtain rfl : y = true := by simpa [neutral] using hy
      exact Bool.or_true x

theorem combine_answering (holds' : Question → Bool) :
    operator.combine (.answering holds) = operator.combine (.answering holds') := by
  cases operator <;> rfl

end Operator

namespace Tree

def questions (p : Place) (t : Tree) : List Question :=
  (t.occurrences p).map (·.question)

variable {t : Tree} {p : Place} {holds holds' : Question → Bool} {q : Question} {o : Occurrence}

theorem questions_group (p : Place) (id : NodeId) (a : Attributes) (g : Group) (l r : Tree) :
    (group id a g l r).questions p = l.questions (p.inside id a) ++ r.questions (p.inside id a) := by
  rw [questions, occurrences_group, List.map_append]
  rfl

theorem question_mem_questions (h : o ∈ t.occurrences p) : o.question ∈ t.questions p :=
  List.mem_map_of_mem h

theorem reading_congr (h : ∀ q ∈ t.questions p, holds q = holds' q) :
    t.reading (.answering holds) p.scope = t.reading (.answering holds') p.scope := by
  induction t generalizing p with
  | nil => rfl
  | leaf id a l =>
      have hanswer := h (l, a.searched p.scope) (by simp [questions, occurrences, Occurrence.question])
      rw [reading_leaf, reading_leaf]
      exact congrArg (fun b => some (a.complements ^^ b)) hanswer
  | group id a g l r ihl ihr =>
      rw [questions_group] at h
      have hl := ihl fun q hq => h q (List.mem_append_left _ hq)
      have hr := ihr fun q hq => h q (List.mem_append_right _ hq)
      rw [reading_group, reading_group, g.operator.combine_answering holds holds']
      exact congrArg _ (congrArg₂ _ hl hr)

theorem reading_update_of_notMem (h : q ∉ t.questions p) (holds : Question → Bool) (b : Bool) :
    t.reading (.answering (Function.update holds q b)) p.scope =
      t.reading (.answering holds) p.scope :=
  reading_congr fun q' hq' =>
    Function.update_of_ne (fun heq : q' = q => h (heq ▸ hq')) _ _

/-- A group reads as its sides do, in whichever order they are taken. -/
theorem reading_group_answering (holds holds' : Question → Bool) (inherited : Option String)
    (id : NodeId) (a : Attributes) (g : Group) (l r : Tree) :
    (group id a g l r).reading (.answering holds) inherited =
      ((l.reading (.answering holds) (a.scope inherited)).merge
        (g.operator.combine (.answering holds'))
        (r.reading (.answering holds) (a.scope inherited))).map (a.complements ^^ ·) ∧
    (group id a g l r).reading (.answering holds) inherited =
      ((r.reading (.answering holds) (a.scope inherited)).merge
        (g.operator.combine (.answering holds'))
        (l.reading (.answering holds) (a.scope inherited))).map (a.complements ^^ ·) := by
  rw [reading_group, g.operator.combine_answering holds holds']
  refine ⟨rfl, congrArg _ ?_⟩
  cases l.reading (.answering holds) (a.scope inherited) with
  | none => rw [Option.merge_none_left, Option.merge_none_right]
  | some x =>
      cases r.reading (.answering holds) (a.scope inherited) with
      | none => rw [Option.merge_none_left, Option.merge_none_right]
      | some y => exact congrArg some (g.operator.combine_comm holds' x y)

/-- Whether values that depend on an answer are those of the answer, the other way if `flipped`, or
do not depend on it after all. -/
def Follows (flipped : Bool) (value : Bool → Option Bool) : Prop :=
  (∃ x, ∀ b, value b = x) ∨ ∀ b, value b = some (b ^^ flipped)

theorem map_xor_some (b flipped complements : Bool) :
    (some (b ^^ flipped)).map (complements ^^ ·) = some (b ^^ (flipped ^^ complements)) := by
  rw [Option.map_some, Bool.xor_comm complements, Bool.xor_assoc]

theorem Follows.group {flipped complements : Bool} {value value' : Bool → Option Bool}
    {operator : Operator} {y : Option Bool} (h : Follows flipped value)
    (hgroup : ∀ b, value' b =
      ((value b).merge (operator.combine (.answering holds)) y).map (complements ^^ ·)) :
    Follows (flipped ^^ complements) value' := by
  rcases h with ⟨x, hx⟩ | hvalue
  · exact .inl ⟨_, fun b => by rw [hgroup, hx]⟩
  · by_cases hy : y = none ∨ y = some operator.neutral
    · refine .inr fun b => ?_
      rw [hgroup, hvalue, operator.merge_neutral holds _ hy, map_xor_some]
    · obtain ⟨y, rfl⟩ := Option.ne_none_iff_exists'.1 fun hnone => hy (.inl hnone)
      have hne : y ≠ operator.neutral := fun heq => hy (.inr (congrArg some heq))
      refine .inl ⟨some (complements ^^ y), fun b => ?_⟩
      rw [hgroup, hvalue, Option.merge_some_some, operator.combine_of_ne_neutral holds _ hne,
        Option.map_some]

theorem complemented_inside (p : Place) (id : NodeId) (a : Attributes) (x : Bool) :
    ((x ^^ (p.inside id a).complemented) ^^ a.complements) = (x ^^ p.complemented) := by
  simp only [Place.inside, Bool.xor_assoc, Bool.xor_self, Bool.xor_false]

theorem reading_leaf_update (p : Place) (id : NodeId) (a : Attributes) (l : Leaf)
    (holds : Question → Bool) (b : Bool) :
    (leaf id a l).reading (.answering (Function.update holds (l, a.searched p.scope) b)) p.scope =
      some (b ^^ ((p.complemented ^^ a.complements) ^^ p.complemented)) := by
  have hanswer : Function.update holds (l, a.searched p.scope) b (l, a.searched p.scope) = b :=
    Function.update_self ..
  have hcomplement : ((p.complemented ^^ a.complements) ^^ p.complemented) = a.complements := by
    rw [Bool.xor_right_comm, Bool.xor_self, Bool.false_xor]
  rw [reading_leaf, hcomplement, Bool.xor_comm b]
  exact congrArg (fun x => some (a.complements ^^ x)) hanswer

/-- Where a question is asked once, a query follows the leaf that asks it, if anything. -/
theorem reading_update (hnodup : (t.questions p).Nodup) (ho : o ∈ t.occurrences p)
    (holds : Question → Bool) :
    Follows (o.complemented ^^ p.complemented) fun b =>
      t.reading (.answering (Function.update holds o.question b)) p.scope := by
  induction t generalizing p with
  | nil => simp at ho
  | leaf id a l =>
      obtain rfl : o = _ := by simpa [occurrences_leaf] using ho
      exact .inr fun b => reading_leaf_update p id a l holds b
  | group id a g l r ihl ihr =>
      rw [questions_group, List.nodup_append] at hnodup
      obtain ⟨hl, hr, hdisjoint⟩ := hnodup
      have hsides := fun b => reading_group_answering (Function.update holds o.question b) holds
        p.scope id a g l r
      rw [← complemented_inside p id a]
      rw [occurrences_group, List.mem_append] at ho
      rcases ho with ho | ho
      · have hsibling := reading_update_of_notMem
          (fun hq => hdisjoint _ (question_mem_questions ho) _ hq rfl) holds
        exact (ihl hl ho).group fun b => (hsibling b) ▸ (hsides b).1
      · have hsibling := reading_update_of_notMem
          (fun hq => hdisjoint _ hq _ (question_mem_questions ho) rfl) holds
        exact (ihr hr ho).group fun b => (hsibling b) ▸ (hsides b).2

/-- Trees that ask nothing of each other can be answered apart. -/
theorem exists_answers {t' : Tree} {p' : Place}
    (hdisjoint : ∀ q ∈ t.questions p, q ∉ t'.questions p') (holds holds' : Question → Bool) :
    ∃ both : Question → Bool, (∀ q ∈ t.questions p, both q = holds q) ∧
      ∀ q ∈ t'.questions p', both q = holds' q :=
  ⟨fun q => if q ∈ t.questions p then holds q else holds' q, fun _ hq => if_pos hq,
    fun _ hq => if_neg fun hq' => hdisjoint _ hq' hq⟩

theorem reading_eq_none (h : t.occurrences p = []) (i : Interpretation) :
    t.reading i p.scope = none := by
  induction t generalizing p with
  | nil => rfl
  | leaf => simp [occurrences_leaf] at h
  | group id a g l r ihl ihr =>
      rw [occurrences_group, List.append_eq_nil_iff] at h
      rw [reading_group]
      have hl : l.reading i (a.scope p.scope) = none := ihl h.1
      have hr : r.reading i (a.scope p.scope) = none := ihr h.2
      rw [hl, hr, Option.merge_none_left]
      rfl

def CanFollow (p : Place) (t : Tree) (o : Occurrence) : Prop :=
  ∃ holds : Question → Bool, ∀ b,
    t.reading (.answering (Function.update holds o.question b)) p.scope =
      some (b ^^ (o.complemented ^^ p.complemented))

theorem exists_reading (h : ∀ o ∈ t.occurrences p, CanFollow p t o) (x : Bool) :
    ∃ holds : Question → Bool, t.reading (.answering holds) p.scope = none ∨
      t.reading (.answering holds) p.scope = some x := by
  cases hos : t.occurrences p with
  | nil => exact ⟨fun _ => false, .inl (reading_eq_none hos _)⟩
  | cons o os =>
      obtain ⟨holds, hholds⟩ := h o (by simp [hos])
      refine ⟨_, .inr ((hholds (x ^^ (o.complemented ^^ p.complemented))).trans ?_)⟩
      rw [Bool.xor_assoc, Bool.xor_self, Bool.xor_false]

theorem CanFollow.group {t' : Tree} {p' : Place} (h : CanFollow p t o)
    (ho : o ∈ t.occurrences p) (hdisjoint : ∀ q ∈ t.questions p, q ∉ t'.questions p')
    (h' : ∀ o ∈ t'.occurrences p', CanFollow p' t' o) (operator : Operator) (complements : Bool) :
    ∃ holds : Question → Bool, ∀ b,
      ((t.reading (.answering (Function.update holds o.question b)) p.scope).merge
        (operator.combine (.answering holds))
        (t'.reading (.answering (Function.update holds o.question b)) p'.scope)).map
          (complements ^^ ·) = some (b ^^ ((o.complemented ^^ p.complemented) ^^ complements)) := by
  obtain ⟨holds, hholds⟩ := h
  obtain ⟨holds', hholds'⟩ := exists_reading h' operator.neutral
  obtain ⟨both, hboth, hboth'⟩ := exists_answers hdisjoint holds holds'
  refine ⟨both, fun b => ?_⟩
  have hside : t.reading (.answering (Function.update both o.question b)) p.scope =
      some (b ^^ (o.complemented ^^ p.complemented)) := by
    rw [← hholds]
    refine reading_congr fun q hq => ?_
    by_cases heq : q = o.question
    · rw [heq, Function.update_self, Function.update_self]
    · rw [Function.update_of_ne heq, Function.update_of_ne heq, hboth q hq]
  have hsibling : t'.reading (.answering (Function.update both o.question b)) p'.scope =
      t'.reading (.answering holds') p'.scope :=
    (reading_update_of_notMem (hdisjoint _ (question_mem_questions ho)) both b).trans
      (reading_congr hboth')
  rw [hside, hsibling, operator.merge_neutral both _ hholds', map_xor_some]

/-- Where no question is asked twice, every leaf can be followed. -/
theorem canFollow (hnodup : (t.questions p).Nodup) (ho : o ∈ t.occurrences p) :
    CanFollow p t o := by
  induction t generalizing p o with
  | nil => simp at ho
  | leaf id a l =>
      obtain rfl : o = _ := by simpa [occurrences_leaf] using ho
      exact ⟨fun _ => false, reading_leaf_update p id a l _⟩
  | group id a g l r ihl ihr =>
      rw [questions_group, List.nodup_append] at hnodup
      obtain ⟨hl, hr, hdisjoint⟩ := hnodup
      have hfollow := fun {o} => ihl (o := o) hl
      have hfollow' := fun {o} => ihr (o := o) hr
      rw [occurrences_group, List.mem_append] at ho
      rw [CanFollow, ← complemented_inside p id a]
      rcases ho with ho | ho
      · obtain ⟨holds, hholds⟩ := (hfollow ho).group ho
          (fun q hq hq' => hdisjoint q hq q hq' rfl) (fun o ho => hfollow' ho) g.operator
          a.complements
        exact ⟨holds, fun b => (reading_group_answering _ holds p.scope id a g l r).1.trans
          (hholds b)⟩
      · obtain ⟨holds, hholds⟩ := (hfollow' ho).group ho
          (fun q hq hq' => hdisjoint q hq' q hq rfl) (fun o ho => hfollow ho) g.operator
          a.complements
        exact ⟨holds, fun b => (reading_group_answering _ holds p.scope id a g l r).2.trans
          (hholds b)⟩

/-- Leaves that ask the same in queries with the same reading are complemented alike. -/
theorem complemented_eq_of_reading_eq {t' : Tree} {o' : Occurrence} (hnodup : (t.questions p).Nodup)
    (hnodup' : (t'.questions p).Nodup) (ho : o ∈ t.occurrences p) (ho' : o' ∈ t'.occurrences p)
    (hask : o'.question = o.question)
    (h : ∀ i, t'.reading i p.scope = t.reading i p.scope) :
    o'.complemented = o.complemented := by
  obtain ⟨holds, hholds⟩ := canFollow hnodup ho
  have hreading : ∀ b, t'.reading (.answering (Function.update holds o.question b)) p.scope =
      some (b ^^ (o.complemented ^^ p.complemented)) := fun b => (h _).trans (hholds b)
  rcases reading_update hnodup' ho' holds with ⟨x, hx⟩ | hfollows
  · have hfalse := (hreading false).symm.trans (hask ▸ hx false)
    have htrue := (hreading true).symm.trans (hask ▸ hx true)
    simpa using hfalse.trans htrue.symm
  · have hfalse := (hask ▸ hfollows false).symm.trans (hreading false)
    simpa using hfalse

theorem map_complemented_eq_of_forall {os os' : List Occurrence}
    (hask : os'.map (·.question) = os.map (·.question))
    (h : ∀ o ∈ os, ∀ o' ∈ os', o'.question = o.question → o'.complemented = o.complemented) :
    os'.map (·.complemented) = os.map (·.complemented) := by
  induction os generalizing os' with
  | nil =>
      rw [List.map_nil, List.map_eq_nil_iff] at hask
      rw [hask]
  | cons o os ih =>
      obtain ⟨o', os', rfl, hfirst, hrest⟩ := List.map_eq_cons_iff.1 hask
      rw [List.map_cons, List.map_cons, h o (by simp) o' (by simp) hfirst,
        ih hrest fun o ho o' ho' => h o (.tail _ ho) o' (.tail _ ho')]

/-- Queries that ask the same questions once each and always have the same reading complement the
same leaves. -/
theorem polarities_eq_of_reading_eq {t' : Tree} (hnodup : (t.questions p).Nodup)
    (hask : t'.questions p = t.questions p)
    (h : ∀ i, t'.reading i p.scope = t.reading i p.scope) :
    (t'.occurrences p).map (·.complemented) = (t.occurrences p).map (·.complemented) := by
  refine map_complemented_eq_of_forall hask fun o ho o' ho' hquestion => ?_
  exact complemented_eq_of_reading_eq hnodup (hask ▸ hnodup) ho ho' hquestion h

end Tree

end SearchQuery
