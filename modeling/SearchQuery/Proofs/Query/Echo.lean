import SearchQuery.Proofs.Query.Grammar
import SearchQuery.Proofs.Query.Numbers
import SearchQuery.Proofs.Query.Questions

/-!
# What is heard of a tree

`Tree.echo` is the tree that the text of a tree is read as, but for the numbers. A negation that
is said not to be is not written; a group around a single clause of which no parentheses are
written leaves its marks to the clause; and where both have a mark of one kind, the one that is
written last counts.

Two signs in a row are the only marks of which one says something that the other does not. So a
text says what the tree says unless a sign `-` is overwritten, `Tree.overwritesSign`.
-/

namespace SearchQuery

namespace Negation

def heard : Negation → Negation
  | negated => negated
  | _ => unspecified

theorem isNegated_heard (n : Negation) : n.heard.isNegated = n.isNegated := by
  cases n <;> rfl

theorem heard_of_not_isNegated {n : Negation} (h : n.isNegated = false) :
    n.heard = unspecified := by
  cases n with
  | negated => simp [isNegated] at h
  | _ => rfl

end Negation

namespace Attributes

def heard (a : Attributes) : Attributes :=
  { a with negation := a.negation.heard }

/-- The attributes that are read where the marks of a node stand next to those of a group around
it. Signs are written in front of the node, modifiers behind it. -/
def around (outer inner : Attributes) : Attributes :=
  { inner with
    sign := inner.sign.or outer.sign
    negation := outer.negation.heard.merge inner.negation
    boost := outer.boost.or inner.boost
    proximity := outer.proximity.or inner.proximity }

theorem complements_heard (a : Attributes) : a.heard.complements = a.complements := by
  rw [complements, complements, heard, Negation.isNegated_heard]

theorem scope_heard (a : Attributes) (inherited : Option String) :
    a.heard.scope inherited = a.scope inherited :=
  scope_congr rfl inherited

theorem complements_of_silent {a : Attributes} (ha : a.Silent) : a.complements = false := by
  rw [complements, ha.negation, ha.sign]
  rfl

theorem around_of_silent {a : Attributes} (ha : a.Silent) (b : Attributes) : a.around b = b := by
  rw [around, ha.sign, ha.boost, ha.proximity, Negation.heard_of_not_isNegated ha.negation]
  simp

/-- Whether the sign `-` of a group is overwritten by that of a node whose marks are written next
to those of the group. -/
def signOverwritten (outer inner : Attributes) : Bool :=
  outer.sign = some .mustNot && inner.sign.isSome

theorem signOverwritten_heard (a b : Attributes) :
    a.signOverwritten b.heard = a.signOverwritten b := rfl

def besides (outer inner : Attributes) : Attributes :=
  if outer.signOverwritten inner then { outer with sign := none } else outer

theorem besides_of_not_signOverwritten {outer inner : Attributes}
    (h : outer.signOverwritten inner = false) : outer.besides inner = outer := by
  rw [besides, h]
  rfl

theorem field_besides (outer inner : Attributes) : (outer.besides inner).field = outer.field := by
  rw [besides]
  split <;> rfl

theorem complements_besides (outer inner : Attributes) :
    (outer.besides inner).complements = (outer.complements ^^ outer.signOverwritten inner) := by
  rw [besides]
  cases h : outer.signOverwritten inner with
  | false => exact (Bool.xor_false _).symm
  | true =>
      simp only [signOverwritten, Bool.and_eq_true, decide_eq_true_eq] at h
      simp [complements, h.1]

theorem complements_around (a b : Attributes) :
    (a.around b).complements = ((a.complements ^^ b.complements) ^^ a.signOverwritten b) := by
  have hsign : decide (b.sign.or a.sign = some .mustNot) =
      ((decide (a.sign = some .mustNot) ^^ decide (b.sign = some .mustNot)) ^^
        a.signOverwritten b) := by
    rw [signOverwritten]
    rcases a.sign with - | - | - <;> rcases b.sign with - | - | - <;> rfl
  have haround : (a.around b).complements =
      ((a.negation.heard.merge b.negation).isNegated ^^
        decide (b.sign.or a.sign = some .mustNot)) := rfl
  rw [haround, hsign, Negation.isNegated_merge, Negation.isNegated_heard, complements, complements]
  generalize a.negation.isNegated = x, b.negation.isNegated = y, a.signOverwritten b = z
  generalize decide (a.sign = some .mustNot) = x', decide (b.sign = some .mustNot) = y'
  revert x y z x' y'
  decide

end Attributes

namespace Tree

def echo : Tree → Tree
  | nil => nil
  | leaf id a l => leaf id a.heard l
  | group id a g l r =>
      if g.parens then
        group id a.heard ⟨if r.isNil then .default else g.operator, true⟩ l.echo r.echo
      else if r.isNil then l.echo.withAttrs (a.around l.echo.attrs)
      else group id .plain ⟨g.operator, false⟩ l.echo r.echo

/-- Whether somewhere the sign `-` of a group is written directly before another sign. -/
def overwritesSign : Tree → Bool
  | nil => false
  | leaf .. => false
  | group _ a g l r =>
      (!g.parens && r.isNil && a.signOverwritten l.attrs) || l.overwritesSign || r.overwritesSign

def withoutOverwritten : Tree → Tree
  | nil => nil
  | leaf id a l => leaf id a l
  | group id a g l r =>
      group id (if !g.parens && r.isNil then a.besides l.attrs else a) g l.withoutOverwritten
        r.withoutOverwritten

theorem withoutOverwritten_group {g : Group} {r : Tree} (h : (!g.parens && r.isNil) = false)
    (id : NodeId) (a : Attributes) (l : Tree) :
    (group id a g l r).withoutOverwritten =
      group id a g l.withoutOverwritten r.withoutOverwritten := by
  rw [withoutOverwritten, h]
  rfl

theorem withoutOverwritten_eq_self {t : Tree} (h : t.overwritesSign = false) :
    t.withoutOverwritten = t := by
  induction t with
  | nil => rfl
  | leaf => rfl
  | group id a g l r ihl ihr =>
      simp only [overwritesSign, Bool.or_eq_false_iff] at h
      rw [withoutOverwritten, ihl h.1.2, ihr h.2]
      split
      · next hwritten =>
          rw [Attributes.besides_of_not_signOverwritten]
          simpa [hwritten] using h.1.1
      · rfl

/-- Whether the leaves from left to right are complemented, in a place that is complemented or
not. -/
def polarities (complemented : Bool) : Tree → List Bool
  | nil => []
  | leaf _ a _ => [complemented ^^ a.complements]
  | group _ a _ l r =>
      l.polarities (complemented ^^ a.complements) ++ r.polarities (complemented ^^ a.complements)

theorem polarities_group_nil (id : NodeId) (a : Attributes) (g : Group) (l : Tree) (c : Bool) :
    (group id a g l nil).polarities c = l.polarities (c ^^ a.complements) :=
  List.append_nil _

theorem polarities_leaf (id : NodeId) (a : Attributes) (l : Leaf) (c : Bool) :
    (leaf id a l).polarities c = [c ^^ a.complements] := rfl

/-- Whether the leaves are complemented is part of what is listed of them. -/
theorem map_complemented_occurrences (t : Tree) (p : Place) :
    (t.occurrences p).map (·.complemented) = t.polarities p.complemented := by
  induction t generalizing p with
  | nil => rfl
  | leaf => rfl
  | group id a g l r ihl ihr =>
      rw [occurrences_group, List.map_append, ihl, ihr]
      rfl

theorem echo_leaf (id : NodeId) (a : Attributes) (l : Leaf) :
    (leaf id a l).echo = leaf id a.heard l := rfl

theorem echo_of_parens {g : Group} (hparens : g.parens = true) (id : NodeId) (a : Attributes)
    (l r : Tree) :
    (group id a g l r).echo =
      group id a.heard ⟨if r.isNil then .default else g.operator, true⟩ l.echo r.echo := by
  rw [echo, if_pos hparens]

theorem echo_of_marked {g : Group} (hparens : g.parens = false) (id : NodeId) (a : Attributes)
    (l : Tree) : (group id a g l nil).echo = l.echo.withAttrs (a.around l.echo.attrs) := by
  rw [echo, if_neg (by simp [hparens]), if_pos (show nil.isNil = true from rfl)]

/-- A group of which nothing is written leaves no trace. -/
theorem echo_of_silent {a : Attributes} {g : Group} (ha : a.Silent) (hparens : g.parens = false)
    (id : NodeId) (l : Tree) : (group id a g l nil).echo = l.echo := by
  rw [echo_of_marked hparens, Attributes.around_of_silent ha]
  cases l.echo <;> rfl

theorem echo_of_link {g : Group} (hparens : g.parens = false) {r : Tree} (hr : r.isNil = false)
    (id : NodeId) (a : Attributes) (l : Tree) :
    (group id a g l r).echo = group id .plain ⟨g.operator, false⟩ l.echo r.echo := by
  rw [echo, if_neg (by simp [hparens]), if_neg (by simp [hr])]

def Part.All (motive : Tree → Prop) : Part → Tree → Prop
  | clause, t => motive t
  | rest, t => motive t
  | body, group _ _ _ l r => motive l ∧ motive r
  | body, _ => True

namespace Spells

theorem induction_clauses {motive : Tree → Prop} (nil : motive .nil)
    (leaf : ∀ id a l, motive (.leaf id a l))
    (group : ∀ id a g l r, g.parens = true → motive l → motive r → motive (.group id a g l r))
    (marked : ∀ id a g leafId b l, g.parens = false → a.field = none →
      motive (.group id a g (.leaf leafId b l) .nil))
    (silent : ∀ id a g l, g.parens = false → a.Silent → motive l → motive (.group id a g l .nil))
    (link : ∀ id a g l r, g.parens = false → a.Silent → r.isNil = false → motive l → motive r →
      motive (.group id a g l r))
    {part : Part} {t : Tree} {tokens : List Token} (h : Spells part t tokens) :
    part.All motive t := by
  induction h with
  | leaf => exact leaf _ _ _
  | group hparens _ _ _ ih => exact group _ _ _ _ _ hparens ih.1 ih.2
  | marked hparens _ hfield => exact marked _ _ _ _ _ _ hparens hfield
  | silent hparens ha _ ih => exact silent _ _ _ _ hparens ha ih
  | last _ ih => exact ih
  | link hparens ha _ hr ihl ihr =>
      exact link _ _ _ _ _ hparens ha (hr.isNil_eq_false (by decide)) ihl ihr
  | empty => exact ⟨nil, nil⟩
  | single _ ih => exact ⟨ih, nil⟩
  | pair _ _ ihl ihr => exact ⟨ihl, ihr⟩

end Spells

variable {part : Part} {t : Tree} {tokens : List Token}

/-- What is heard of a tree says what the tree says without the signs that are overwritten. -/
theorem all_reading_echo (h : Spells part t tokens) (i : Interpretation) :
    part.All (fun t => ∀ inherited,
      t.echo.reading i inherited = t.withoutOverwritten.reading i inherited) t := by
  refine h.induction_clauses ?nil ?leaf ?group ?marked ?silent ?link
  case nil => exact fun _ => rfl
  case leaf =>
    intro id a l inherited
    rw [echo_leaf, withoutOverwritten, reading_leaf, reading_leaf, Attributes.complements_heard]
    rfl
  case group =>
    intro id a g l r hparens ihl ihr inherited
    rw [echo_of_parens hparens, withoutOverwritten_group (by simp [hparens]), reading_group,
      reading_group, Attributes.complements_heard, Attributes.scope_heard, ihl, ihr]
    cases r with
    | nil => rw [withoutOverwritten, reading_nil, Option.merge_none_right, Option.merge_none_right]
    | leaf => rfl
    | group => rfl
  case marked =>
    intro id a g leafId b l hparens hfield inherited
    have hscope := (a.field_besides b).trans hfield
    rw [echo_of_marked hparens, echo_leaf, withAttrs, attrs, withoutOverwritten,
      if_pos (by simp [hparens, isNil]), withoutOverwritten, withoutOverwritten, reading_leaf,
      reading_group_nil, reading_leaf, attrs, Attributes.scope_of_field_eq_none hscope,
      Attributes.complements_around, Attributes.complements_heard,
      Attributes.signOverwritten_heard, Attributes.complements_besides, Option.map_some,
      ← Bool.xor_assoc, Bool.xor_right_comm a.complements]
    rfl
  case silent =>
    intro id a g l hparens ha ih inherited
    have hkept : a.signOverwritten l.attrs = false := by
      simp [Attributes.signOverwritten, ha.sign]
    rw [echo_of_silent ha hparens, withoutOverwritten, withoutOverwritten,
      Attributes.besides_of_not_signOverwritten hkept, ite_self, reading_group_nil,
      Attributes.complements_of_silent ha, Attributes.scope_of_field_eq_none ha.field,
      map_false_xor, ih]
  case link =>
    intro id a g l r hparens ha hr ihl ihr inherited
    rw [echo_of_link hparens hr, withoutOverwritten_group (by simp [hr]), reading_group,
      reading_group, Attributes.complements_of_silent ha, Attributes.complements_plain,
      Attributes.scope_of_field_eq_none ha.field, Attributes.scope_plain, ihl, ihr]

/-- The lists of both sides of a group are equal exactly if those of each side are. -/
theorem append_eq_append_iff {xs xs' ys ys' : List Bool} (h : xs.length = xs'.length) :
    xs ++ ys = xs' ++ ys' ↔ xs = xs' ∧ ys = ys' :=
  ⟨fun heq => List.append_inj heq h, fun heq => by rw [heq.1, heq.2]⟩

/-- What is heard of a tree complements the leaves that the tree complements without the signs that
are overwritten. -/
theorem all_polarities_echo (h : Spells part t tokens) :
    part.All (fun t => ∀ c, t.echo.polarities c = t.withoutOverwritten.polarities c) t := by
  refine h.induction_clauses ?nil ?leaf ?group ?marked ?silent ?link
  case nil => exact fun _ => rfl
  case leaf =>
    intro id a l c
    rw [echo_leaf, withoutOverwritten, polarities, polarities, Attributes.complements_heard]
  case group =>
    intro id a g l r hparens ihl ihr c
    rw [echo_of_parens hparens, withoutOverwritten_group (by simp [hparens]), polarities,
      polarities, Attributes.complements_heard, ihl, ihr]
  case marked =>
    intro id a g leafId b l hparens hfield c
    rw [echo_of_marked hparens, echo_leaf, withAttrs, attrs, withoutOverwritten,
      if_pos (by simp [hparens, isNil]), withoutOverwritten, withoutOverwritten, attrs,
      polarities_group_nil, polarities_leaf, polarities_leaf, Attributes.complements_around,
      Attributes.complements_heard, Attributes.signOverwritten_heard,
      Attributes.complements_besides, Bool.xor_assoc c, Bool.xor_right_comm a.complements]
  case silent =>
    intro id a g l hparens ha ih c
    have hkept : a.signOverwritten l.attrs = false := by
      simp [Attributes.signOverwritten, ha.sign]
    rw [echo_of_silent ha hparens, withoutOverwritten, withoutOverwritten,
      Attributes.besides_of_not_signOverwritten hkept, ite_self, polarities_group_nil,
      Attributes.complements_of_silent ha, Bool.xor_false, ih]
  case link =>
    intro id a g l r hparens ha hr ihl ihr c
    rw [echo_of_link hparens hr, withoutOverwritten_group (by simp [hr]), polarities, polarities,
      Attributes.complements_of_silent ha, Attributes.complements_plain, ihl, ihr]

theorem length_polarities_withoutOverwritten (t : Tree) (c c' : Bool) :
    (t.withoutOverwritten.polarities c).length = (t.polarities c').length := by
  induction t generalizing c c' with
  | nil => rfl
  | leaf => rfl
  | group id a g l r ihl ihr =>
      rw [withoutOverwritten, polarities, polarities, List.length_append, List.length_append]
      congr 1
      · exact ihl _ _
      · exact ihr _ _

/-- Each sign that is overwritten stands on a leaf, and the leaf is complemented the other way
without it. -/
theorem all_polarities_withoutOverwritten (h : Spells part t tokens) :
    part.All (fun t => ∀ c, t.withoutOverwritten.polarities c = t.polarities c ↔
      t.overwritesSign = false) t := by
  refine h.induction_clauses ?nil ?leaf ?group ?marked ?silent ?link
  case nil => exact fun _ => iff_of_true rfl rfl
  case leaf => exact fun _ _ _ _ => iff_of_true rfl rfl
  case group =>
    intro id a g l r hparens ihl ihr c
    have hsign : (group id a g l r).overwritesSign = (l.overwritesSign || r.overwritesSign) := by
      simp [overwritesSign, hparens]
    rw [withoutOverwritten_group (by simp [hparens]), polarities, polarities,
      append_eq_append_iff (length_polarities_withoutOverwritten l _ _), ihl, ihr, hsign,
      Bool.or_eq_false_iff]
  case marked =>
    intro id a g leafId b l hparens hfield c
    have hsign : (group id a g (leaf leafId b l) nil).overwritesSign = a.signOverwritten b := by
      simp [overwritesSign, hparens, isNil, attrs]
    rw [withoutOverwritten, if_pos (by simp [hparens, isNil]), withoutOverwritten,
      withoutOverwritten, attrs, polarities_group_nil, polarities_group_nil, polarities_leaf,
      polarities_leaf, Attributes.complements_besides, hsign]
    cases a.signOverwritten b <;> cases c <;> cases a.complements <;>
      cases b.complements <;> decide
  case silent =>
    intro id a g l hparens ha ih c
    have hkept : a.signOverwritten l.attrs = false := by
      simp [Attributes.signOverwritten, ha.sign]
    have hsign : (group id a g l nil).overwritesSign = l.overwritesSign := by
      simp [overwritesSign, hkept]
    rw [withoutOverwritten, withoutOverwritten, Attributes.besides_of_not_signOverwritten hkept,
      ite_self, polarities_group_nil, polarities_group_nil, ih, hsign]
  case link =>
    intro id a g l r hparens ha hr ihl ihr c
    have hsign : (group id a g l r).overwritesSign = (l.overwritesSign || r.overwritesSign) := by
      simp [overwritesSign, hr]
    rw [withoutOverwritten_group (by simp [hr]), polarities, polarities,
      append_eq_append_iff (length_polarities_withoutOverwritten l _ _), ihl, ihr, hsign,
      Bool.or_eq_false_iff]

/-- Signs that are overwritten ask nothing. -/
theorem questions_withoutOverwritten (t : Tree) {p p' : Place} (h : p'.scope = p.scope) :
    t.withoutOverwritten.questions p' = t.questions p := by
  induction t generalizing p p' with
  | nil => rfl
  | leaf id a l =>
      rw [withoutOverwritten, questions, questions, occurrences_leaf, occurrences_leaf, h]
      rfl
  | group id a g l r ihl ihr =>
      have hinside : ∀ a' : Attributes, a'.field = a.field →
          (p'.inside id a').scope = (p.inside id a).scope := by
        intro a' hfield
        simp only [Place.inside, h, Attributes.scope_congr hfield]
      rw [withoutOverwritten, questions_group, questions_group]
      split
      · rw [ihl (hinside _ (a.field_besides _)), ihr (hinside _ (a.field_besides _))]
      · rw [ihl (hinside _ rfl), ihr (hinside _ rfl)]

end Tree

end SearchQuery
