import SearchQuery.Store.Rewriter

/-!
# Tidying up

`Rewriter.cleanup` brings a query into a simpler form that means the same. What is in a group is
tidied before the group itself is settled:

* an empty group goes, unless it is the root;
* a clause that is alone in a group stands on the left;
* a group that is alone in a group, has no field and no modifiers is absorbed, and the negations of
  the two are merged;
* parentheses around one leaf go, and with them the group when it is neither negated nor the root
  and its modifiers fit on the leaf;
* a link group with one leaf goes.

Of these rules the first three are all that a group with a field is subject to. A group is settled in
steps, one rule after another, until none applies; `Tree.cleanup` says what comes of a tree.
-/

namespace SearchQuery

namespace Attributes

/-- Whether the sign, boost and proximity of a group can go onto the node in it: none is set on
both. -/
def fitsOnto (outer inner : Attributes) : Bool :=
  (outer.sign.isNone || inner.sign.isNone) && (outer.boost.isNone || inner.boost.isNone) &&
    (outer.proximity.isNone || inner.proximity.isNone)

/-- The attributes of a node that takes the place of the group around it. -/
def takeOver (outer inner : Attributes) : Attributes :=
  { inner with
    sign := inner.sign.or outer.sign
    boost := inner.boost.or outer.boost
    proximity := inner.proximity.or outer.proximity
    negation := outer.negation.merge inner.negation }

/-- A negated group and a node in it that says something of its negation: the group takes all of
it, and the node says nothing any more. -/
def foldNegation (outer inner : Attributes) : Attributes × Attributes :=
  if outer.negation.isNegated && inner.negation.isExplicit then
    ({ outer with negation := outer.negation.merge inner.negation },
      { inner with negation := .unspecified })
  else (outer, inner)

end Attributes

namespace Tree

def settleLeaf (isRoot : Bool) (id : NodeId) (attrs : Attributes) (form : Group)
    (leafId : NodeId) (leafAttrs : Attributes) (l : Leaf) : Tree :=
  if attrs.field.isSome then .group id attrs form (.leaf leafId leafAttrs l) .nil
  else
    let (outer, inner) := attrs.foldNegation leafAttrs
    if form.parens && (outer.negation.isNegated || isRoot) then
      .group id outer { form with parens := false } (.leaf leafId inner l) .nil
    else if form.parens && !outer.fitsOnto inner then
      .group id outer form (.leaf leafId inner l) .nil
    else if form.parens || (form.isLink outer && !isRoot) then
      .leaf leafId (outer.takeOver inner) l
    else .group id outer form (.leaf leafId inner l) .nil

def absorbedForm (isRoot : Bool) (negation : Negation) (outer inner : Group) : Group :=
  ⟨inner.operator, outer.parens || (inner.parens && (!isRoot || negation.isNegated))⟩

def settleOne (isRoot : Bool) (id : NodeId) (attrs : Attributes) (form : Group) : Tree → Tree
  | .nil => if isRoot then .group id attrs form .nil .nil else .nil
  | .leaf leafId leafAttrs l => settleLeaf isRoot id attrs form leafId leafAttrs l
  | .group innerId innerAttrs innerForm l r =>
      if innerAttrs.field.isSome || innerAttrs.hasModifiers then
        .group id attrs form (.group innerId innerAttrs innerForm l r) .nil
      else
        let negation := attrs.negation.merge innerAttrs.negation
        let attrs := { attrs with negation := negation }
        let form := absorbedForm isRoot negation form innerForm
        match l, r with
        | l, .nil => settleOne isRoot id attrs form l
        | .nil, r => settleOne isRoot id attrs form r
        | l, r => .group id attrs form l r

def settle (isRoot : Bool) (id : NodeId) (attrs : Attributes) (form : Group) (l r : Tree) : Tree :=
  match l, r with
  | l, .nil => settleOne isRoot id attrs form l
  | .nil, r => settleOne isRoot id attrs form r
  | l, r => .group id attrs form l r

def cleanup (isRoot : Bool) : Tree → Tree
  | nil => nil
  | leaf id a l => leaf id a l
  | group id a g l r => settle isRoot id a g (l.cleanup false) (r.cleanup false)

end Tree

inductive Settling
  /-- No rule applies. -/
  | settled
  | changed (s : Store)
  /-- Another node stands for the group, or its former parent if nothing does. -/
  | moved (top : NodeId) (s : Store)

namespace Store

/-- Takes a group out of another one that it is alone in. What it holds comes in its place. -/
def absorb (s : Store) (id : NodeId) (negation : Negation) (form : Group)
    (left right : Option NodeId) : Store :=
  let s := ((s.setLeft id none).setLeft id left).setRight id right
  (s.modifyAttrs id ({ · with negation := negation })).modifyForm id fun _ => form

def collapse (s : Store) (id child : NodeId) : Store :=
  let outer := s.attrs id
  let s := s.modifyAttrs id ({ · with sign := none, boost := none, proximity := none })
  (s.modifyAttrs child outer.takeOver).replaceSelf id child

def settleLeaf (s : Store) (id : NodeId) (attrs : Attributes) (form : Group) (child : NodeId)
    (inner : Attributes) : Settling :=
  if attrs.field.isSome then .settled
  else if attrs.negation.isNegated && inner.negation.isExplicit then
    let s := s.modifyAttrs child ({ · with negation := .unspecified })
    .changed (s.modifyAttrs id ({ · with negation := attrs.negation.merge inner.negation }))
  else if form.parens then
    if attrs.negation.isNegated || s.isRoot id then
      .changed (s.modifyForm id ({ · with parens := false }))
    else if attrs.fitsOnto inner then .moved child (s.collapse id child)
    else .settled
  else if s.isLink id then .moved child (s.collapse id child)
  else .settled

def settleOne (s : Store) (id : NodeId) (attrs : Attributes) (form : Group) (child : NodeId) :
    Settling :=
  match s.node? child with
  | some ⟨inner, .group innerForm left right, _⟩ =>
      if inner.field.isSome || inner.hasModifiers then .settled
      else
        let negation := attrs.negation.merge inner.negation
        let form := Tree.absorbedForm (s.isRoot id) negation form innerForm
        .changed (s.absorb id negation form left right)
  | some ⟨inner, .leaf _, _⟩ => s.settleLeaf id attrs form child inner
  | none => .settled

def settleStep (s : Store) (id : NodeId) : Settling :=
  match s.node? id with
  | some ⟨attrs, .group form left right, parent⟩ =>
      match left, right with
      | none, none =>
          if s.isRoot id then .settled else .moved (parent.getD id) (s.removeSelf id)
      | none, some right => .changed (s.setLeft id (some right))
      | some child, none => s.settleOne id attrs form child
      | some _, some _ => .settled
  | _ => .settled

def settleTo (s : Store) : Nat → NodeId → NodeId × Store
  | 0, id => (id, s)
  | steps + 1, id =>
      match s.settleStep id with
      | .settled => (id, s)
      | .changed s => s.settleTo steps id
      | .moved top s => (top, s)

/-- All steps for a group. There are fewer than six for each node, and five more. -/
def settle (s : Store) (id : NodeId) : NodeId × Store :=
  s.settleTo (6 * s.next + 5) id

end Store

def Rewriter.cleanup : Rewriter Store where
  store s := s
  enter _ s := (none, s)
  leave id s := s.settle id

end SearchQuery
