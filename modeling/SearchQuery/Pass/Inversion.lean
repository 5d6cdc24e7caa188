import SearchQuery.Query.Walk
import SearchQuery.Store.View

/-!
# Complements

`Store.invert` turns a query into one that matches what the query does not, as far as fields that
are not protected go. A group that asks about no protected field is negated as a whole, and one
that asks about nothing else stays; in any other group each clause is looked at on its own.
Clauses side by side are taken to be joined by "and".

Negating something negated takes the negation away. Where there are alternate criteria, each
negated part becomes `(criteria OR part)`.

`Tree.invert` says what comes of a tree. Nodes that are made there are numbered from `next` on; the
second part of each result is the first number not used.
-/

namespace SearchQuery

/-- How the fields that a tree asks about and the protected fields meet. -/
inductive Coverage
  /-- Only protected fields, or none at all. -/
  | kept
  /-- No protected field. -/
  | invertible
  | mixed
  deriving Repr, DecidableEq

namespace Tree

def coverage (kept : List String) (inherited : Option String) (t : Tree) : Coverage :=
  let fields := (t.referencedFields inherited).names
  let protectedCount := fields.countP (kept.contains ·)
  if protectedCount = fields.length then .kept
  else if protectedCount = 0 then .invertible
  else .mixed

def negate (next : NodeId) : Tree → Tree × NodeId
  | nil => (nil, next)
  | leaf id a l =>
      if a.negation.isNegated then (leaf id { a with negation := .notNegated } l, next)
      else if a.sign = some .mustNot then (leaf id { a with sign := none } l, next)
      else
        (group next .plain ⟨.default, true⟩ (leaf id { a with negation := .negated } l) nil,
          next + 1)
  | group id a g l r =>
      if a.negation.isNegated then (group id { a with negation := .notNegated } g l r, next)
      else if a.sign = some .mustNot then (group id { a with sign := none } g l r, next)
      else if a.fieldName?.isSome || g.parens then
        (group id { a with negation := .negated } { g with parens := true } l r, next)
      else
        match l, r with
        | l, nil =>
            let (l, next) := l.negate next
            (group id a g l nil, next)
        | nil, r =>
            let (r, next) := r.negate next
            (group id a g nil r, next)
        | l, r =>
            let inner := group next { Attributes.plain with negation := .negated }
              ⟨g.operator, true⟩ l r
            (group id a { g with operator := .default } inner nil, next + 1)

/-- The criteria as they stand beside an inverted part: a root with a single clause is unwrapped,
and any other gets parentheses. -/
def criteria : Tree → Tree
  | group id a g l r =>
      if a.field.isNone && !a.negation.isExplicit && !l.isNil && r.isNil then l
      else group id a { g with parens := true } l r
  | t => t

def invertNode (alternate : Option Tree) (next : NodeId) (t : Tree) : Tree × NodeId :=
  let (inverted, next) := t.negate next
  match alternate with
  | none => (inverted, next)
  | some root =>
      let (copied, next) := root.criteria.renumber next
      (group next .plain ⟨.or, true⟩ copied inverted, next + 1)

/-- Whether a leaf asks about a protected field. -/
def isKept (kept : List String) (inherited : Option String) (a : Attributes) : Bool :=
  kept.contains ((a.fieldName?.or inherited).getD "")

/-- The clauses in a slot inverted. Link groups are opened; `inherited` is the field in scope. -/
def invertClauses (kept : List String) (alternate : Option Tree) (inherited : Option String)
    (next : NodeId) : Tree → Tree × NodeId
  | nil => (nil, next)
  | leaf id a l =>
      if isKept kept inherited a then (leaf id a l, next)
      else (leaf id a l).invertNode alternate next
  | group id a g l r =>
      match g.isLink a, (group id a g l r).coverage kept inherited with
      | false, .kept => (group id a g l r, next)
      | false, .invertible => (group id a g l r).invertNode alternate next
      | _, _ =>
          let scope := a.fieldName?.or inherited
          let (l, next) := l.invertClauses kept alternate scope next
          let (r, next) := r.invertClauses kept alternate scope next
          (group id a g l r, next)

/-- The group inverted, as far as its fields are not protected. -/
def invert (kept : List String) (alternate : Option Tree) (next : NodeId) (t : Tree) :
    Tree × NodeId :=
  match t, t.coverage kept none with
  | group id a g l r, .mixed =>
      let (l, next) := l.invertClauses kept alternate a.fieldName? next
      let (r, next) := r.invertClauses kept alternate a.fieldName? next
      (group id a g l r, next)
  | t, .invertible => t.invertNode alternate next
  | t, _ => (t, next)

def loneClause? : Tree → Option Tree
  | group _ a _ l r =>
      if a.field.isNone && !a.negation.isExplicit && !l.isNil && r.isNil then some l else none
  | _ => none

end Tree

namespace Store

/-- Negates a node, and gives back the node that stands in its place. Where a group says nothing of
its own, the only node in it is negated instead. The way down there is cut off at a depth. -/
def negateTo (s : Store) : Nat → NodeId → NodeId × Store
  | 0, id => (id, s)
  | depth + 1, id =>
      let a := s.attrs id
      if a.negation.isNegated then (id, s.modifyAttrs id ({ · with negation := .notNegated }))
      else if a.sign = some .mustNot then (id, s.modifyAttrs id ({ · with sign := none }))
      else match s.node? id with
        | some ⟨_, .leaf _, _⟩ =>
            let wrapper := s.next
            let s := (s.add .plain (.group ⟨.default, true⟩ none none)).wrap id wrapper
            (wrapper, s.modifyAttrs id ({ · with negation := .negated }))
        | some ⟨_, .group form left right, _⟩ =>
            if a.fieldName?.isSome || form.parens then
              let s := s.modifyForm id ({ · with parens := true })
              (id, s.modifyAttrs id ({ · with negation := .negated }))
            else
              match left, right with
              | none, none => (id, s)
              | some only, none | none, some only => (id, (s.negateTo depth only).2)
              | some left, some right =>
                  let inner := s.next
                  let s := s.modifyForm id ({ · with operator := .default })
                  let s := s.add { Attributes.plain with negation := .negated }
                    (.group ⟨form.operator, true⟩ none none)
                  let s := (s.setLeft inner (some left)).setRight inner (some right)
                  (id, s.setLeft id (some inner))
        | none => (id, s)

def negate (s : Store) (id : NodeId) : NodeId × Store :=
  s.negateTo s.next id

/-- Adds a copy of the criteria, in parentheses unless it is a single clause, and gives back its
top. -/
def implantCriteria (s : Store) (criteria : Tree) : Option NodeId × Store :=
  match criteria.loneClause? with
  | some clause => s.implant clause
  | none =>
      let (top, s) := s.implant criteria
      (top, top.elim s (s.modifyForm · ({ · with parens := true })))

def invertNode (s : Store) (alternate : Option Tree) (id : NodeId) : NodeId × Store :=
  let (inverted, s) := s.negate id
  match alternate with
  | none => (inverted, s)
  | some root =>
      let (criteria, s) := s.implantCriteria root
      let wrapper := s.next
      let s := (s.add .plain (.group ⟨.or, true⟩ none none)).replaceSelf inverted wrapper
      (wrapper, (s.setLeft wrapper criteria).setRight wrapper (some inverted))

/-- Inverts a group, where `inherited` is the field in scope, and gives back the node that stands in
its place. The way down is cut off at a depth. -/
def invertTo (kept : List String) (alternate : Option Tree) :
    Nat → Option String → NodeId → Store → NodeId × Store
  | 0, _, id, s => (id, s)
  | depth + 1, inherited, id, s =>
      match (s.view id).coverage kept inherited with
      | .kept => (id, s)
      | .invertible => s.invertNode alternate id
      | .mixed =>
          let scope := (s.attrs id).fieldName?.or inherited
          let invertClause (s : Store) (clause : NodeId) : Store :=
            if s.isGroup clause then (invertTo kept alternate depth scope clause s).2
            else if Tree.isKept kept scope (s.attrs clause) then s
            else (s.invertNode alternate clause).2
          (id, (s.sequence id).foldl invertClause s)

/-- Inverts a group, as far as its fields are not protected. -/
def invert (s : Store) (kept : List String) (alternate : Option Tree) (id : NodeId) :
    NodeId × Store :=
  invertTo kept alternate s.next none id s

end Store

end SearchQuery
