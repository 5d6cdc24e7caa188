import Mathlib.Data.List.Induction
import SearchQuery.Proofs.Query.Building
import SearchQuery.Proofs.Query.Counting
import SearchQuery.Proofs.Query.Pieces

/-!
# What is built from a derivation

From the tokens of a derivation the reader builds the tree that the derivation describes,
`Grammar.Derivation.derives`. The clauses of a list come out of their chain of link groups as they
went in, each joined by its operator, `Tree.clausesOf_chain` and `Tree.joins_chain`.
-/

namespace SearchQuery

namespace Tree

variable {root : NodeId}

/-- Leaves and groups in parentheses are clauses themselves. -/
theorem clausesOf_of_isPrimary {t : Tree} (h : t.isPrimary = true) (pending : List Tree) :
    clausesOf root (t :: pending) = t :: clausesOf root pending := by
  cases t with
  | nil => cases h
  | leaf id a l => rw [clausesOf]
  | group id a g l r =>
      have hparens : g.parens = true := h
      rw [clausesOf, if_neg]
      simp [Group.isLink, hparens]

theorem clausesOf_nil (pending : List Tree) :
    clausesOf root (nil :: pending) = clausesOf root pending := by
  rw [clausesOf]

/-- The clauses of a sequence are found behind its link groups, which have other numbers than the
root. -/
theorem clausesOf_chain {clauses : List (Operator × Tree)} {next : Nat}
    (h : ∀ c ∈ clauses, c.2.isPrimary = true) (hroot : root < next) (pending : List Tree) :
    clausesOf root ((chain clauses next).1.2.1 :: (chain clauses next).1.2.2 :: pending) =
      clauses.map (·.2) ++ clausesOf root pending := by
  induction clauses, next using chain.induct with
  | case1 next => rw [chain, clausesOf_nil, clausesOf_nil]; rfl
  | case2 before only next =>
      have honly : only.isPrimary = true := h (before, only) (by simp)
      rw [chain]
      dsimp only
      rw [clausesOf_of_isPrimary honly, clausesOf_nil]
      rfl
  | case3 before first operator second next =>
      have hfirst : first.isPrimary = true := h (before, first) (by simp)
      have hsecond : second.isPrimary = true := h (operator, second) (by simp)
      rw [chain]
      dsimp only
      rw [clausesOf_of_isPrimary hfirst, clausesOf_of_isPrimary hsecond]
      rfl
  | case4 before first operator second third rest next inner l r after hinner ih =>
      have hfirst : first.isPrimary = true := h (before, first) (by simp)
      have hrest := ih (fun c hc => h c (.tail _ hc)) (Nat.lt_succ_of_lt hroot)
      rw [hinner] at hrest
      have hlink : clausesOf root (group next .plain ⟨inner, false⟩ l r :: pending) =
          clausesOf root (l :: r :: pending) := by
        rw [clausesOf, if_pos]
        simp [Group.isLink, Attributes.plain, Negation.isExplicit, Attributes.hasModifiers,
          Nat.ne_of_gt hroot]
      rw [chain, hinner]
      dsimp only
      rw [clausesOf_of_isPrimary hfirst, hlink, hrest]
      rfl

theorem attrs_withAttrs {t : Tree} (h : t.isPrimary = true) (a : Attributes) :
    (t.withAttrs a).attrs = a := by
  cases t with
  | nil => cases h
  | leaf => rfl
  | group => rfl

theorem joins_nil (t : Tree) (clauses : List Tree) : t.Joins clauses [] := by
  intro i clause operator _ hoperator
  simp at hoperator

theorem Joins.cons {clauses : List Tree} {operators : List Operator} {r : Tree}
    (h : r.Joins clauses operators) (id : NodeId) (a : Attributes) (g : Group) (clause : Tree) :
    (group id a g clause r).Joins (clause :: clauses) (g.operator :: operators) := by
  intro i c operator hc hoperator
  cases i with
  | zero =>
      obtain rfl := Option.some.inj hc
      obtain rfl := Option.some.inj hoperator
      exact ⟨id, a, g, r, rfl, rfl⟩
  | succ i => exact h i c operator hc hoperator

theorem Joins.withAttrs {clauses : List Tree} {operators : List Operator} {t : Tree}
    (h : t.Joins clauses operators) (b : Attributes) : (t.withAttrs b).Joins clauses operators := by
  intro i clause operator hclause hoperator
  obtain ⟨id, a, g, r, hfollow, hg⟩ := h i clause operator hclause hoperator
  cases i with
  | zero =>
      obtain rfl : t = group id a g clause r := hfollow
      exact ⟨id, b, g, r, rfl, hg⟩
  | succ i =>
      refine ⟨id, a, g, r, ?_, hg⟩
      rw [← hfollow]
      cases t <;> rfl

theorem joins_chain (clauses : List (Operator × Tree)) (next id : NodeId) (a : Attributes)
    (parens : Bool) :
    (group id a ⟨(chain clauses next).1.1, parens⟩ (chain clauses next).1.2.1
      (chain clauses next).1.2.2).Joins (clauses.map (·.2)) (clauses.map (·.1)).tail := by
  induction clauses, next using chain.induct generalizing id a parens with
  | case1 => exact joins_nil _ _
  | case2 => exact joins_nil _ _
  | case3 before first operator second next =>
      exact (joins_nil second [second]).cons id a ⟨operator, parens⟩ first
  | case4 before first operator second third rest next inner l r after hinner ih =>
      have hrest := ih next .plain false
      rw [hinner] at hrest
      rw [chain, hinner]
      exact hrest.cons id a ⟨operator, parens⟩ first

end Tree

namespace Grammar

variable {root : NodeId}

def Mark.apply (a : Attributes) : Mark → Attributes
  | plus => { a with sign := some .must }
  | minus => { a with sign := some .mustNot }
  | not => { a with negation := a.negation.merge .negated }

def Modifier.apply (a : Attributes) : Modifier → Attributes
  | boost value => { a with boost := some value }
  | proximity value => { a with proximity := some value }

theorem Mark.negation_append_not (marks : List Mark) :
    negation (marks ++ [not]) = (negation marks).merge .negated := by
  rw [negation, negation, List.count_append, List.count_singleton_self,
    if_neg (Nat.succ_ne_zero _)]
  generalize marks.count not = count
  rcases Nat.mod_two_eq_zero_or_one count with heven | hodd
  · have hnext : (count + 1) % 2 = 1 := by omega
    have hcount : ¬ count % 2 = 1 := by omega
    rw [if_pos hnext, if_neg hcount]
    split <;> rfl
  · have hnext : ¬ (count + 1) % 2 = 1 := by omega
    have hcount : ¬ count = 0 := by omega
    rw [if_neg hnext, if_neg hcount, if_pos hodd]
    rfl

/-- Of all marks the last sign counts, and the negations are counted. -/
theorem Mark.foldl_apply (marks : List Mark) :
    marks.foldl apply .plain =
      { Attributes.plain with sign := sign marks, negation := negation marks } := by
  induction marks using List.reverseRecOn with
  | nil => rfl
  | append_singleton marks mark ih =>
      rw [List.foldl_concat, ih]
      cases mark with
      | plus => simp [apply, sign, negation, sign?]
      | minus => simp [apply, sign, negation, sign?]
      | not => simp [apply, sign, sign?, negation_append_not]

theorem Modifier.foldl_apply (modifiers : List Modifier) (a : Attributes) :
    modifiers.foldl apply a =
      { a with
        boost := (modifiers.filterMap boost?).getLast?.or a.boost
        proximity := (modifiers.filterMap proximity?).getLast?.or a.proximity } := by
  induction modifiers using List.reverseRecOn with
  | nil => rfl
  | append_singleton modifiers modifier ih =>
      rw [List.foldl_concat, ih]
      cases modifier with
      | boost value => simp [apply, boost?, proximity?]
      | proximity value => simp [apply, boost?, proximity?]

theorem Contains.withAttrs {field : Option String} {v : Derivation .value} {t : Tree}
    (h : Contains root field v t) {b : Attributes} (hb : b.field = t.attrs.field) :
    Contains root field v (t.withAttrs b) := by
  cases h with
  | group hfield hparens hclauses hjoins =>
      exact .group (hb.trans hfield) hparens hclauses (hjoins.withAttrs b)
  | term hfield hexists hmissing => exact .term (hb.trans hfield) hexists hmissing
  | fieldExists hfield => exact .fieldExists (hb.trans hfield)
  | fieldMissing hfield => exact .fieldMissing (hb.trans hfield)
  | quoted hfield => exact .quoted (hb.trans hfield)
  | pattern hfield => exact .pattern (hb.trans hfield)
  | range hfield => exact .range (hb.trans hfield)

theorem lists_ofClauses {cs : Derivation .clauses} {clauses : List (Operator × Tree)}
    (hclauses : List.Forall₂ (Describes root) cs.list (clauses.map (·.2)))
    (hoperators : (clauses.map (·.1)).tail = cs.operators)
    (hprimary : ∀ c ∈ clauses, c.2.isPrimary = true) {next : Nat} (hroot : root < next)
    (id : NodeId) (a : Attributes) (parens : Bool) :
    Lists root cs (Tree.ofClauses id a parens clauses next).1 := by
  have hlist : (Tree.ofClauses id a parens clauses next).1.clauses root = clauses.map (·.2) := by
    refine (Tree.clausesOf_chain hprimary hroot []).trans ?_
    rw [Tree.clausesOf, List.append_nil]
  refine ⟨?_, ?_⟩
  · rw [hlist]
    exact hclauses
  · rw [hlist, ← hoperators]
    exact Tree.joins_chain clauses next id a parens

end Grammar

namespace Reader

variable {r : Reader} {m : Attributes}

open Grammar

theorem reads_marks (h : r.Expects m) (marks : List Mark) :
    ∃ mode, Reads r (marks.map Mark.token) { r with mode := mode } ∧
      ({ r with mode := mode } : Reader).Expects (marks.foldl Mark.apply m) := by
  induction marks generalizing r m with
  | nil => exact ⟨r.mode, .nil r, h⟩
  | cons mark marks ih =>
      have hstep : r.step mark.token = .ok { r with mode := .marked (mark.apply m) } := by
        cases mark with
        | plus => exact step_of_expects h (by decide)
        | minus => exact step_of_expects h (by decide)
        | not => exact step_of_expects h (by decide)
      obtain ⟨mode, hreads, hexpects⟩ :=
        ih (r := { r with mode := .marked (mark.apply m) }) (.inl rfl)
      exact ⟨mode, .cons hstep hreads, hexpects⟩

theorem reads_modifiers {clause : Tree} (h : r.mode = .modifiers clause)
    (modifiers : List Modifier) :
    Reads r (modifiers.map Modifier.token)
      { r with
        mode := .modifiers (clause.withAttrs (modifiers.foldl Modifier.apply clause.attrs)) } := by
  induction modifiers generalizing r clause with
  | nil =>
      obtain ⟨mode, group, outer, next⟩ := r
      obtain rfl : mode = .modifiers clause := h
      rw [List.foldl_nil, clause.withAttrs_attrs]
      exact .nil _
  | cons modifier modifiers ih =>
      have hstep : r.step modifier.token =
          .ok { r with mode := .modifiers (clause.withAttrs (modifier.apply clause.attrs)) } := by
        obtain ⟨mode, group, outer, next⟩ := r
        obtain rfl : mode = .modifiers clause := h
        cases modifier <;> rfl
      have hwith : (clause.withAttrs (modifier.apply clause.attrs)).withAttrs
          (modifiers.foldl Modifier.apply (clause.withAttrs (modifier.apply clause.attrs)).attrs) =
          clause.withAttrs (modifiers.foldl Modifier.apply (modifier.apply clause.attrs)) :=
        Tree.withAttrs_withAttrs clause (fun a => modifier.apply a) fun a =>
          modifiers.foldl Modifier.apply a
      exact .cons hstep (hwith ▸ ih rfl)

/-- The tree contains what the value stands for, and is written as the value is, whatever else is
said of it. -/
structure Holds (field : Option String) (v : Derivation .value) (clause : Tree) : Prop where
  isPrimary : clause.isPrimary = true
  contains : Contains 0 field v clause
  pieces_eq : ∀ b : Attributes, b.field = clause.attrs.field → (clause.withAttrs b).pieces =
    b.openingPieces ++ (({ b with field := field } : Attributes).fieldPieces ++
      (v.pieces ++ b.closingPieces))

/-- The clauses, each with the operator before it, are what a list stands for. The operators that
count are those of the list, and the clauses are written as the list is. -/
structure Gathers {s : Symbol} (cs : Derivation s) (operators : List Operator) (pieces : List Piece)
    (clauses : List (Operator × Tree)) : Prop where
  isPrimary : ∀ c ∈ clauses, c.2.isPrimary = true
  operators_eq : operators = cs.operators
  pieces_eq : pieces = cs.pieces
  describes : List.Forall₂ (Describes 0) cs.list (clauses.map (·.2))

/-- What the reader builds from the tokens of a derivation. From those of a value, where a clause
has begun, it builds a clause that contains what the value stands for, and from those of a clause
the clause; from those of a list the clauses of the list, behind those that are there. -/
def Derives : {s : Symbol} → Derivation s → Prop
  | .value, v =>
      ∀ (r : Reader) m field, r.Expects m → m.field = none → 0 < r.next →
        ∃ clause next, Reads r ((field.map Token.field).toList ++ v.tokens)
            { r with mode := .modifiers clause, next := next } ∧
          r.next ≤ next ∧ clause.attrs = { m with field := clause.attrs.field } ∧
          Holds field v clause
  | .clause, c =>
      Begins c.tokens ∧ ∀ r : Reader, r.mode = .between → 0 < r.next →
        ∃ clause next, Reads r c.tokens { r with mode := .modifiers clause, next := next } ∧
          r.next ≤ next ∧ clause.isPrimary = true ∧ clause.pieces = c.pieces ∧ Describes 0 c clause
  | .rest, cs =>
      ∀ r : Reader, r.settled.mode = .between → r.settled.group.clauses ≠ [] →
        r.settled.group.operator = .default → 0 < r.next →
        ∃ clauses next r', Reads r cs.tokens r' ∧
          r'.settled = { r.settled with
            group := { r.settled.group with
              clauses := clauses.reverse ++ r.settled.group.clauses }, next := next } ∧
          r.next ≤ next ∧ Gathers cs (clauses.map (·.1)) (Tree.following clauses) clauses
  | .clauses, cs =>
      ∀ r : Reader, r.mode = .between → r.group.clauses = [] → r.group.operator = .default →
        0 < r.next →
        ∃ clauses next r', Reads r cs.tokens r' ∧
          r'.settled = { r with
            group := { r.group with clauses := clauses.reverse }, next := next } ∧
          r.next ≤ next ∧ Gathers cs (clauses.map (·.1)).tail (Tree.joined clauses) clauses

theorem Begins.marks {tokens : List Token} (h : Begins tokens) (marks : List Mark) :
    Begins (marks.map Mark.token ++ tokens) := by
  cases marks with
  | nil => exact h
  | cons mark marks => exact ⟨mark.token, _, rfl, by cases mark <;> rfl⟩

theorem begins_value (field : Option String) (v : Derivation .value) (tokens : List Token) :
    Begins ((field.map Token.field).toList ++ (v.tokens ++ tokens)) := by
  cases field with
  | some name => exact ⟨_, _, rfl, rfl⟩
  | none =>
      cases v with
      | range fromMin => exact ⟨_, _, rfl, by cases fromMin <;> rfl⟩
      | _ => exact ⟨_, _, rfl, rfl⟩

theorem derives_clause {v : Derivation .value} (h : Derives v) (marks : List Mark)
    (field : Option String) (modifiers : List Modifier) :
    Derives (.clause marks field v modifiers) := by
  refine ⟨(begins_value field v _).marks marks, fun r hr hnext => ?_⟩
  obtain ⟨mode, hmarks, hexpects⟩ := reads_marks (.inr ⟨hr, rfl⟩) marks
  rw [Mark.foldl_apply] at hexpects
  obtain ⟨clause, next, hvalue, hle, hattrs, hprimary, hcontains, hpieces⟩ :=
    h { r with mode := mode } _ field hexpects rfl hnext
  have hmodifiers :=
    reads_modifiers (r := ⟨.modifiers clause, r.group, r.outer, next⟩) rfl modifiers
  have hreads := hmarks.append (hvalue.append hmodifiers)
  rw [List.append_assoc] at hreads
  have hattrs' := Tree.attrs_withAttrs hprimary (modifiers.foldl Modifier.apply clause.attrs)
  have hsaid := Modifier.foldl_apply modifiers clause.attrs
  have hboost : clause.attrs.boost = none := by rw [hattrs]; rfl
  have hproximity : clause.attrs.proximity = none := by rw [hattrs]; rfl
  rw [hsaid, hboost, hproximity, Option.or_none, Option.or_none] at hattrs'
  refine ⟨_, next, hreads, hle, (Tree.isPrimary_withAttrs _ _).trans hprimary, ?_⟩
  rw [hsaid, hboost, hproximity, Option.or_none, Option.or_none]
  refine ⟨?_, .clause ?_ ?_ ?_ ?_ (hcontains.withAttrs rfl)⟩
  · refine (hpieces _ ?_).trans ?_
    · rfl
    · rw [hattrs]
      rfl
  · rw [hattrs', hattrs]
  · rw [hattrs', hattrs]
  · rw [hattrs']
  · rw [hattrs']

theorem derives_done : Derives .done := by
  intro r hmode hclauses hoperator hnext
  exact ⟨[], r.settled.next, r, .nil r, rfl, Nat.le_of_eq (next_settled r).symm, by simp, rfl, rfl,
    .nil⟩

theorem derives_next {c : Derivation .clause} {more : Derivation .rest} (hc : Derives c)
    (hmore : Derives more) (operator : Operator) : Derives (.next operator c more) := by
  intro r hmode hclauses hoperator hnext
  obtain ⟨hbegins, hclause⟩ := hc
  obtain ⟨clause, next, hreads, hle, hprimary, hpieces, hdescribes⟩ :=
    hclause { r.settled with group := { r.settled.group with operator := operator } } hmode
      (by rwa [next_settled])
  obtain ⟨r', hreads', hsettled⟩ := reads_next hmode hclauses hoperator operator hbegins hreads
  have hle' : r.next ≤ r'.next := by
    rw [← next_settled r, ← next_settled r', hsettled]
    exact hle
  obtain ⟨clauses, next', r'', hreads'', hsettled', hle'', hgathers⟩ := hmore r'
    (by rw [hsettled]; exact hmode) (by rw [hsettled]; simp) (by rw [hsettled]; exact hoperator)
    (Nat.lt_of_lt_of_le hnext hle')
  refine ⟨(operator, clause) :: clauses, next', r'', ?_, ?_, Nat.le_trans hle' hle'', ?_, ?_, ?_,
    ?_⟩
  · have hboth := hreads'.append hreads''
    rwa [List.append_assoc] at hboth
  · rw [hsettled', hsettled]
    simp
  · intro c hc
    rcases List.mem_cons.1 hc with rfl | hc
    · exact hprimary
    · exact hgathers.isPrimary c hc
  · exact congrArg (operator :: ·) hgathers.operators_eq
  · rw [Derivation.pieces, ← hpieces, ← hgathers.pieces_eq]
    simp [Tree.following]
  · exact .cons hdescribes hgathers.describes

theorem derives_nothing : Derives .nothing := by
  intro r hmode hclauses hoperator hnext
  refine ⟨[], r.next, r, .nil r, ?_, Nat.le_refl _, by simp, rfl, rfl, .nil⟩
  rw [settled_of_between hmode, List.reverse_nil, ← hclauses]

theorem derives_first {c : Derivation .clause} {more : Derivation .rest} (hc : Derives c)
    (hmore : Derives more) : Derives (.first c more) := by
  intro r hmode hclauses hoperator hnext
  obtain ⟨clause, next, hreads, hle, hprimary, hpieces, hdescribes⟩ := hc.2 r hmode hnext
  have hsettled : ({ r with mode := .modifiers clause, next := next } : Reader).settled =
      { r with group := { r.group with clauses := [(.default, clause)] }, next := next } := by
    dsimp only [settled, endClause, Frame.push]
    rw [hclauses, hoperator, hmode]
  obtain ⟨clauses, next', r', hreads', hsettled', hle', hgathers⟩ :=
    hmore { r with mode := .modifiers clause, next := next }
      (by rw [hsettled]; exact hmode) (by rw [hsettled]; simp) (by rw [hsettled]; exact hoperator)
      (Nat.lt_of_lt_of_le hnext hle)
  refine ⟨(.default, clause) :: clauses, next', r', hreads.append hreads', ?_,
    Nat.le_trans hle hle', ?_, hgathers.operators_eq, ?_, .cons hdescribes hgathers.describes⟩
  · rw [hsettled', hsettled]
    simp
  · intro c hc
    rcases List.mem_cons.1 hc with rfl | hc
    · exact hprimary
    · exact hgathers.isPrimary c hc
  · rw [Tree.joined, hpieces, hgathers.pieces_eq, Derivation.pieces]

theorem derives_group {cs : Derivation .clauses} (h : Derives cs) : Derives (.group cs) := by
  intro r m field hexpects hm hnext
  have hopen : Reads r ((field.map Token.field).toList ++ [.leftParen])
      (r.openGroup { m with field := field }) :=
    reads_value (a := { Attributes.plain with field := field }) hexpects hm (by simp)
      (fun _ _ => rfl) (fun _ _ _ _ => rfl) (fun _ _ => rfl)
  obtain ⟨clauses, next, r', hbody, hsettled, hle, hgathers⟩ :=
    h (r.openGroup { m with field := field }) rfl rfl rfl hnext
  have houter : r'.settled.outer = r.group :: r.outer := by rw [hsettled]; rfl
  have hclose := step_rightParen (by rw [hsettled]; rfl) (by rw [hsettled]; rfl) houter
  rw [hsettled] at hclose
  dsimp only at hclose
  rw [List.reverse_reverse] at hclose
  have hreads := hopen.append (hbody.append (.one hclose))
  rw [List.append_assoc] at hreads
  have hnumbers := (Tree.extends_ofClauses { m with field := field } true clauses next).le
  obtain ⟨hclauses, hjoins⟩ := lists_ofClauses hgathers.describes hgathers.operators_eq
    hgathers.isPrimary (Nat.lt_succ_of_lt (Nat.lt_of_lt_of_le hnext hle)) next
    { m with field := field } true
  refine ⟨_, _, hreads, Nat.le_trans hle hnumbers, rfl, rfl, .group rfl rfl hclauses hjoins,
    fun b hb => ?_⟩
  obtain rfl : b.field = field := hb
  have hpieces := Tree.pieces_ofClauses hgathers.isPrimary next b true (next + 1)
  rw [hgathers.pieces_eq] at hpieces
  refine hpieces.trans ?_
  simp [Derivation.pieces]

theorem derives_readLeaf {v : Derivation .value} {leaf : Leaf}
    (hreads : ∀ (r : Reader) m field, r.Expects m → m.field = none →
      Reads r ((field.map Token.field).toList ++ v.tokens)
        (r.readLeaf { m with field := field } leaf))
    (h : ∀ field id a, a.field = field → Contains 0 field v (.leaf id a leaf))
    (hpieces : ∀ a, leaf.pieces a = a.fieldPieces ++ v.pieces) : Derives v := by
  intro r m field hexpects hm hnext
  refine ⟨_, _, hreads r m field hexpects hm, Nat.le_succ _, rfl, rfl, h field _ _ rfl,
    fun b hb => ?_⟩
  obtain rfl : b.field = field := hb
  simp only [Tree.withAttrs, Tree.pieces, hpieces, List.append_assoc]

theorem derives_quoted (text : String) : Derives (.quoted text) :=
  derives_readLeaf (fun _ _ field hexpects hm =>
    reads_value (a := { Attributes.plain with field := field }) hexpects hm (by simp)
      (fun _ _ => rfl) (fun _ _ _ _ => rfl) (fun _ _ => rfl)) (fun _ _ _ => .quoted) fun _ => rfl

theorem derives_pattern (text : String) : Derives (.pattern text) :=
  derives_readLeaf (fun _ _ field hexpects hm =>
    reads_value (a := { Attributes.plain with field := field }) hexpects hm (by simp)
      (fun _ _ => rfl) (fun _ _ _ _ => rfl) (fun _ _ => rfl)) (fun _ _ _ => .pattern) fun _ => rfl

theorem derives_range (fromMin : Bool) (min max : Bound) (toMax : Bool) :
    Derives (.range fromMin min max toMax) := by
  refine derives_readLeaf (fun r m field hexpects hm => ?_) (fun _ _ _ => .range) fun _ => rfl
  have hopen : Reads r ((field.map Token.field).toList ++
      [if fromMin then .leftBracket else .leftBrace])
      { r with mode := .lowerBound ⟨{ m with field := field }, fromMin⟩ } := by
    cases fromMin <;>
      exact reads_value (a := { Attributes.plain with field := field }) hexpects hm (by simp)
        (fun _ _ => rfl) (fun _ _ _ _ => rfl) (fun _ _ => rfl)
  have hbounds : ({ r with mode := .lowerBound ⟨{ m with field := field }, fromMin⟩ } :
      Reader).Reads [min.token, .term "TO", max.token, if toMax then .rightBracket else .rightBrace]
      (r.readLeaf { m with field := field }
        (.range ⟨some min.text, some max.text, some fromMin, some toMax⟩)) := by
    cases min <;> cases max <;> cases toMax <;> exact .cons rfl (.cons rfl (.cons rfl (.one rfl)))
  have hreads := hopen.append hbounds
  rwa [List.append_assoc] at hreads

theorem derives_term (text : String) : Derives (.term text) := by
  intro r m field hexpects hm hnext
  by_cases hexists : field = some "_exists_"
  · subst hexists
    refine ⟨_, _, .cons (step_of_expects hexpects (by simp)) (.one rfl), Nat.le_succ _, rfl, rfl,
      .fieldExists rfl, fun b hb => ?_⟩
    obtain hb : b.field = some text := hb
    simp only [Tree.withAttrs, Tree.pieces, Leaf.pieces, hb, Option.getD_some]
    rfl
  · by_cases hmissing : field = some "_missing_"
    · subst hmissing
      refine ⟨_, _, .cons (step_of_expects hexpects (by simp)) (.one rfl), Nat.le_succ _, rfl, rfl,
        .fieldMissing rfl, fun b hb => ?_⟩
      obtain hb : b.field = some text := hb
      simp only [Tree.withAttrs, Tree.pieces, Leaf.pieces, hb, Option.getD_some]
      rfl
    · have hread : ∀ (r : Reader) name attrs, field = some name →
          r.readFieldValue name attrs (.term text) =
            r.readValue (.value name attrs) attrs (.term text) := by
        rintro r name attrs rfl
        rw [readFieldValue, if_neg, if_neg]
        · exact fun heq => hmissing (congrArg some heq)
        · exact fun heq => hexists (congrArg some heq)
      have hreads : Reads r ((field.map Token.field).toList ++ [.term text])
          (r.readLeaf { m with field := field } (.ofBare text)) :=
        reads_value (a := { Attributes.plain with field := field }) hexpects hm (by simp)
          (fun _ _ => rfl) hread (fun _ _ => rfl)
      refine ⟨_, _, hreads, Nat.le_succ _, rfl, rfl, .term rfl hexists hmissing, fun b hb => ?_⟩
      obtain rfl : b.field = field := hb
      simp only [Tree.withAttrs, Tree.pieces, Leaf.pieces_ofBare, List.append_assoc]
      rfl

end Reader

namespace Grammar

/-- From the tokens of a derivation the reader builds what the derivation describes. -/
theorem Derivation.derives {s : Symbol} (d : Derivation s) : Reader.Derives d := by
  induction d with
  | nothing => exact Reader.derives_nothing
  | first c more ihc ihmore => exact Reader.derives_first ihc ihmore
  | done => exact Reader.derives_done
  | next operator c more ihc ihmore => exact Reader.derives_next ihc ihmore operator
  | clause marks field v modifiers ih => exact Reader.derives_clause ih marks field modifiers
  | group cs ih => exact Reader.derives_group ih
  | term text => exact Reader.derives_term text
  | quoted text => exact Reader.derives_quoted text
  | pattern text => exact Reader.derives_pattern text
  | range fromMin min max toMax => exact Reader.derives_range fromMin min max toMax

end Grammar

end SearchQuery
