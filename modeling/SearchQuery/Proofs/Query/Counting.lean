import SearchQuery.Proofs.Query.Numbers
import SearchQuery.Proofs.Query.Steps

/-!
# The numbers that the reader gives

The reader numbers the nodes as it makes them, so all numbers of a tree that was read are
different, and the root has the number 0, `Tree.nodup_ids_of_parse`. The numbers of all trees that
a reader holds are `Reader.ids`; every token adds just those it hands out.
-/

namespace SearchQuery

namespace Tree

/-- The link groups of a sequence take the numbers from the given one on. -/
theorem extends_chain (clauses : List (Operator × Tree)) (next : Nat) :
    Extends (clauses.flatMap (·.2.ids))
      ((chain clauses next).1.2.1.ids ++ (chain clauses next).1.2.2.ids) next
      (chain clauses next).2 := by
  induction clauses, next using chain.induct with
  | case1 next => exact .refl [] next
  | case2 before only next => simpa [chain, ids] using Extends.refl only.ids next
  | case3 before first operator second next =>
      simpa [chain] using Extends.refl (first.ids ++ second.ids) next
  | case4 before first operator second third rest next inner l r after hinner ih =>
      have hlink := (Extends.refl first.ids next).append ih.lead
      rw [chain]
      exact hlink

/-- A group takes its own number before those of its link groups. -/
theorem extends_ofClauses (attrs : Attributes) (parens : Bool) (clauses : List (Operator × Tree))
    (next : Nat) :
    Extends (clauses.flatMap (·.2.ids)) (ofClauses next attrs parens clauses (next + 1)).1.ids next
      (ofClauses next attrs parens clauses (next + 1)).2 :=
  (extends_chain clauses (next + 1)).lead

end Tree

namespace Reader

def Frame.ids (f : Frame) : List Nat :=
  f.clauses.flatMap (·.2.ids)

def Mode.ids : Mode → List Nat
  | modifiers clause => clause.ids
  | _ => []

def ids (r : Reader) : List Nat :=
  r.mode.ids ++ (r.group.ids ++ r.outer.flatMap Frame.ids)

def Counts (r r' : Reader) : Prop :=
  Tree.Extends r.ids r'.ids r.next r'.next

variable {r r' : Reader} {token : Token} {a : Attributes}

theorem Counts.of_ids_eq (hids : r'.ids = r.ids) (hnext : r'.next = r.next) : Counts r r' := by
  rw [Counts, hids, hnext]
  exact .refl _ _

theorem ids_settled (r : Reader) : r.settled.ids = r.ids := by
  obtain ⟨mode, group, outer, next⟩ := r
  cases mode with
  | modifiers clause =>
      simp [settled, endClause, ids, Mode.ids, Frame.push, Frame.ids]
  | _ => rfl

theorem next_settled (r : Reader) : r.settled.next = r.next := by
  obtain ⟨mode, group, outer, next⟩ := r
  cases mode <;> rfl

theorem mode_ids_settled (r : Reader) : r.settled.mode.ids = [] := by
  obtain ⟨mode, group, outer, next⟩ := r
  cases mode <;> rfl

theorem ids_of_mode (h : r.mode.ids = []) : r.ids = r.group.ids ++ r.outer.flatMap Frame.ids := by
  rw [ids, h, List.nil_append]

theorem counts_mode (h : r.mode.ids = []) {mode : Mode} (hmode : mode.ids = []) :
    Counts r { r with mode := mode } :=
  .of_ids_eq (by rw [ids_of_mode h, ids_of_mode hmode]) rfl

theorem counts_readLeaf (h : r.mode.ids = []) (a : Attributes) (l : Leaf) :
    Counts r (r.readLeaf a l) := by
  rw [Counts, ids_of_mode h]
  exact (Tree.Extends.refl _ r.next).push

theorem counts_openGroup (h : r.mode.ids = []) (a : Attributes) : Counts r (r.openGroup a) :=
  .of_ids_eq (by rw [ids_of_mode h]; rfl) rfl

theorem counts_operator (r : Reader) (operator : Operator) :
    Counts r { r with group := { r.group with operator := operator } } :=
  .of_ids_eq rfl rfl

theorem ids_withAttrs (t : Tree) (a : Attributes) : (t.withAttrs a).ids = t.ids := by
  cases t <;> rfl

theorem counts_modifier {clause : Tree} (h : r.mode = .modifiers clause) (a : Attributes) :
    Counts r { r with mode := .modifiers (clause.withAttrs a) } :=
  .of_ids_eq (by rw [ids, ids, h, Mode.ids, Mode.ids, ids_withAttrs]) rfl

theorem counts_closeGroup {around : Frame} {outer : List Frame} (h : r.mode = .between)
    (houter : r.outer = around :: outer) :
    Counts r
      ⟨.modifiers
        (Tree.ofClauses r.next r.group.attrs true r.group.clauses.reverse (r.next + 1)).1,
        around, outer,
        (Tree.ofClauses r.next r.group.attrs true r.group.clauses.reverse (r.next + 1)).2⟩ := by
  have hclauses : (r.group.clauses.reverse.flatMap (·.2.ids)).Perm r.group.ids :=
    (List.reverse_perm _).flatMap_right _
  have hgroup := (Tree.extends_ofClauses r.group.attrs true r.group.clauses.reverse
    r.next).of_perm hclauses
  rw [Counts, ids_of_mode (by rw [h]; rfl), houter]
  exact hgroup.append (Tree.Extends.refl (around.ids ++ outer.flatMap Frame.ids) _)

theorem mode_ids_of_awaits (h : r.Awaits a) : r.mode.ids = [] := by
  rcases h with (h | ⟨h, -⟩) | ⟨field, h⟩ <;> rw [h] <;> rfl

/-- Every token adds just the numbers that it hands out. -/
theorem Takes.counts (h : r.Takes token r') : Counts r r' := by
  cases h with
  | plus h | minus h | not h | field h => exact counts_mode (mode_ids_of_awaits (.inl h)) rfl
  | leftBracket h | leftBrace h => exact counts_mode (mode_ids_of_awaits h) rfl
  | leftParen h => exact counts_openGroup (mode_ids_of_awaits h) _
  | term h | quoted h | pattern h => exact counts_readLeaf (mode_ids_of_awaits h) _ _
  | fieldExists h | fieldMissing h | rightBracket h | rightBrace h =>
      exact counts_readLeaf (by rw [h]; rfl) _ _
  | lowerBound h | rangeWord h | upperBound h => exact counts_mode (by rw [h]; rfl) rfl
  | boost h | proximity h => exact counts_modifier h _
  | and | or => exact counts_operator r _
  | rightParen h _ houter => exact counts_closeGroup h houter

theorem counts_step (hstep : r.step token = .ok r') : Counts r r' := by
  rcases takes_of_step hstep with h | h
  · exact h.counts
  · have hcounts := h.counts
    rwa [Counts, ids_settled, next_settled] at hcounts

theorem Reads.counts {tokens : List Token} (h : Reads r tokens r') : Counts r r' :=
  h.of_step (fun _ => .refl _ _) (fun h h' => Tree.Extends.trans h h') counts_step

end Reader

/-- The tree of a text has its numbers once each, and the root has the number 0. -/
theorem Tree.nodup_ids_of_parse {text : String} {t : Tree} (h : Tree.parse text = .ok t) :
    t.id? = some 0 ∧ t.ids.Nodup := by
  obtain ⟨r, hreads, houter, rfl⟩ := exists_reads_of_parse h
  have hcounts : Extends [] r.settled.ids 1 r.settled.next := by
    rw [Reader.ids_settled, Reader.next_settled]
    exact hreads.counts
  have hids : r.settled.ids = r.settled.group.clauses.flatMap (·.2.ids) := by
    rw [Reader.ids, houter, List.flatMap_nil, List.append_nil, Reader.mode_ids_settled,
      List.nil_append]
    rfl
  rw [hids] at hcounts
  have hchain := hcounts.trans
    ((extends_chain r.settled.group.clauses.reverse r.settled.next).of_perm
      ((List.reverse_perm _).flatMap_right _))
  refine ⟨rfl, List.nodup_cons.2 ⟨fun hroot => ?_, hchain.nodup .nil (by simp)⟩⟩
  rcases hchain.mem_iff.1 hroot with hnil | hrange
  · simp at hnil
  · exact absurd hrange.1 (by decide)

end SearchQuery
