import SearchQuery.Proofs.Store.InPlace
import SearchQuery.Store.Rewriter

/-!
# What walks come to

A walk that changes a store enters a node, visits what is in the slots of the node by then, and leaves
the node. So what it does from a node on can be told from what it does from the nodes in the slots on,
`Rewriter.visit_of_tells`, as long as it puts some tree in the place of each. The depth that it is cut
off at does not matter if it is no less than the number of nodes below.

What every hook keeps the whole walk keeps, `Rewriter.keeps_visitTo`, on any store.
-/

namespace SearchQuery

namespace Store

variable {s s' : Store} {id : NodeId} {new : Tree}

/-- The root stays as long as it is not replaced. -/
theorem Puts.root_eq (h : Puts s s' id new) (hne : id ≠ s.root) : s'.root = s.root := by
  have htop := h.after.wellFormed.id?_tree h.after.root_lt_next
  have htop₀ := h.before.wellFormed.id?_tree h.before.root_lt_next
  rw [h.tree_eq, Tree.id?_replace_of_ne (by rw [htop₀]; simpa using hne.symm), htop₀] at htop
  exact (Option.some.inj htop).symm

theorem Puts.id?_eq_root (h : Puts s s' s.root new) : new.id? = some s'.root := by
  rw [← h.after.wellFormed.id?_tree h.after.root_lt_next, h.tree_eq,
    Tree.replace_top h.before.shows.id?_eq]

theorem Puts.tree_eq_of_root (h : Puts s s' s.root new) : s'.tree = new := by
  rw [h.tree_eq, Tree.replace_top h.before.shows.id?_eq]

/-- What keeps its place is the root if it was. -/
theorem Puts.isRoot_eq (h : Puts s s' id new) (htop : new.id? = some id) :
    s'.isRoot id = s.isRoot id := by
  by_cases hroot : id = s.root
  · subst hroot
    rw [isRoot, isRoot, Option.some.inj (h.id?_eq_root.symm.trans htop)]
  · rw [isRoot, isRoot, h.root_eq hroot]

/-- The outcome has a tree in the place of the node, and is the top of the tree if there is one. -/
structure Yields (s : Store) (id : NodeId) (new : Tree) (out : NodeId × Store) : Prop where
  puts : Puts s out.2 id new
  top : ∀ c, new.id? = some c → out.1 = c

section Slots

variable {σ : Type} {s s' : σ} {id : NodeId} {Q : NodeId → Tree → σ → NodeId × σ → Prop}

def Visited (Q : NodeId → Tree → σ → NodeId × σ → Prop) (t : Tree) (s s' : σ) : Prop :=
  t = .nil ∧ s' = s ∨ ∃ c top, t.id? = some c ∧ Q c t s (top, s')

theorem Visited.left (store : σ → Store) {s₀ : Store} {x : NodeId} {a : Attributes} {g : Group}
    {l l' u : Tree} (h : Visited Q l s s') (hputs : Puts s₀ (store s) id (.group x a g l u))
    (hnil : l = .nil → l' = .nil) (hQ : ∀ c out, c ≠ (store s).root → Q c l s out →
      Puts (store s) (store out.2) c l') : Puts s₀ (store s') id (.group x a g l' u) := by
  rcases h with ⟨rfl, rfl⟩ | ⟨c, top, hc, hvisit⟩
  · rwa [hnil rfl]
  · exact hputs.left hc (hQ c (top, s') (hputs.ne_root_left hc) hvisit)

theorem Visited.right (store : σ → Store) {s₀ : Store} {x : NodeId} {a : Attributes} {g : Group}
    {l l' u : Tree} (h : Visited Q l s s') (hputs : Puts s₀ (store s) id (.group x a g u l))
    (hnil : l = .nil → l' = .nil) (hQ : ∀ c out, c ≠ (store s).root → Q c l s out →
      Puts (store s) (store out.2) c l') : Puts s₀ (store s') id (.group x a g u l') := by
  rcases h with ⟨rfl, rfl⟩ | ⟨c, top, hc, hvisit⟩
  · rwa [hnil rfl]
  · exact hputs.right hc (hQ c (top, s') (hputs.ne_root_right hc) hvisit)

section Slot

variable (store : σ → Store) (visit : NodeId → σ → NodeId × σ) {s₀ : Store} {x : NodeId}
  {a : Attributes} {g : Group} {u t : Tree}

theorem visited_elim (h : ∀ c, u.id? = some c → Q c u s (visit c s)) :
    Visited Q u s (u.id?.elim s fun c => (visit c s).2) := by
  cases hc : u.id? with
  | none => exact .inl ⟨Tree.id?_eq_none_iff.1 hc, rfl⟩
  | some c => exact .inr ⟨c, _, hc, h c hc⟩

theorem visited_left (h : Puts s₀ (store s) id (.group x a g u t))
    (hQ : ∀ c ∈ (store s).tree.ids, (store s).view c = u → Q c u s (visit c s)) :
    Visited Q u s (((store s).left? x).elim s fun c => (visit c s).2) := by
  rw [show (store s).left? x = u.id? from h.after.slot?_left (h.mem_top rfl) (h.view_top rfl)]
  exact visited_elim visit fun c hc => hQ c (h.mem_left hc) (h.view_left hc)

theorem visited_right (h : Puts s₀ (store s) id (.group x a g t u))
    (hQ : ∀ c ∈ (store s).tree.ids, (store s).view c = u → Q c u s (visit c s)) :
    Visited Q u s (((store s).right? x).elim s fun c => (visit c s).2) := by
  rw [show (store s).right? x = u.id? from h.after.slot?_right (h.mem_top rfl) (h.view_top rfl)]
  exact visited_elim visit fun c hc => hQ c (h.mem_right hc) (h.view_right hc)

end Slot

end Slots

end Store

namespace Rewriter

open Store

variable {σ : Type} {r : Rewriter σ} {s s' : σ} {id top : NodeId} {depth : Nat}

theorem visitTo_of_enter_some (h : r.enter id s = (some top, s')) :
    r.visitTo (depth + 1) id s = (top, s') := by
  rw [visitTo, h]

theorem visitTo_of_enter_none (h : r.enter id s = (none, s')) :
    r.visitTo (depth + 1) id s =
      let s := ((r.store s').left? id).elim s' fun child => (r.visitTo depth child s').2
      let s := ((r.store s).right? id).elim s fun child => (r.visitTo depth child s).2
      r.leave id s := by
  rw [visitTo, h]

theorem keeps_visitTo {R : σ → σ → Prop} (hrefl : ∀ s, R s s)
    (htrans : ∀ {s s' s''}, R s s' → R s' s'' → R s s'') (henter : ∀ id s, R s (r.enter id s).2)
    (hleave : ∀ id s, R s (r.leave id s).2) (depth : Nat) (id : NodeId) (s : σ) :
    R s (r.visitTo depth id s).2 := by
  induction depth generalizing id s with
  | zero => exact hrefl s
  | succ depth ih =>
      have hslot : ∀ (o : Option NodeId) (s : σ),
          R s (o.elim s fun child => (r.visitTo depth child s).2) := fun o s => by
        cases o with
        | none => exact hrefl s
        | some child => exact ih child s
      have hin := henter id s
      rcases h : r.enter id s with ⟨_ | top, s'⟩
      · rw [h] at hin
        rw [visitTo_of_enter_none h]
        exact htrans (htrans (htrans hin (hslot _ _)) (hslot _ _)) (hleave id _)
      · rw [h] at hin
        rwa [visitTo_of_enter_some h]

section Hooks

-- what is told of the outcome of a walk, given where it starts, the tree there, and the state
variable {Q : NodeId → Tree → σ → NodeId × σ → Prop}

/-- What can be told of a walk from a node on: it goes no further, or the node is a leaf, or what is
told of the slots that there are by then says what to tell of the group. -/
inductive Tells (r : Rewriter σ) (Q : NodeId → Tree → σ → NodeId × σ → Prop) (id : NodeId) (t : Tree)
    (s : σ) : Prop
  | stop {top : NodeId} {s' : σ} (enter : r.enter id s = (some top, s'))
      (told : Q id t s (top, s'))
  | leaf {s' : σ} {a : Attributes} {l : Leaf} (enter : r.enter id s = (none, s'))
      (puts : Puts (r.store s) (r.store s') id (.leaf id a l))
      (told : Q id t s (r.leave id s'))
  | group {s' : σ} {a : Attributes} {g : Group} {left right : Tree}
      (enter : r.enter id s = (none, s'))
      (puts : Puts (r.store s) (r.store s') id (.group id a g left right))
      (length_le : left.ids.length + right.ids.length < t.ids.length)
      (told : ∀ s₁ s₂, Visited Q left s' s₁ → Visited Q right s₁ s₂ →
        Q id t s (r.leave id s₂))

theorem visitTo_of_tells
    (hputs : ∀ {id t s out}, Q id t s out → ∃ new, Puts (r.store s) (r.store out.2) id new)
    (htells : ∀ {id t s}, (r.store s).Rooted → id ∈ (r.store s).tree.ids →
      (r.store s).view id = t → r.Tells Q id t s)
    (hs : (r.store s).Rooted) (hid : id ∈ (r.store s).tree.ids)
    (hdepth : ((r.store s).view id).ids.length ≤ depth) :
    Q id ((r.store s).view id) s (r.visitTo depth id s) := by
  induction depth generalizing s id with
  | zero => exact absurd hdepth (Nat.not_le.2 (hs.length_ids_view_pos hid))
  | succ depth ih =>
      cases htells hs hid rfl with
      | stop henter htold => rwa [visitTo_of_enter_some henter]
      | @leaf s' a l henter h htold =>
          have hnode := h.after.node?_of_leaf (h.mem_top rfl) (h.view_top rfl)
          have hnone : (r.store s').left? id = none ∧ (r.store s').right? id = none := by
            simp [left?, right?, hnode, Node.left, Node.right]
          rw [visitTo_of_enter_none henter, hnone.1]
          simp only [Option.elim_none]
          rwa [hnone.2]
      | @group s' a g left right henter h hlen htold =>
          rw [visitTo_of_enter_none henter]
          have hleft := visited_left r.store (r.visitTo depth) h fun c hmem hview =>
            hview ▸ ih h.after hmem (by rw [hview]; omega)
          generalize ((r.store s').left? id).elim s'
            (fun child => (r.visitTo depth child s').2) = s₁ at hleft ⊢
          obtain ⟨left', h₁⟩ : ∃ left', Puts (r.store s) (r.store s₁) id
              (.group id a g left' right) := by
            rcases hleft with ⟨rfl, rfl⟩ | ⟨c, top, hc, hvisit⟩
            · exact ⟨.nil, h⟩
            · obtain ⟨new, hnew⟩ := hputs hvisit
              exact ⟨new, h.left hc hnew⟩
          have hright := visited_right r.store (r.visitTo depth) h₁ fun c hmem hview =>
            hview ▸ ih h₁.after hmem (by rw [hview]; omega)
          exact htold _ _ hleft hright

/-- The whole walk goes deep enough. -/
theorem visit_of_tells
    (hputs : ∀ {id t s out}, Q id t s out → ∃ new, Puts (r.store s) (r.store out.2) id new)
    (htells : ∀ {id t s}, (r.store s).Rooted → id ∈ (r.store s).tree.ids →
      (r.store s).view id = t → r.Tells Q id t s)
    (hs : (r.store s).Rooted) (hid : id ∈ (r.store s).tree.ids) :
    Q id ((r.store s).view id) s (r.visit id s) :=
  visitTo_of_tells hputs htells hs hid (hs.length_ids_view_le hid)

end Hooks

end Rewriter

end SearchQuery
