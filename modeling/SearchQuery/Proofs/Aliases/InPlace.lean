import SearchQuery.Pass.Aliases
import SearchQuery.Proofs.Store.Rewriting

/-!
# Resolving aliases in a store

The walk renames the field of a node and goes on to its children with the resolver in scope below. From
any node of a query on this comes to what `Tree.resolveAliases` makes of the tree there, and the notes
are those of `Tree.noteAliases`, `Store.renamed_resolveAliases`. No other node is touched.
-/

namespace SearchQuery

namespace Tree

theorem id?_resolveAliases (r : AliasResolver) (t : Tree) :
    (t.resolveAliases r).id? = t.id? := by
  cases t <;> rfl

end Tree

namespace Store

variable {s s' s'' : Store} {id x : NodeId} {r : AliasResolver} {t u : Tree} {depth : Nat}

theorem node?_resolveAlias (hne : x ≠ id) (s : Store) (r : AliasResolver) :
    (s.resolveAlias r id).node? x = s.node? x :=
  (node?_modify s id x _).trans (if_neg (Ne.symm hne))

/-- The fields of a tree have got their new names, and nothing else has changed. -/
structure Renamed (r : AliasResolver) (id : NodeId) (t : Tree) (s s' : Store) : Prop where
  puts : Puts s s' id (t.resolveAliases r)
  next_eq : s'.next = s.next
  annotations_eq : s'.annotations = t.noteAliases r s.annotations
  node?_eq : ∀ x ∉ t.ids, s'.node? x = s.node? x

def SideRenamed (r : AliasResolver) : Tree → Store → Store → Prop :=
  Visited fun c t s out => Renamed r c t s out.2

theorem SideRenamed.annotations_eq (h : SideRenamed r t s s') :
    s'.annotations = t.noteAliases r s.annotations := by
  rcases h with ⟨rfl, rfl⟩ | ⟨c, top, -, hrenamed⟩
  · rfl
  · exact hrenamed.annotations_eq

theorem SideRenamed.next_eq (h : SideRenamed r t s s') : s'.next = s.next := by
  rcases h with ⟨rfl, rfl⟩ | ⟨c, top, -, hrenamed⟩
  · rfl
  · exact hrenamed.next_eq

theorem SideRenamed.node?_eq (h : SideRenamed r t s s') (hx : x ∉ t.ids) :
    s'.node? x = s.node? x := by
  rcases h with ⟨rfl, rfl⟩ | ⟨c, top, -, hrenamed⟩
  · rfl
  · exact hrenamed.node?_eq x hx

theorem puts_resolveAlias (h : Puts s s id t) (htop : t.id? = some id) :
    Puts s (s.resolveAlias r id) id (t.withAttrs (r.apply t.attrs)) := by
  have hputs := h.modifyAttrs htop fun _ => r.apply (s.attrs id)
  rw [h.attrs_top htop] at hputs
  refine hputs.of_nodes_eq ?_ rfl
  rw [resolveAlias, h.attrs_top htop]

theorem resolveAliasesTo_eq (depth : Nat) (r : AliasResolver) (id : NodeId) (s : Store) :
    resolveAliasesTo (depth + 1) r id s =
      let visit := resolveAliasesTo depth (r.scope (s.attrs id))
      let s := s.resolveAlias r id
      let left := s.left? id
      let right := s.right? id
      let s := left.elim s (visit · s)
      right.elim s (visit · s) := by
  rw [resolveAliasesTo, children]
  dsimp only
  cases (s.resolveAlias r id).left? id <;> cases (s.resolveAlias r id).right? id <;> rfl

theorem renamed_resolveAliasesTo (hs : s.Rooted) (hid : id ∈ s.tree.ids)
    (hdepth : (s.view id).ids.length ≤ depth) :
    Renamed r id (s.view id) s (resolveAliasesTo depth r id s) := by
  induction depth generalizing s id r with
  | zero => exact absurd hdepth (Nat.not_le.2 (hs.length_ids_view_pos hid))
  | succ depth ih =>
      have htop := hs.id?_view hid
      have hself := Puts.refl hs hid
      have hattrs := hs.attrs_view hid
      generalize s.view id = t at htop hself hattrs hdepth ⊢
      have h := puts_resolveAlias (r := r) hself htop
      have hnext : (s.resolveAlias r id).next = s.next := size_modify ..
      have hnotes : (s.resolveAlias r id).annotations = r.note id t.attrs s.annotations := by
        rw [resolveAlias, hattrs]
      rw [resolveAliasesTo_eq, ← hattrs]
      cases t with
      | nil => cases htop
      | leaf y a f =>
          obtain rfl := Option.some.inj htop
          have hnode := h.after.node?_of_leaf (h.mem_top rfl) (h.view_top rfl)
          have hleft : (s.resolveAlias r y).left? y = none := by simp [left?, hnode, Node.left]
          have hright : (s.resolveAlias r y).right? y = none := by simp [right?, hnode, Node.right]
          simp only [hleft, hright, Option.elim_none]
          exact ⟨h, hnext, hnotes, fun x hx => node?_resolveAlias (List.ne_of_not_mem_cons hx) s r⟩
      | group y a g left right =>
          obtain rfl := Option.some.inj htop
          simp only [Tree.ids, List.length_cons, List.length_append] at hdepth
          have hright? : ∀ {s' : Store} {left' : Tree}, Puts s s' y
              (.group y (r.apply a) g left' right) → s'.right? y = right.id? := fun h =>
            h.after.slot?_right (h.mem_top rfl) (h.view_top rfl)
          have hleft : SideRenamed (r.scope a) left _ _ :=
            visited_left (fun s => s) (fun c s => (c, resolveAliasesTo depth (r.scope a) c s)) h
              fun c hmem hview => hview ▸ ih h.after hmem (by rw [hview]; omega)
          simp only [hright? h, Tree.attrs]
          generalize ((s.resolveAlias r y).left? y).elim _ _ = s₁ at hleft ⊢
          have h₁ : Puts s s₁ y
              (.group y (r.apply a) g (left.resolveAliases (r.scope a)) right) :=
            Visited.left (fun s => s) hleft h (fun hnil => by rw [hnil]; rfl)
              fun c out _ hrenamed => hrenamed.puts
          have hright : SideRenamed (r.scope a) right _ _ :=
            visited_right (fun s => s) (fun c s => (c, resolveAliasesTo depth (r.scope a) c s)) h₁
              fun c hmem hview => hview ▸ ih h₁.after hmem (by rw [hview]; omega)
          rw [hright? h₁] at hright
          have h₂ : Puts s _ y (.group y (r.apply a) g (left.resolveAliases (r.scope a))
              (right.resolveAliases (r.scope a))) :=
            Visited.right (fun s => s) hright h₁ (fun hnil => by rw [hnil]; rfl)
              fun c out _ hrenamed => hrenamed.puts
          refine ⟨h₂, hright.next_eq.trans (hleft.next_eq.trans hnext), ?_, fun x hx => ?_⟩
          · rw [hright.annotations_eq, hleft.annotations_eq, hnotes]
            rfl
          · rw [Tree.ids, List.mem_cons, List.mem_append, not_or, not_or] at hx
            rw [hright.node?_eq hx.2.2, hleft.node?_eq hx.2.1]
            exact node?_resolveAlias hx.1 s r

theorem renamed_resolveAliases (hs : s.Rooted) (hid : id ∈ s.tree.ids) (r : AliasResolver) :
    Renamed r id (s.view id) s (s.resolveAliases r id) :=
  renamed_resolveAliasesTo hs hid (hs.length_ids_view_le hid)

end Store

end SearchQuery
