import SearchQuery.Proofs.Cleanup.Rules
import SearchQuery.Proofs.Query.Paths
import SearchQuery.Proofs.Query.Rereading

/-!
# The leaves of a query

`Tree.leaves` reads the leaves of a tree off its paths, from left to right, each with the field of
its own. Neither tidying up nor writing a query down and reading it back makes a difference to them.
-/

namespace SearchQuery

def leafAt? : List Spot → Option (Leaf × Option String)
  | ⟨_, a, .inl l⟩ :: _ => some (l, a.field)
  | _ => none

namespace Tree

def leaves (t : Tree) : List (Leaf × Option String) :=
  (t.paths []).filterMap leafAt?

/-- The leaves at the ends of the paths are those that stand somewhere in the tree. -/
theorem filterMap_leafAt?_paths (t : Tree) (above : List Spot) (p : Place) :
    (t.paths above).filterMap leafAt? = (t.occurrences p).map fun o => (o.leaf, o.own) := by
  induction t generalizing above p with
  | nil => rfl
  | leaf => rfl
  | group id a g l r ihl ihr =>
      rw [paths_group, List.filterMap_cons_none rfl, List.filterMap_append,
        ihl _ (p.inside id a), ihr _ (p.inside id a), occurrences_group, List.map_append]

theorem leaves_eq_map_occurrences (t : Tree) (p : Place) :
    t.leaves = (t.occurrences p).map fun o => (o.leaf, o.own) :=
  filterMap_leafAt?_paths t [] p

theorem leaves_group (id : NodeId) (a : Attributes) (g : Group) (l r : Tree) :
    (group id a g l r).leaves = l.leaves ++ r.leaves := by
  have h := fun t : Tree => leaves_eq_map_occurrences t (Place.top.inside id a)
  rw [leaves_eq_map_occurrences _ .top, occurrences_group, List.map_append, h l, h r]

theorem Tidies.leaves_eq {t t' : Tree} (h : Tidies t t') : t'.leaves = t.leaves := by
  have hleaf : ∀ t : Tree, t.leaves =
      ((t.occurrences .top).map (·.asked)).map fun asked => (asked.2.1, asked.2.2.1) := fun t => by
    rw [List.map_map]
    exact leaves_eq_map_occurrences t .top
  rw [hleaf, map_asked_eq (h.occurrences .top), ← hleaf]

theorem leaves_cleanup (t : Tree) (isRoot : Bool) : (t.cleanup isRoot).leaves = t.leaves :=
  (t.tidies_cleanup isRoot).leaves_eq

theorem leaves_withAttrs {t : Tree} {a : Attributes} (h : a.field = t.attrs.field) :
    (t.withAttrs a).leaves = t.leaves := by
  cases t with
  | nil => rfl
  | leaf id b l => exact congrArg (fun field => [(l, field)]) h
  | group => rw [withAttrs, leaves_group, leaves_group]

theorem leaves_echo (t : Tree) : t.echo.leaves = t.leaves := by
  induction t with
  | nil => rfl
  | leaf => rfl
  | group id a g l r ihl ihr =>
      rw [echo, leaves_group]
      split
      · rw [leaves_group, ihl, ihr]
      · split
        · next hr =>
            obtain rfl := isNil_iff.1 hr
            exact (leaves_withAttrs (a := a.around l.echo.attrs) rfl).trans
              (ihl.trans (List.append_nil _).symm)
        · rw [leaves_group, ihl, ihr]

theorem leaves_reread (t : Tree) : t.reread.leaves = t.leaves := by
  rw [← leaves_echo t]
  obtain h | ⟨_, _, _, _, _, hecho, h⟩ := reread_cases t
  · rw [h, leaves_group]
    exact List.append_nil _
  · rw [h, hecho, leaves_group, leaves_group]

theorem leaves_unnumbered (t : Tree) : t.unnumbered.leaves = t.leaves := by
  induction t with
  | nil => rfl
  | leaf => rfl
  | group id a g l r ihl ihr => rw [unnumbered, leaves_group, leaves_group, ihl, ihr]

end Tree

end SearchQuery
