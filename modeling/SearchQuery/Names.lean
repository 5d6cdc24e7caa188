/-!
# Sorted sets of names

A `NameSet` is a list of names in increasing order of their code points, so two sets with the same
names are equal and their order in results is fixed. A `NameTable` files a set of names under each
of some names, in the same order.
-/

namespace SearchQuery

structure NameSet where
  names : List String
  increasing : names.Pairwise (· < ·)
  deriving DecidableEq, Repr

namespace NameSet

def empty : NameSet :=
  ⟨[], .nil⟩

instance : Inhabited NameSet := ⟨empty⟩

instance : Membership String NameSet where
  mem s name := name ∈ s.names

instance (name : String) (s : NameSet) : Decidable (name ∈ s) :=
  inferInstanceAs (Decidable (name ∈ s.names))

def contains (s : NameSet) (name : String) : Bool :=
  s.names.contains name

def isEmpty (s : NameSet) : Bool :=
  s.names.isEmpty

def insertName (name : String) : List String → List String
  | [] => [name]
  | first :: rest =>
      if name < first then name :: first :: rest
      else if name = first then first :: rest
      else first :: insertName name rest

theorem mem_insertName {name x : String} {names : List String} :
    x ∈ insertName name names ↔ x = name ∨ x ∈ names := by
  induction names with
  | nil => simp [insertName]
  | cons first rest ih =>
      rw [insertName]
      split
      · simp
      · split
        · next h => subst h; simp
        · simp only [List.mem_cons, ih]
          constructor <;> (intro h; rcases h with h | h | h <;> simp [h])

theorem pairwise_insertName {name : String} {names : List String}
    (h : names.Pairwise (· < ·)) : (insertName name names).Pairwise (· < ·) := by
  induction names with
  | nil => simp [insertName]
  | cons first rest ih =>
      obtain ⟨hfirst, hrest⟩ := List.pairwise_cons.1 h
      rw [insertName]
      split
      · next hlt =>
          refine List.pairwise_cons.2 ⟨fun x hx => ?_, h⟩
          rcases List.mem_cons.1 hx with rfl | hx
          · exact hlt
          · exact String.lt_trans hlt (hfirst x hx)
      · next hlt =>
          split
          · exact h
          · next hne =>
              refine List.pairwise_cons.2 ⟨fun x hx => ?_, ih hrest⟩
              rcases mem_insertName.1 hx with rfl | hx
              · refine String.not_le.1 fun hle => hne ?_
                exact String.le_antisymm hle (String.not_lt.1 hlt)
              · exact hfirst x hx

def insert (s : NameSet) (name : String) : NameSet :=
  ⟨insertName name s.names, pairwise_insertName s.increasing⟩

def insertMany (s : NameSet) (names : List String) : NameSet :=
  names.foldl insert s

def union (s t : NameSet) : NameSet :=
  s.insertMany t.names

def ofList (names : List String) : NameSet :=
  empty.insertMany names

theorem mem_iff {s : NameSet} {name : String} : name ∈ s ↔ name ∈ s.names :=
  Iff.rfl

@[simp] theorem not_mem_empty {name : String} : name ∉ empty := by
  simp [mem_iff, empty]

@[simp] theorem mem_insert {s : NameSet} {name x : String} :
    x ∈ s.insert name ↔ x = name ∨ x ∈ s :=
  mem_insertName

@[simp] theorem mem_insertMany {s : NameSet} {names : List String} {x : String} :
    x ∈ s.insertMany names ↔ x ∈ names ∨ x ∈ s := by
  induction names generalizing s with
  | nil => simp [insertMany]
  | cons name rest ih =>
      have : s.insertMany (name :: rest) = (s.insert name).insertMany rest := rfl
      rw [this, ih, mem_insert, List.mem_cons, or_left_comm, or_assoc]

@[simp] theorem mem_union {s t : NameSet} {x : String} : x ∈ s.union t ↔ x ∈ t ∨ x ∈ s :=
  mem_insertMany

@[simp] theorem mem_ofList {names : List String} {x : String} : x ∈ ofList names ↔ x ∈ names := by
  simp [ofList]

/-- Increasing lists with the same members are equal. -/
theorem eq_of_mem_iff {xs ys : List String} (hxs : xs.Pairwise (· < ·)) (hys : ys.Pairwise (· < ·))
    (h : ∀ x, x ∈ xs ↔ x ∈ ys) : xs = ys := by
  induction xs generalizing ys with
  | nil =>
      cases ys with
      | nil => rfl
      | cons y ys => exact absurd ((h y).2 List.mem_cons_self) List.not_mem_nil
  | cons x xs ih =>
      cases ys with
      | nil => exact absurd ((h x).1 List.mem_cons_self) List.not_mem_nil
      | cons y ys =>
          obtain ⟨hx, hxs'⟩ := List.pairwise_cons.1 hxs
          obtain ⟨hy, hys'⟩ := List.pairwise_cons.1 hys
          have hxy : x = y := by
            rcases List.mem_cons.1 ((h x).1 List.mem_cons_self) with hxy | hxin
            · exact hxy
            · rcases List.mem_cons.1 ((h y).2 List.mem_cons_self) with hyx | hyin
              · exact hyx.symm
              · exact absurd (String.lt_trans (hx y hyin) (hy x hxin)) (String.lt_irrefl x)
          subst hxy
          congr 1
          refine ih hxs' hys' fun z => ⟨fun hz => ?_, fun hz => ?_⟩
          · rcases List.mem_cons.1 ((h z).1 (List.mem_cons_of_mem _ hz)) with rfl | hz'
            · exact absurd (hx z hz) (String.lt_irrefl z)
            · exact hz'
          · rcases List.mem_cons.1 ((h z).2 (List.mem_cons_of_mem _ hz)) with rfl | hz'
            · exact absurd (hy z hz) (String.lt_irrefl z)
            · exact hz'

theorem ext {s t : NameSet} (h : ∀ x, x ∈ s ↔ x ∈ t) : s = t := by
  obtain ⟨xs, hxs⟩ := s
  obtain ⟨ys, hys⟩ := t
  obtain rfl : xs = ys := eq_of_mem_iff hxs hys h
  rfl

end NameSet

/-- Sets of names filed under names, in increasing order. -/
structure NameTable where
  rows : List (String × NameSet)
  deriving DecidableEq, Repr

namespace NameTable

def empty : NameTable :=
  ⟨[]⟩

instance : Inhabited NameTable := ⟨empty⟩

def addRow (key : String) (names : List String) :
    List (String × NameSet) → List (String × NameSet)
  | [] => [(key, .ofList names)]
  | (first, row) :: rest =>
      if key < first then (key, .ofList names) :: (first, row) :: rest
      else if key = first then (first, row.insertMany names) :: rest
      else (first, row) :: addRow key names rest

def add (t : NameTable) (key : String) (names : List String) : NameTable :=
  ⟨addRow key names t.rows⟩

def union (t u : NameTable) : NameTable :=
  u.rows.foldl (fun t row => t.add row.1 row.2.names) t

def keys (t : NameTable) : List String :=
  t.rows.map (·.1)

def get? (t : NameTable) (key : String) : Option NameSet :=
  t.rows.lookup key

end NameTable

end SearchQuery
