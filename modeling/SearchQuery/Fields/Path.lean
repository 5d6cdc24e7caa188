/-!
# Dotted paths

A field may be a path of names with dots between them. `Path.cuts` lists the ways to cut a path
before a dot, or behind its end, into a front and a rest that starts with the dot; the longest
front comes first. What looks a path up by its longest known front goes through this list.
-/

namespace SearchQuery.Path

def dotCuts : List Char → List (List Char × List Char)
  | [] => []
  | c :: cs =>
      ((dotCuts cs).map fun cut => (c :: cut.1, cut.2)) ++
        (if c = '.' then [([], c :: cs)] else [])

def cuts (path : List Char) : List (List Char × List Char) :=
  (path, []) :: dotCuts path

/-- A cut before a dot loses nothing, and the rest starts with the dot. -/
theorem eq_of_mem_dotCuts {path front rest : List Char} (h : (front, rest) ∈ dotCuts path) :
    path = front ++ rest ∧ rest.head? = some '.' := by
  induction path generalizing front with
  | nil => simp [dotCuts] at h
  | cons c cs ih =>
      simp only [dotCuts, List.mem_append, List.mem_map, Prod.mk.injEq] at h
      rcases h with ⟨⟨front', rest'⟩, hmem, rfl, rfl⟩ | h
      · obtain ⟨heq, hdot⟩ := ih hmem
        exact ⟨by simp [← heq], hdot⟩
      · split at h
        · next hc =>
            obtain ⟨rfl, rfl⟩ : front = [] ∧ rest = c :: cs := by simpa using h
            simp [hc]
        · simp at h

theorem mem_dotCuts (front rest : List Char) :
    (front, '.' :: rest) ∈ dotCuts (front ++ '.' :: rest) := by
  induction front with
  | nil => simp [dotCuts]
  | cons c front ih =>
      simp only [List.cons_append, dotCuts, List.mem_append, List.mem_map]
      exact Or.inl ⟨_, ih, rfl⟩

/-- A cut loses nothing. -/
theorem eq_of_mem_cuts {path front rest : List Char} (h : (front, rest) ∈ cuts path) :
    path = front ++ rest := by
  rcases List.mem_cons.1 h with h | h
  · simp_all
  · exact (eq_of_mem_dotCuts h).1

end SearchQuery.Path
