import SearchQuery.Token.Lexer

/-!
# Texts that are read back

A bare term, a literal and a number are each cut off from the text by a function of the lexer.
Here is what makes a piece of text one that the same function cuts off again, whatever comes
behind it, and that every piece that was cut off is of this kind.
-/

namespace SearchQuery.Token

/-- Whether nothing of what comes behind a bare term belongs to it. -/
def Ends (rest : List Char) : Prop :=
  ∀ c ∈ rest.head?, isBoundary c = true

def IsWord (cs : List Char) : Prop :=
  splitTerm? cs = some (cs, [])

instance (cs : List Char) : Decidable (IsWord cs) :=
  inferInstanceAs (Decidable (_ = _))

def IsInside (mark : Char) (cs : List Char) : Prop :=
  splitDelimited? mark (cs ++ [mark]) = some cs

instance (mark : Char) (cs : List Char) : Decidable (IsInside mark cs) :=
  inferInstanceAs (Decidable (_ = _))

def EndsNumber (rest : List Char) : Prop :=
  ∀ c ∈ rest.head?, isNumeral c = false

/-- A character that neither ends a text as a backslash nor protects another one is no backslash. -/
theorem ne_backslash {c : Char} {cs : List Char} (hend : c = '\\' → cs = [] → False)
    (hescape : ∀ next rest, c = '\\' → cs = next :: rest → False) : c ≠ '\\' := by
  rintro rfl
  cases cs with
  | nil => exact hend rfl rfl
  | cons next rest => exact hescape next rest rfl rfl

theorem splitTerm?_escape (c : Char) (rest : List Char) :
    splitTerm? ('\\' :: c :: rest) =
      (splitTerm? rest).map fun (taken, after) => ('\\' :: c :: taken, after) :=
  rfl

theorem splitTerm?_of_ends {rest : List Char} (h : Ends rest) :
    splitTerm? rest = some ([], rest) := by
  cases rest with
  | nil => rfl
  | cons c rest =>
      have hc : isBoundary c = true := h c rfl
      have hne : c ≠ '\\' := by
        rintro rfl
        exact absurd hc (by decide)
      rw [splitTerm?, if_pos hc]
      · exact fun hbackslash => absurd hbackslash hne
      · exact fun _ _ hbackslash => absurd hbackslash hne

theorem splitTerm?_cons {c : Char} (hne : c ≠ '\\') (hc : isBoundary c = false)
    (rest : List Char) :
    splitTerm? (c :: rest) = (splitTerm? rest).map fun (taken, after) => (c :: taken, after) := by
  rw [splitTerm?, if_neg (by simp [hc])]
  · exact fun hbackslash => absurd hbackslash hne
  · exact fun _ _ hbackslash => absurd hbackslash hne

/-- What is cut off as a bare term is in front of something that ends it, and is cut off again in
front of anything that does. -/
theorem splitTerm?_spec {cs taken after : List Char} (h : splitTerm? cs = some (taken, after)) :
    cs = taken ++ after ∧ Ends after ∧
      ∀ rest, Ends rest → splitTerm? (taken ++ rest) = some (taken, rest) := by
  induction cs using splitTerm?.induct generalizing taken after with
  | case1 =>
      obtain ⟨rfl, rfl⟩ := Prod.mk.inj (Option.some.inj h)
      exact ⟨rfl, by simp [Ends], fun _ => splitTerm?_of_ends⟩
  | case2 => cases h
  | case3 c cs ih =>
      rw [splitTerm?_escape, Option.map_eq_some_iff] at h
      obtain ⟨⟨taken', after'⟩, hsplit, heq⟩ := h
      obtain ⟨rfl, rfl⟩ := Prod.mk.inj heq
      obtain ⟨hcs, hends, hagain⟩ := ih hsplit
      refine ⟨congrArg ('\\' :: c :: ·) hcs, hends, fun rest hrest => ?_⟩
      rw [List.cons_append, List.cons_append, splitTerm?_escape, hagain rest hrest]
      rfl
  | case4 c cs _ _ hc =>
      have hends : Ends (c :: cs) := by simpa [Ends] using hc
      rw [splitTerm?_of_ends hends] at h
      obtain ⟨rfl, rfl⟩ := Prod.mk.inj (Option.some.inj h)
      exact ⟨rfl, hends, fun _ => splitTerm?_of_ends⟩
  | case5 c cs hend hescape hc ih =>
      have hne := ne_backslash hend hescape
      have hc : isBoundary c = false := by simpa using hc
      rw [splitTerm?_cons hne hc, Option.map_eq_some_iff] at h
      obtain ⟨⟨taken', after'⟩, hsplit, heq⟩ := h
      obtain ⟨rfl, rfl⟩ := Prod.mk.inj heq
      obtain ⟨hcs, hends, hagain⟩ := ih hsplit
      refine ⟨congrArg (c :: ·) hcs, hends, fun rest hrest => ?_⟩
      rw [List.cons_append, splitTerm?_cons hne hc, hagain rest hrest]
      rfl

theorem isWord_of_splitTerm? {cs taken after : List Char}
    (h : splitTerm? cs = some (taken, after)) : IsWord taken := by
  have hword := (splitTerm?_spec h).2.2 [] (by simp [Ends])
  rwa [List.append_nil] at hword

/-- In front of a blank a word can be told from what comes behind it. -/
theorem eq_of_isWord_append {cs first rest rest' : List Char} (hcs : IsWord cs)
    (hfirst : IsWord first) (h : cs ++ ' ' :: rest = first ++ ' ' :: rest') :
    cs = first ∧ rest = rest' := by
  have hends : ∀ rest : List Char, Ends (' ' :: rest) := by
    rintro rest c ⟨⟩
    decide
  have hsplit := ((splitTerm?_spec hcs).2.2 _ (hends rest)).symm.trans
    (h ▸ (splitTerm?_spec hfirst).2.2 _ (hends rest'))
  simpa using hsplit

theorem splitDelimited?_escape (mark c : Char) (rest : List Char) :
    splitDelimited? mark ('\\' :: c :: rest) =
      (splitDelimited? mark rest).map fun text => '\\' :: c :: text :=
  rfl

theorem splitDelimited?_mark {mark : Char} (hmark : mark ≠ '\\') (rest : List Char) :
    splitDelimited? mark (mark :: rest) = some [] := by
  rw [splitDelimited?, if_pos rfl]
  · exact fun hbackslash => absurd hbackslash hmark
  · exact fun _ _ hbackslash => absurd hbackslash hmark

theorem splitDelimited?_cons {mark c : Char} (hne : c ≠ '\\') (hc : c ≠ mark) (rest : List Char) :
    splitDelimited? mark (c :: rest) =
      (splitDelimited? mark rest).map fun text => c :: text := by
  rw [splitDelimited?, if_neg hc]
  · exact fun hbackslash => absurd hbackslash hne
  · exact fun _ _ hbackslash => absurd hbackslash hne

/-- The inside of a literal is in front of the closing mark, and is read again wherever it is. -/
theorem splitDelimited?_spec {mark : Char} (hmark : mark ≠ '\\') {cs text : List Char}
    (h : splitDelimited? mark cs = some text) :
    (∃ after, cs = text ++ mark :: after) ∧
      ∀ rest, splitDelimited? mark (text ++ mark :: rest) = some text := by
  induction cs using splitDelimited?.induct mark generalizing text with
  | case1 => cases h
  | case2 => cases h
  | case3 c cs ih =>
      rw [splitDelimited?_escape, Option.map_eq_some_iff] at h
      obtain ⟨text', hsplit, rfl⟩ := h
      obtain ⟨⟨after, hcs⟩, hagain⟩ := ih hsplit
      refine ⟨⟨after, congrArg ('\\' :: c :: ·) hcs⟩, fun rest => ?_⟩
      rw [List.cons_append, List.cons_append, splitDelimited?_escape, hagain]
      rfl
  | case4 cs =>
      rw [splitDelimited?_mark hmark] at h
      obtain rfl := Option.some.inj h
      exact ⟨⟨cs, rfl⟩, splitDelimited?_mark hmark⟩
  | case5 c cs hend hescape hc ih =>
      have hne := ne_backslash hend hescape
      rw [splitDelimited?_cons hne hc, Option.map_eq_some_iff] at h
      obtain ⟨text', hsplit, rfl⟩ := h
      obtain ⟨⟨after, hcs⟩, hagain⟩ := ih hsplit
      refine ⟨⟨after, congrArg (c :: ·) hcs⟩, fun rest => ?_⟩
      rw [List.cons_append, splitDelimited?_cons hne hc, hagain]
      rfl

theorem isInside_of_splitDelimited? {mark : Char} (hmark : mark ≠ '\\') {cs text : List Char}
    (h : splitDelimited? mark cs = some text) : IsInside mark text :=
  (splitDelimited?_spec hmark h).2 []

/-- A number is read again in front of anything that is no part of a number. -/
theorem takeWhile_append {number rest : List Char} (hnumber : ∀ c ∈ number, isNumeral c = true)
    (hrest : EndsNumber rest) : (number ++ rest).takeWhile isNumeral = number := by
  rw [List.takeWhile_append_of_pos hnumber]
  cases rest with
  | nil => simp
  | cons c rest =>
      have hc : isNumeral c = false := hrest c rfl
      simp [hc]

end SearchQuery.Token
