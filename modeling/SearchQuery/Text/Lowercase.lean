import SearchQuery.Text.CaseTable

/-!
# Small letters

`lowercase` writes each character of a text in small letters. Two characters need more than a
table of single letters: the capital I with a dot becomes two characters, and a capital sigma
becomes a final sigma at the end of a word, that is after a cased letter and before none, where
characters that case ignores are passed over.
-/

namespace SearchQuery.Text

def lowerChar (c : Char) : List Char :=
  if c = '\u0130' then ['i', '\u0307']
  else match lowercaseRuns.find? (·.contains c.toNat) with
    | some run => [Char.ofNat (c.toNat + run.shift).toNat]
    | none => [c]

def meetsCased (cs : List Char) : Bool :=
  match cs.dropWhile (CodeRange.anyContains caseIgnorableRanges) with
  | [] => false
  | c :: _ => CodeRange.anyContains casedRanges c

def lowerAfter : List Char → List Char → List Char
  | _, [] => []
  | before, c :: rest =>
      let small :=
        if c = '\u03A3' then
          if meetsCased before && !meetsCased rest then ['\u03C2'] else ['\u03C3']
        else lowerChar c
      small ++ lowerAfter (c :: before) rest

def lowercase (s : String) : String :=
  String.ofList (lowerAfter [] s.toList)

theorem lowerAfter_eq_flatMap (before cs : List Char) (h : '\u03A3' ∉ cs) :
    lowerAfter before cs = cs.flatMap lowerChar := by
  induction cs generalizing before with
  | nil => rfl
  | cons c rest ih =>
      simp only [List.mem_cons, not_or] at h
      have hc : c ≠ '\u03A3' := fun e => h.1 e.symm
      simp [lowerAfter, hc, ih (c :: before) h.2]

end SearchQuery.Text
