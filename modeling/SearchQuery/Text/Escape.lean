/-!
# Backslash escapes

In query text a backslash takes the character after it literally. `unescape` drops the
backslashes; one that ends the text is dropped with nothing to protect.
-/

namespace SearchQuery.Text

def unescapeChars : List Char → List Char
  | [] => []
  | ['\\'] => []
  | '\\' :: c :: rest => c :: unescapeChars rest
  | c :: rest => c :: unescapeChars rest

def unescape (raw : String) : String :=
  String.ofList (unescapeChars raw.toList)

@[simp] theorem unescapeChars_escaped (c : Char) (rest : List Char) :
    unescapeChars ('\\' :: c :: rest) = c :: unescapeChars rest := by
  rw [unescapeChars]

theorem unescapeChars_cons {c : Char} (h : c ≠ '\\') (rest : List Char) :
    unescapeChars (c :: rest) = c :: unescapeChars rest := by
  rw [unescapeChars] <;> simp_all

end SearchQuery.Text
