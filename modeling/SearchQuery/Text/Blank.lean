import SearchQuery.Text.CodePoint

/-!
# Blank characters

A character is blank when it has the Unicode property `White_Space`. The zero width space, the
byte order mark and the information separators do not have it, so they are ordinary characters of
a term.
-/

namespace SearchQuery.Text

def blankRanges : List CodeRange :=
  [⟨0x09, 0x0D⟩, ⟨0x20, 0x20⟩, ⟨0x85, 0x85⟩, ⟨0xA0, 0xA0⟩, ⟨0x1680, 0x1680⟩, ⟨0x2000, 0x200A⟩,
    ⟨0x2028, 0x2029⟩, ⟨0x202F, 0x202F⟩, ⟨0x205F, 0x205F⟩, ⟨0x3000, 0x3000⟩]

def isBlank (c : Char) : Bool :=
  CodeRange.anyContains blankRanges c

def trimBlanks (cs : List Char) : List Char :=
  ((cs.dropWhile isBlank).reverse.dropWhile isBlank).reverse

theorem isBlank_space : isBlank ' ' = true := by decide

end SearchQuery.Text
