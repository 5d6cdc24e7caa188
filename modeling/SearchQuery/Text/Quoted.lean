import SearchQuery.Text.HiddenTable

/-!
# Text between quotation marks

Messages show a piece of query text between quotation marks, so that blanks and invisible
characters can be seen. The mark itself and the backslash are protected by a backslash; the
tabulator, the line ends and the null character have short names; any other character without a
shape of its own is written by its number in hexadecimal digits.
-/

namespace SearchQuery.Text

def isHidden (c : Char) : Bool :=
  if 0x20 ≤ c.toNat && c.toNat < 0x7F then false else CodeRange.anyContains hiddenRanges c

def quoteChar (c : Char) : List Char :=
  if c = '\x00' then ['\\', '0']
  else if c = '\t' then ['\\', 't']
  else if c = '\r' then ['\\', 'r']
  else if c = '\n' then ['\\', 'n']
  else if c = '\\' || c = '"' then ['\\', c]
  else if isHidden c then
    ['\\', 'u', '\x7b'] ++ Nat.toDigits 16 c.toNat ++ ['\x7d']
  else [c]

def quote (s : String) : String :=
  String.ofList ('"' :: s.toList.flatMap quoteChar ++ ['"'])

end SearchQuery.Text
