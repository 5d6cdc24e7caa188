import SearchQuery.Unicode.Age
import SearchQuery.Unicode.Break

/-!
# Classes of characters by property

A pattern may name a class of characters by a Unicode property: by one name, as in
`\p{Greek}`, or by a property and a value, as in `\p{script=Greek}`. Letter case,
blanks, hyphens, low lines and a leading `is` do not count in a name. `Property.ofQuery?` finds the
class that a name stands for; a name that it does not know makes a pattern invalid.

A single name is looked for among the binary properties, then the general categories, then the
scripts. The surrogates are a category without characters, and there is no class for it.
-/

namespace SearchQuery.Pattern.Property

open Unicode

/-- A name without what does not count in it. The letter `c` is not taken for a name with a
leading `is`, because that would be the name of an annotation. -/
def normalize (name : List Char) : List Char :=
  let (marked, body) := match name with
    | a :: b :: rest =>
        if a.toLower = 'i' && b.toLower = 's' then (true, rest) else (false, name)
    | _ => (false, name)
  let letters := body.filter (fun c => c.toNat < 0x80 && c ∉ [' ', '_', '-'])
  let core := letters.map Char.toLower
  if marked && core = ['c'] then ['i', 's', 'c'] else core

def splitAtFirst? (separator : List Char) : List Char → Option (List Char × List Char)
  | [] => none
  | c :: rest =>
      if separator.isPrefixOf (c :: rest) then some ([], (c :: rest).drop separator.length)
      else (splitAtFirst? separator rest).map fun (before, after) => (c :: before, after)

def valueOf? {α : Type} (table : List (List String × α)) (key : String) : Option α :=
  (table.find? (key ∈ ·.1)).map (·.2)

def ofName? (name : List Char) : Option CodeSet :=
  let key := String.ofList (normalize name)
  match BinaryProperty.named? key with
  | some property => some property.codes
  | none => match Category.named? key with
    | some codes => some codes
    | none => (Script.named? key).map Script.codes

def ofNameAndValue? (name value : List Char) : Option CodeSet :=
  let key := String.ofList (normalize name)
  let entry := String.ofList (normalize value)
  if key ∈ ["gc", "generalcategory"] then Category.named? entry
  else if key ∈ ["sc", "script"] then (Script.named? entry).map Script.codes
  else if key ∈ ["scx", "scriptextensions"] then (Script.named? entry).map Script.extensions
  else if key = "age" then Age.named? entry
  else if key ∈ ["gcb", "graphemeclusterbreak"] then
    (valueOf? GraphemeBreak.named entry).map GraphemeBreak.codes
  else if key ∈ ["wb", "wordbreak"] then (valueOf? WordBreak.named entry).map WordBreak.codes
  else if key ∈ ["sb", "sentencebreak"] then
    (valueOf? SentenceBreak.named entry).map SentenceBreak.codes
  else none

/-- The class that is asked for by a name, or by a name and a value with a sign between them. -/
def ofQuery? (query : List Char) : Option CodeSet :=
  match splitAtFirst? ['!', '='] query with
  | some (name, value) => ofNameAndValue? name value
  | none => match splitAtFirst? [':'] query with
    | some (name, value) => ofNameAndValue? name value
    | none => match splitAtFirst? ['='] query with
      | some (name, value) => ofNameAndValue? name value
      | none => ofName? query

end SearchQuery.Pattern.Property
