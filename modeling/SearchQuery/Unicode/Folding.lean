import SearchQuery.Unicode.Table

/-!
# Letters that differ in case alone

Where case does not count, characters that fold to one and the same character stand for each
other. `Folding.pairs` has each character that folds to another one, and `CodeSet.folded` adds to
a set all characters that stand for one of its members.
-/

namespace SearchQuery.Unicode

namespace Folding

/-- Code points that fold to others: those of a word, as in the tables of sets, fold to as many
that start with a number and are equally far apart. -/
def runs : List (String × Nat) :=
  [ ("41-5A", 0x61), ("B5", 0x3BC), ("C0-D6", 0xE0), ("D8-DE", 0xF8), ("100-12E:2", 0x101),
    ("132-136:2", 0x133), ("139-147:2", 0x13A), ("14A-176:2", 0x14B), ("178", 0xFF),
    ("179-17D:2", 0x17A), ("17F", 0x73), ("181", 0x253), ("182-184:2", 0x183), ("186", 0x254),
    ("187", 0x188), ("189-18A", 0x256), ("18B", 0x18C), ("18E", 0x1DD), ("18F", 0x259),
    ("190", 0x25B), ("191", 0x192), ("193", 0x260), ("194", 0x263), ("196", 0x269), ("197", 0x268),
    ("198", 0x199), ("19C", 0x26F), ("19D", 0x272), ("19F", 0x275), ("1A0-1A4:2", 0x1A1),
    ("1A6", 0x280), ("1A7", 0x1A8), ("1A9", 0x283), ("1AC", 0x1AD), ("1AE", 0x288), ("1AF", 0x1B0),
    ("1B1-1B2", 0x28A), ("1B3-1B5:2", 0x1B4), ("1B7", 0x292), ("1B8", 0x1B9), ("1BC", 0x1BD),
    ("1C4", 0x1C6), ("1C5", 0x1C6), ("1C7", 0x1C9), ("1C8", 0x1C9), ("1CA", 0x1CC),
    ("1CB-1DB:2", 0x1CC), ("1DE-1EE:2", 0x1DF), ("1F1", 0x1F3), ("1F2-1F4:2", 0x1F3),
    ("1F6", 0x195), ("1F7", 0x1BF), ("1F8-21E:2", 0x1F9), ("220", 0x19E), ("222-232:2", 0x223),
    ("23A", 0x2C65), ("23B", 0x23C), ("23D", 0x19A), ("23E", 0x2C66), ("241", 0x242),
    ("243", 0x180), ("244", 0x289), ("245", 0x28C), ("246-24E:2", 0x247), ("345", 0x3B9),
    ("370-372:2", 0x371), ("376", 0x377), ("37F", 0x3F3), ("386", 0x3AC), ("388-38A", 0x3AD),
    ("38C", 0x3CC), ("38E-38F", 0x3CD), ("391-3A1", 0x3B1), ("3A3-3AB", 0x3C3), ("3C2", 0x3C3),
    ("3CF", 0x3D7), ("3D0", 0x3B2), ("3D1", 0x3B8), ("3D5", 0x3C6), ("3D6", 0x3C0),
    ("3D8-3EE:2", 0x3D9), ("3F0", 0x3BA), ("3F1", 0x3C1), ("3F4", 0x3B8), ("3F5", 0x3B5),
    ("3F7", 0x3F8), ("3F9", 0x3F2), ("3FA", 0x3FB), ("3FD-3FF", 0x37B), ("400-40F", 0x450),
    ("410-42F", 0x430), ("460-480:2", 0x461), ("48A-4BE:2", 0x48B), ("4C0", 0x4CF),
    ("4C1-4CD:2", 0x4C2), ("4D0-52E:2", 0x4D1), ("531-556", 0x561), ("10A0-10C5", 0x2D00),
    ("10C7", 0x2D27), ("10CD", 0x2D2D), ("13F8-13FD", 0x13F0), ("1C80", 0x432), ("1C81", 0x434),
    ("1C82", 0x43E), ("1C83-1C84", 0x441), ("1C85", 0x442), ("1C86", 0x44A), ("1C87", 0x463),
    ("1C88", 0xA64B), ("1C89", 0x1C8A), ("1C90-1CBA", 0x10D0), ("1CBD-1CBF", 0x10FD),
    ("1E00-1E94:2", 0x1E01), ("1E9B", 0x1E61), ("1E9E", 0xDF), ("1EA0-1EFE:2", 0x1EA1),
    ("1F08-1F0F", 0x1F00), ("1F18-1F1D", 0x1F10), ("1F28-1F2F", 0x1F20), ("1F38-1F3F", 0x1F30),
    ("1F48-1F4D", 0x1F40), ("1F59-1F5F:2", 0x1F51), ("1F68-1F6F", 0x1F60), ("1F88-1F8F", 0x1F80),
    ("1F98-1F9F", 0x1F90), ("1FA8-1FAF", 0x1FA0), ("1FB8-1FB9", 0x1FB0), ("1FBA-1FBB", 0x1F70),
    ("1FBC", 0x1FB3), ("1FBE", 0x3B9), ("1FC8-1FCB", 0x1F72), ("1FCC", 0x1FC3), ("1FD3", 0x390),
    ("1FD8-1FD9", 0x1FD0), ("1FDA-1FDB", 0x1F76), ("1FE3", 0x3B0), ("1FE8-1FE9", 0x1FE0),
    ("1FEA-1FEB", 0x1F7A), ("1FEC", 0x1FE5), ("1FF8-1FF9", 0x1F78), ("1FFA-1FFB", 0x1F7C),
    ("1FFC", 0x1FF3), ("2126", 0x3C9), ("212A", 0x6B), ("212B", 0xE5), ("2132", 0x214E),
    ("2160-216F", 0x2170), ("2183", 0x2184), ("24B6-24CF", 0x24D0), ("2C00-2C2F", 0x2C30),
    ("2C60", 0x2C61), ("2C62", 0x26B), ("2C63", 0x1D7D), ("2C64", 0x27D), ("2C67-2C6B:2", 0x2C68),
    ("2C6D", 0x251), ("2C6E", 0x271), ("2C6F", 0x250), ("2C70", 0x252), ("2C72", 0x2C73),
    ("2C75", 0x2C76), ("2C7E-2C7F", 0x23F), ("2C80-2CE2:2", 0x2C81), ("2CEB-2CED:2", 0x2CEC),
    ("2CF2", 0x2CF3), ("A640-A66C:2", 0xA641), ("A680-A69A:2", 0xA681), ("A722-A72E:2", 0xA723),
    ("A732-A76E:2", 0xA733), ("A779-A77B:2", 0xA77A), ("A77D", 0x1D79), ("A77E-A786:2", 0xA77F),
    ("A78B", 0xA78C), ("A78D", 0x265), ("A790-A792:2", 0xA791), ("A796-A7A8:2", 0xA797),
    ("A7AA", 0x266), ("A7AB", 0x25C), ("A7AC", 0x261), ("A7AD", 0x26C), ("A7AE", 0x26A),
    ("A7B0", 0x29E), ("A7B1", 0x287), ("A7B2", 0x29D), ("A7B3", 0xAB53), ("A7B4-A7C2:2", 0xA7B5),
    ("A7C4", 0xA794), ("A7C5", 0x282), ("A7C6", 0x1D8E), ("A7C7-A7C9:2", 0xA7C8), ("A7CB", 0x264),
    ("A7CC", 0xA7CD), ("A7D0", 0xA7D1), ("A7D6-A7DA:2", 0xA7D7), ("A7DC", 0x19B), ("A7F5", 0xA7F6),
    ("AB70-ABBF", 0x13A0), ("FB05", 0xFB06), ("FF21-FF3A", 0xFF41), ("10400-10427", 0x10428),
    ("104B0-104D3", 0x104D8), ("10570-1057A", 0x10597), ("1057C-1058A", 0x105A3),
    ("1058C-10592", 0x105B3), ("10594-10595", 0x105BB), ("10C80-10CB2", 0x10CC0),
    ("10D50-10D65", 0x10D70), ("118A0-118BF", 0x118C0), ("16E40-16E5F", 0x16E60),
    ("1E900-1E921", 0x1E922) ]

def pairs : List (Nat × Nat) :=
  runs.flatMap fun (word, target) =>
    match Stride.ofWord? word.toList with
    | none => []
    | some stride =>
        stride.members.map fun n => (n, target + (n - stride.first))

end Folding

/-- The set with all characters that differ from a member in case alone. -/
def CodeSet.folded (s : CodeSet) : CodeSet :=
  let met := Folding.pairs.filter fun (source, target) => s.contains source || s.contains target
  let targets := met.map (·.2)
  let sources := (Folding.pairs.filter fun (_, target) => target ∈ targets).map (·.1)
  s.union (.ofList (targets ++ sources))

/-- The set of ASCII with all letters of ASCII that differ from a member in case alone. -/
def CodeSet.foldedAscii (s : CodeSet) : CodeSet :=
  let capitals := (s.inter (.span 0x41 0x5A)).ranges
  let small := (s.inter (.span 0x61 0x7A)).ranges
  .ofRanges (s.ranges ++ capitals.map (fun r => ⟨r.first + 0x20, r.last + 0x20⟩)
    ++ small.map fun r => ⟨r.first - 0x20, r.last - 0x20⟩)

end SearchQuery.Unicode
