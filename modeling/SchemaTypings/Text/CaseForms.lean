import SchemaTypings.Text.Chart
import SchemaTypings.Text.RangeSet

/-! # Case forms

Characters that differ in case only, one for one, as of version 16 of the standard.  Most of them
are pairs, a fixed distance apart; the others are listed as they belong together.
-/
namespace SchemaTypings
namespace Text
namespace CaseForms

/-- The lower ones of pairs, by the distance to the other one. -/
def pairListing : String := "
  1: 100~12E 132~136 139~147 14A~176 179~17D 182 184 187 18B 191 198 1A0~1A4 1A7 1AC 1AF 1B3 1B5 1B8
    1BC 1CD~1DB 1DE~1EE 1F4 1F8~21E 222~232 23B 241 246~24E 370 372 376 3D8~3EE 3F7 3FA 460 464~480
    48A~4BE 4C1~4CD 4D0~52E 1C89 1E00~1E5E 1E62~1E94 1EA0~1EFE 2183 2C60 2C67~2C6B 2C72 2C75
    2C80~2CE2 2CEB 2CED 2CF2 A640~A648 A64C~A66C A680~A69A A722~A72E A732~A76E A779 A77B A77E~A786
    A78B A790 A792 A796~A7A8 A7B4~A7C2 A7C7 A7C9 A7CC A7D0 A7D6~A7DA A7F5 FB05;
  7: 3F2 1FE5;
  8: 3CF 13F0-13F5 1F00-1F07 1F10-1F15 1F20-1F27 1F30-1F37 1F40-1F45 1F51~1F57 1F60-1F67 1F80-1F87
    1F90-1F97 1FA0-1FA7 1FB0-1FB1 1FD0-1FD1 1FE0-1FE1;
  9: 1FB3 1FC3 1FF3;
  F: 4C0;
  10: 2160-216F;
  1A: 24B6-24CF;
  1C: 2132;
  20: 41-4A 4C-52 54-5A C0-C4 C6-D6 D8-DE 391 393-394 396-397 39B 39D-39F 3A4-3A5 3A7-3A8 3AA-3AB
    410-411 413 415-41D 41F-420 423-429 42B-42F FF21-FF3A 10D50-10D65 118A0-118BF 16E40-16E5F;
  22: 1E900-1E921;
  25: 388-38A;
  26: 386;
  27: 10570-1057A 1057C-1058A 1058C-10592 10594-10595;
  28: 10400-10427 104B0-104D3;
  30: 531-556 2C00-2C2F A794;
  38: 1BF;
  3F: 38E-38F;
  40: 38C 10C80-10CB2;
  45: 244;
  47: 245;
  4A: 1F70-1F71;
  4F: 18E;
  50: 400-40F;
  56: 1F72-1F75;
  61: 195;
  64: 1F76-1F77;
  70: 1F7A-1F7B;
  74: 37F;
  79: FF;
  7E: 1F7C-1F7D;
  80: 1F78-1F79;
  82: 19E 37B-37D;
  A3: 19A;
  C3: 180;
  CA: 18F;
  CB: 190;
  CD: 189-18A 193;
  CE: 186;
  CF: 194;
  D1: 197;
  D2: 181;
  D3: 196 19C;
  D5: 19D;
  D6: 19F;
  D9: 1B1-1B2;
  DA: 1A6 1A9 1AE;
  DB: 1B7;
  3A0: A7B3;
  BC0: 10D0-10FA 10FD-10FF;
  EE6: 1D7D;
  1C33: 3B0;
  1C43: 390;
  1C60: 10A0-10C5 10C7 10CD;
  1DBF: DF;
  29E7: 27D;
  29F7: 26B;
  29FD: 271;
  2A1C: 251;
  2A1E: 252;
  2A1F: 250;
  2A28: 23E;
  2A2B: 23A;
  2A3F: 23F-240;
  8A04: 1D79;
  8A38: 1D8E;
  97D0: 13A0-13EF;
  A512: 29E;
  A515: 29D;
  A528: 265;
  A52A: 287;
  A541: 26C;
  A543: 282;
  A544: 266 26A;
  A54B: 261;
  A54F: 25C;
  A567: 264;
  A641: 19B"

/-- Three and more characters that belong together. -/
def familyTable : String := "
  4B.6B.212A 53.73.17F B5.39C.3BC C5.E5.212B 1C4.1C5.1C6 1C7.1C8.1C9 1CA.1CB.1CC 1F1.1F2.1F3
  345.399.3B9.1FBE 392.3B2.3D0 395.3B5.3F5 398.3B8.3D1.3F4 39A.3BA.3F0 3A0.3C0.3D6 3A1.3C1.3F1
  3A3.3C2.3C3 3A6.3C6.3D5 3A9.3C9.2126 412.432.1C80 414.434.1C81 41E.43E.1C82 421.441.1C83
  422.442.1C84.1C85 42A.44A.1C86 462.463.1C87 1C88.A64A.A64B 1E60.1E61.1E9B"

/-- A character and those that differ from it in case only. -/
structure Forms where
  point : Nat
  others : List Nat

/-- The two members of a pair, each with the other one. -/
def ofPair (low high : Nat) : List Forms := [⟨low, [high]⟩, ⟨high, [low]⟩]

/-- The pairs of a table, whose name is their distance. -/
def ofListed (listed : Listed) : List Forms :=
  let distance := ofHex ((listed.names.headD "").toList)
  (Ranges.ofTable listed.table).flatMap fun range =>
    (List.range (range.2 + 1 - range.1)).flatMap fun i =>
      ofPair (range.1 + i) (range.1 + i + distance)

/-- The members of a family, each with the other ones. -/
def ofFamily (family : List Nat) : List Forms :=
  family.map fun point => ⟨point, family.filter (· ≠ point)⟩

/-- All characters that have other forms, in increasing order. -/
def all : List Forms :=
  List.mergeSort
    ((listing pairListing).flatMap ofListed ++
      (entries familyTable).flatMap fun family => ofFamily ((codePoints family).map Char.toNat))
    fun a b => a.point ≤ b.point

/-- The other forms of the members of a set. -/
def others : Ranges → List Forms → Ranges
  | [], _ | _, [] => []
  | range :: ranges, forms :: rest =>
    if forms.point < range.1 then others (range :: ranges) rest
    else if range.2 < forms.point then others ranges (forms :: rest)
    else forms.others.map (fun n => (n, n)) ++ others (range :: ranges) rest
termination_by ranges forms => ranges.length + forms.length

end CaseForms

/-- **A set with all case forms of its members.** -/
def Ranges.withCaseForms (set : Ranges) : Ranges :=
  Ranges.union set (CaseForms.others set CaseForms.all)

end Text
end SchemaTypings
