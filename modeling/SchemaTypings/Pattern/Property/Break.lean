import SchemaTypings.Pattern.Property.Script
import SchemaTypings.Pattern.Property.Trait

/-! # Breaks

How a text falls into characters as they are seen, into words and into sentences is told by one
class of each character for each of the three, as of version 16 of the standard.  The classes follow
from general categories, scripts and traits; what does not is listed here.
-/
namespace SchemaTypings
namespace Pattern
namespace Property

open Text (Ranges)

/-- Characters that the classes of breaks single out. -/
def breakListing : String := "
  prefixed: D4E 111C2-111C3 113D1 1193F 11941 11A3A 11A84-11A89 11D46 11F02;
  free: 102B-102C 1038 1062-1064 1067-106D 1083 1087-108C 108F 109A-109C 1A61 1A63-1A64 AA7B AA7D
    11720-11721;
  lead: 1100-115F A960-A97C;
  vowel: 1160-11A7 D7B0-D7C6 16D63 16D67-16D6A;
  tail: 11A8-11FF D7CB-D7FB;
  katakana: 3031-3035 309B-309C 30A0-30FA 30FC-30FF 31F0-31FF 32D0-32FE 3300-3357 FF66-FF9D
    1AFF0-1AFF3 1AFF5-1AFFB 1AFFD-1AFFE 1B000 1B120-1B122 1B155 1B164-1B167;
  hebrew: 5D0-5EA 5EF-5F2 FB1D FB1F-FB28 FB2A-FB36 FB38-FB3C FB3E FB40-FB41 FB43-FB44 FB46-FB4F;
  lettered: 2C2-2C5 2D2-2D7 2DE-2DF 2E5-2EB 2ED 2EF-2FF 55A-55C 55E 58A 5F3 70F A708-A716 A720-A721
    A789-A78A AB5B;
  unspaced: E01-E30 E32-E33 E40-E46 E81-E82 E84 E86-E8A E8C-EA3 EA5 EA7-EB0 EB2-EB3 EBD EC0-EC4 EC6
    EDC-EDF 1000-102A 103F 1050-1055 105A-105D 1061 1065-1066 106E-1070 1075-1081 108E 1780-17B3
    17D7 17DC 1950-196D 1970-1974 1980-19AB 19B0-19C9 1A20-1A54 1AA7 A9E0-A9E4 A9E6-A9EF A9FA-A9FE
    AA60-AA76 AA7A AA7E-AAAF AAB1 AAB5-AAB6 AAB9-AABD AAC0 AAC2 AADB-AADD 11700-1171A 11740-11746;
  midnum: 2C 3B 37E 589 60C-60D 66C 7F8 2044 FE10 FE14 FE50 FE54 FF0C FF1B;
  extendnumlet: 5F 202F 203F-2040 2054 FE33-FE34 FE4D-FE4F FF3F;
  midletter: 3A B7 387 55F 5F4 2027 FE13 FE55 FF1A;
  midnumlet: 2E 2018-2019 2024 FE52 FF07 FF0E;
  newline: B-C 85 2028-2029;
  blank: 20 1680 2000-2006 2008-200A 205F 3000;
  scontinue: 2C-2D 3A-3B 37E 55D 60C-60D 7F8 1802 1808 2013-2014 3001 FE10-FE11 FE13-FE14 FE31-FE32
    FE50-FE51 FE54-FE55 FE58 FE63 FF0C-FF0D FF1A-FF1B FF64;
  quotation: 22 27 275B-2760 2E00-2E01 2E06-2E08 2E0B 1F676-1F678;
  unicameralsmall: 10D0-10FA 10FD-10FF;
  unicameralcapital: 1C90-1CBA 1CBD-1CBF"

/-- The listed characters as tables. -/
def breakTables : List Text.Listed := Text.listing breakListing

/-- The listed characters of a name. -/
def singled (name : String) : Ranges := Text.rangesOf breakTables name

/-- The joiner of width zero. -/
def joiner : Ranges := [(0x200D, 0x200D)]

/-- Syllables of two letters; those of three fill the gaps behind each of them. -/
def syllables : Ranges :=
  (List.range 399).map fun i => (0xAC00 + 28 * i, 0xAC00 + 28 * i)

/-- Marks that take room of their own. -/
def spacing : Ranges := without (category ["mc"]) [graphemeExtend]

/-- **The characters of a class of breaks between characters.** -/
def clusterBreak? : String → Option Ranges
  | "cr" => some [(0xD, 0xD)]
  | "lf" => some [(0xA, 0xA)]
  | "cn" | "control" =>
    some (without
      (anyOf [category ["zl", "zp", "cc", "cf"],
        Ranges.intersection unassigned defaultIgnorable])
      [listed "pcm", joiner, [(0xA, 0xA), (0xD, 0xD)], graphemeExtend])
  | "ex" | "extend" => some (anyOf [graphemeExtend, listed "emod"])
  | "l" => some (singled "lead")
  | "lv" => some syllables
  | "lvt" => some (without [(0xAC00, 0xD7A3)] [syllables])
  | "pp" | "prepend" => some (anyOf [singled "prefixed", listed "pcm"])
  | "ri" | "regionalindicator" => some (listed "ri")
  | "sm" | "spacingmark" =>
    some (without (anyOf [category ["mc"], [(0xE33, 0xE33), (0xEB3, 0xEB3)]])
      [graphemeExtend, singled "free", [(0x16D63, 0x16D63)]])
  | "t" => some (singled "tail")
  | "v" => some (singled "vowel")
  | "zwj" => some joiner
  | _ => none

/-- Numbers, as words are made of. -/
def wordNumeric : Ranges :=
  anyOf [category ["nd"], [(0x66B, 0x66B)], without (listed "pcm") [[(0x70F, 0x70F)]]]

/-- Letters, as words are made of. -/
def wordLetter : Ranges :=
  without (anyOf [alphabetic, singled "lettered"])
    [listed "ideo", singled "katakana", Text.rangesOf scriptTables "hira", graphemeExtend, spacing,
      singled "hebrew", singled "unspaced"]

/-- **The characters of a class of breaks between words.** -/
def wordBreak? : String → Option Ranges
  | "le" | "aletter" => some wordLetter
  | "cr" => some [(0xD, 0xD)]
  | "lf" => some [(0xA, 0xA)]
  | "dq" | "doublequote" => some [(0x22, 0x22)]
  | "sq" | "singlequote" => some [(0x27, 0x27)]
  | "extend" => some (without (anyOf [graphemeExtend, category ["mc"], listed "emod"]) [joiner])
  | "ex" | "extendnumlet" => some (singled "extendnumlet")
  | "fo" | "format" =>
    some (without (category ["cf"])
      [graphemeExtend, listed "pcm", [(0x200B, 0x200B)], joiner])
  | "hl" | "hebrewletter" => some (singled "hebrew")
  | "ka" | "katakana" => some (singled "katakana")
  | "ml" | "midletter" => some (singled "midletter")
  | "mn" | "midnum" => some (singled "midnum")
  | "mb" | "midnumlet" => some (singled "midnumlet")
  | "nl" | "newline" => some (singled "newline")
  | "nu" | "numeric" => some wordNumeric
  | "ri" | "regionalindicator" => some (listed "ri")
  | "wsegspace" => some (singled "blank")
  | "zwj" => some joiner
  | _ => none

/-- Marks and joiners, as sentences pass over them. -/
def sentenceExtend : Ranges := anyOf [graphemeExtend, category ["mc"], joiner]

/-- Numbers, as sentences are made of. -/
def sentenceNumeric : Ranges := anyOf [wordNumeric, [(0x66C, 0x66C)]]

/-- Small letters, as sentences are made of. -/
def sentenceLower : Ranges := without lowercase [graphemeExtend, singled "unicameralsmall"]

/-- Capital letters, as sentences are made of. -/
def sentenceUpper : Ranges :=
  without (anyOf [uppercase, category ["lt"]]) [singled "unicameralcapital"]

/-- Full stops, which may also stand inside a sentence. -/
def fullStops : Ranges := Ranges.ofTable "2E 2024 FE52 FF0E"

/-- Signs that end a sentence. -/
def sentenceEnds : Ranges := without (listed "sterm") [fullStops]

/-- **The characters of a class of breaks between sentences.** -/
def sentenceBreak? : String → Option Ranges
  | "at" | "aterm" => some fullStops
  | "cl" | "close" =>
    some (without (anyOf [category ["ps", "pe", "pi", "pf"], singled "quotation"]) [sentenceEnds])
  | "cr" => some [(0xD, 0xD)]
  | "lf" => some [(0xA, 0xA)]
  | "ex" | "extend" => some sentenceExtend
  | "fo" | "format" => some (without (category ["cf"]) [graphemeExtend, joiner, sentenceNumeric])
  | "lo" | "lower" => some sentenceLower
  | "up" | "upper" => some sentenceUpper
  | "le" | "oletter" =>
    some (without (anyOf [alphabetic, [(0xA0, 0xA0), (0x5F3, 0x5F3)]])
      [sentenceLower, sentenceUpper, sentenceExtend])
  | "nu" | "numeric" => some sentenceNumeric
  | "sc" | "scontinue" => some (singled "scontinue")
  | "se" | "sep" => some (Ranges.ofTable "85 2028-2029")
  | "sp" =>
    some (without (listed "wspace") [Ranges.ofTable "A D 85 A0 2028-2029"])
  | "st" | "sterm" => some sentenceEnds
  | _ => none

end Property
end Pattern
end SchemaTypings
