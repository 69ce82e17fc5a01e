import SchemaTypings.Pattern.Property.Age
import SchemaTypings.Pattern.Property.Break

/-! # Names of character properties

A pattern may ask for the characters with a property: by a bare name, which is a yes-or-no property,
a general category or a script, or by the name of a property and one of its values.  Names are
compared loosely: a leading `is`, blanks, underscores, hyphens, letter case and characters beyond
ASCII do not count.
-/
namespace SchemaTypings
namespace Pattern

/-- A demand for the characters with a property. -/
inductive Property where
  /-- A bare name. -/
  | named (name : List Char)
  /-- A property and its value. -/
  | valued (name value : List Char)
  deriving DecidableEq, Repr

namespace Property

open Text (Ranges)

/-- The text without a leading `is`, in any case. -/
def withoutIs : List Char → List Char
  | 'i' :: 's' :: rest | 'I' :: 'S' :: rest | 'i' :: 'S' :: rest | 'I' :: 's' :: rest => rest
  | name => name

/-- The characters of a name that count, in small letters. -/
def significant (name : List Char) : String :=
  String.ofList (name.filterMap fun c =>
    if c = ' ' || c = '_' || c = '-' || 0x80 ≤ c.toNat then none else some c.toLower)

/-- The loose form of a name.  `isc` keeps its first letters, being a name of its own and no
spelling of `c`. -/
def loose (name : List Char) : String :=
  let bare := withoutIs name
  if bare ≠ name ∧ significant bare = "c" then "isc" else significant bare

/-- The characters with a value of a property, both by their loose names. -/
def value? : String → String → Option Ranges
  | "gc", value | "generalcategory", value => category? value
  | "sc", value | "script", value => script? value
  | "scx", value | "scriptextensions", value => scriptExtension? value
  | "age", value => age? value
  | "gcb", value | "graphemeclusterbreak", value => clusterBreak? value
  | "wb", value | "wordbreak", value => wordBreak? value
  | "sb", value | "sentencebreak", value => sentenceBreak? value
  | _, _ => none

/-- **The characters with a property**, if there is such a property. -/
def characters? : Property → Option Ranges
  | named name => trait? (loose name) <|> category? (loose name) <|> script? (loose name)
  | valued name value => value? (loose name) (loose value)

/-- Decimal digits. -/
def digits : Ranges := category ["nd"]

/-- Blanks and line breaks. -/
def blanks : Ranges := listed "wspace"

/-- Characters that words are made of. -/
def wordCharacters : Ranges :=
  anyOf [alphabetic, category ["mn", "mc", "me", "nd", "pc"], listed "joinc"]

end Property

end Pattern
end SchemaTypings
