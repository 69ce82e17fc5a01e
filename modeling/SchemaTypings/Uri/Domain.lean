import SchemaTypings.Text.Composed
import SchemaTypings.Uri.Domain.Direction
import SchemaTypings.Uri.Domain.Folding
import SchemaTypings.Uri.Domain.Joiner
import SchemaTypings.Uri.Punycode

/-! # Domain names

A domain name is brought to ASCII label by label: characters are folded and composed, the labels
are checked, and a label beyond ASCII is written in Punycode behind `xn--`.  A label that comes
with that mark must be the Punycode of a label that folding and composing leave as it is.
-/
namespace SchemaTypings
namespace Uri
namespace Domain

/-- Whether a character is one of ASCII. -/
def isAscii (c : Char) : Bool := c.toNat < 0x80

/-- ASCII characters that no domain name holds. -/
def isForbidden (c : Char) : Bool :=
  c.toNat ≤ 0x20 || c.toNat = 0x7F ||
    c ∈ ['%', '#', '/', ':', '<', '>', '?', '@', '[', '\\', ']', '^', '|']

/-- The mark of a label in Punycode. -/
def mark : List Char := ['x', 'n', '-', '-']

/-- The most characters that a label beyond ASCII may have. -/
def maxLength : Nat := 1000

/-- The most characters that Punycode may have. -/
def maxEncodedLength : Nat := 2000

/-- A label of a domain name: what it means, and how it is written in ASCII. -/
structure Label where
  meaning : List Char
  ascii : List Char

/-- Whether a label has no mark in front, has its joiners where they belong, and is not too long. -/
def isWellFormed (label : List Char) : Bool :=
  !(label.head?.any Text.isMark) && joinersFit [] label &&
    (label.all isAscii || label.length ≤ maxLength)

/-- The label whose Punycode is `encoded`. -/
def Label.ofEncoded? (encoded : List Char) : Option Label :=
  if !encoded.all isAscii || encoded.isEmpty || encoded.getLast? = some '-' ||
      maxEncodedLength < encoded.length then none
  else match Punycode.decode? encoded with
    | none => none
    | some meaning =>
      if meaning.all (fun c => isFolded c && !isForbidden c && c ≠ '.') &&
          Text.composed meaning = meaning && isWellFormed meaning then
        some ⟨meaning, mark ++ encoded⟩
      else none

/-- The label that folded and composed text writes. -/
def Label.ofFolded? (label : List Char) : Option Label :=
  if mark.isPrefixOf label then Label.ofEncoded? (label.drop 4)
  else if !isWellFormed label then none
  else if label.all isAscii then some ⟨label, label⟩
  else some ⟨label, mark ++ Punycode.encode label⟩

/-- The labels of a stretch of a name without full stops; other characters may fold to one. -/
def labels? (stretch : List Char) : Option (List Label) := do
  let folded ←
    if stretch.all isAscii then some (stretch.map Char.toLower)
    else (stretch.mapM fold?).map fun images => Text.composed images.flatten
  if mark.isPrefixOf folded && stretch.all isAscii then
    return [← Label.ofEncoded? (folded.drop 4)]
  else if folded.any isForbidden then none
  else (Text.pieces (· = '.') folded).mapM Label.ofFolded?

/-- **The ASCII form of a domain name**, if it has one. -/
def toAscii? (name : List Char) : Option (List Char) := do
  let labels := (← (Text.pieces (· = '.') name).mapM labels?).flatten
  if keepDirections (labels.map Label.meaning) then
    return ['.'].intercalate (labels.map Label.ascii)
  else none

end Domain
end Uri
end SchemaTypings
