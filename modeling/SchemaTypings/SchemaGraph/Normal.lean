import SchemaTypings.Options
import SchemaTypings.Json.Text
import SchemaTypings.SchemaGraph

/-! # Normal schemas

Normalization brings each node to one form per concept.  Its rules run once per node, in order:
descriptions by the caller's choice, a redundant null type dropped, a constant as an enumeration of
one value, property keys rewritten, `additionalProperties` filled in, and array bounds turned into
tuples within the caller's cap.
-/
namespace SchemaTypings
namespace SchemaNode

/-! ### Descriptions -/

/-- Whether the description of a node is kept. -/
def keepsDescription (d : Descriptions) (isRoot : Bool) : Bool :=
  match d with
  | .keep => true
  | .omitRoot => !isRoot
  | .omitAll => false

/-- Drops the description of a node unless it is kept. -/
def withDescriptions (kept : Bool) (n : SchemaNode) : SchemaNode :=
  if kept then n else n.dropKeyword "description"

/-- Text in which nothing ends a comment: a backslash stands inside every end mark. -/
def escapeCommentEnd : List Char → List Char
  | '*' :: '/' :: rest => '*' :: '\\' :: '/' :: escapeCommentEnd rest
  | c :: rest => c :: escapeCommentEnd rest
  | [] => []

/-- Escapes the end marks of comments in the description. -/
def escapeDescription (n : SchemaNode) : SchemaNode :=
  match n.description? with
  | some text =>
    n.setKeyword "description" (.string (String.ofList (escapeCommentEnd text.toList)))
  | none => n

/-! ### Types and values -/

/-- Whether the only value listed is `null`. -/
def listsOnlyNull (n : SchemaNode) : Bool :=
  match n.enumValues? with
  | some [.null] => true
  | _ => false

/-- Drops the type `null` where the only value listed is `null`. -/
def dropNullType (n : SchemaNode) : SchemaNode :=
  if n.listsOnlyNull ∧ n.types = ["null"] then n.dropKeyword "type" else n

/-- A constant as an enumeration of one value. -/
def constantAsEnum (n : SchemaNode) : SchemaNode :=
  match n.keyword? "const" with
  | some value => (n.dropKeyword "const").setKeyword "enum" (.array [value])
  | none => n

/-! ### Property keys -/

/-- Whether the characters of `part` stand in `text` one after the other. -/
def occursIn (part : List Char) : List Char → Bool
  | [] => part.isEmpty
  | c :: rest => part.isPrefixOf (c :: rest) || occursIn part rest

/-- A key after the first rule whose text it contains. -/
def canonicalKey (rules : List KeyRule) (key : String) : String :=
  match rules.find? fun rule => occursIn rule.contains.toList key.toList with
  | some rule => rule.canonical
  | none => key

/-- The properties under their canonical keys; of several with one key the first stays. -/
def canonicalProperties (rules : List KeyRule) (properties : Dict SchemaId) : Dict SchemaId :=
  properties.foldl (fun done (key, child) =>
    let canonical := canonicalKey rules key
    if Dict.contains done canonical then done else Dict.insert done canonical child) []

/-- A required name under its canonical key. -/
def canonicalName (rules : List KeyRule) : Json → Json
  | .string name => .string (canonicalKey rules name)
  | value => value

/-- The values whose text has not occurred before. -/
def distinctTexts : List String → List Json → List Json
  | _, [] => []
  | seen, value :: rest =>
    if seen.contains value.text then distinctTexts seen rest
    else value :: distinctTexts (value.text :: seen) rest

/-- Rewrites the required names. -/
def canonicalRequired (rules : List KeyRule) (n : SchemaNode) : SchemaNode :=
  match n.keyword? "required" with
  | some (.array names) =>
    n.setKeyword "required" (.array (distinctTexts [] (names.map (canonicalName rules))))
  | _ => n

/-- Rewrites the key under which a node was reached, and its hint where that is the same text. -/
def canonicalKeyName (rules : List KeyRule) (n : SchemaNode) : SchemaNode :=
  match n.keyName with
  | some key =>
    let canonical := canonicalKey rules key
    { n with
      keyName := some canonical
      nameHint := if n.nameHint = some key then some canonical else n.nameHint }
  | none => n

/-- Rewrites every property key of a node. -/
def canonicalizeKeys (rules : List KeyRule) (n : SchemaNode) : SchemaNode :=
  if rules.isEmpty then n
  else
    canonicalKeyName rules
      (canonicalRequired rules { n with properties := canonicalProperties rules n.properties })

/-! ### Further properties -/

/-- Fills in `additionalProperties` of objects that say nothing about further properties. -/
def defaultAdditionalProperties (value : Bool) (n : SchemaNode) : SchemaNode :=
  if n.additionalProperties.isNone && n.patternProperties.isEmpty && n.isObjectShaped then
    { n with additionalProperties := some (.allowed value) }
  else n

/-! ### Array bounds -/

/-- A line of a doc comment for each bound that is written. -/
def boundTags (n : SchemaNode) : List String :=
  let tag (keyword : String) (bound : Option Nat) : List String :=
    match bound with
    | some value => ["@" ++ keyword ++ " " ++ toString value]
    | none => []
  tag "minItems" n.minItems? ++ tag "maxItems" n.maxItems?

/-- Adds lines to the description, after an empty line if there is a description. -/
def appendToDescription (lines : List String) (n : SchemaNode) : SchemaNode :=
  let added := "\n".intercalate lines
  n.setKeyword "description" (.string (match n.description? with
    | some text => text ++ "\n\n" ++ added
    | none => added))

/-- Writes the bounds into the description. -/
def tagBounds (n : SchemaNode) : SchemaNode :=
  if n.boundTags.isEmpty then n else n.appendToDescription n.boundTags

/-- The longest tuple that is spelled out. -/
def tupleLimit : Nat := 1024

/-- Array bounds. -/
structure Bounds where
  min : Nat
  max : Option Nat
  deriving DecidableEq, Repr

/-- Whether a number is beyond the cap; a negative cap is none. -/
def beyondCap (cap : Int) (n : Nat) : Bool := 0 ≤ cap && cap < n

/-- **The bounds that are kept**: a least number beyond the cap drops both, a spread beyond the cap
drops the largest number, and bounds that are too long to spell out drop both. -/
def Bounds.capped (b : Bounds) (cap : Int) : Bounds :=
  let b : Bounds := if beyondCap cap b.min then ⟨0, none⟩ else b
  let b : Bounds :=
    if b.max.any fun max => beyondCap cap (max - b.min) then ⟨b.min, none⟩ else b
  if tupleLimit < b.max.getD b.min then ⟨0, none⟩ else b

/-- Writes the kept bounds into the keywords.  The largest number goes when the cap has changed the
bounds that were written. -/
def withBounds (written kept : Bounds) (n : SchemaNode) : SchemaNode :=
  let n := n.setKeyword "minItems" (.ofNat kept.min)
  if kept = written then n else n.dropKeyword "maxItems"

/-- One schema for every item, as a tuple of the length that the bounds ask for. -/
def expandItems (b : Bounds) (n : SchemaNode) : SchemaNode :=
  match n.items with
  | some (.each item) =>
    if b.max.isSome ∨ 0 < b.min then
      { n with
        items := some (.tuple (List.replicate (b.max.getD b.min) item))
        additionalItems := if b.max.isNone then some (.schema item) else n.additionalItems }
    else n
  | _ => n

/-- Tuples are cut at the largest number of items. -/
def truncateItems (b : Bounds) (n : SchemaNode) : SchemaNode :=
  match n.items, b.max with
  | some (.tuple ids), some max => { n with items := some (.tuple (ids.take max)) }
  | _, _ => n

/-- Turns the bounds of an array into tuples. -/
def normalizeBounds (kept : Bool) (o : Options) (n : SchemaNode) : SchemaNode :=
  let n := if kept then n.tagBounds else n
  if o.ignoreItemBounds then (n.dropKeyword "minItems").dropKeyword "maxItems"
  else
    let written : Bounds := ⟨n.minItems?.getD 0, n.maxItems?⟩
    let b := written.capped o.maxItems
    truncateItems b (expandItems b (n.withBounds written b))

/-- **The normal form of a node.** -/
def normalize (o : Options) (isRoot : Bool) (n : SchemaNode) : SchemaNode :=
  let kept := keepsDescription o.descriptions isRoot
  let n := n.withDescriptions kept
  let n := n.escapeDescription.dropNullType.constantAsEnum
  let n := n.canonicalizeKeys o.keyRules
  let n := n.defaultAdditionalProperties o.additionalPropertiesDefault
  if n.isArrayShaped then n.normalizeBounds kept o else n

end SchemaNode
end SchemaTypings
