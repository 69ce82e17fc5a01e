import SchemaTypings.Uri.Reader

/-! # Compile options

What a caller can choose about the declarations, and which choices are refused before any schema is
looked at.
-/
namespace SchemaTypings

/-- Which descriptions become doc comments. -/
inductive Descriptions where
  | keep
  /-- All but the root's. -/
  | omitRoot
  | omitAll
  deriving DecidableEq, Repr

/-- Rewrites every property key that contains `contains` to `canonical`. -/
structure KeyRule where
  contains : String
  canonical : String
  deriving DecidableEq, Repr

/-- **The options of a compilation**, with their defaults. -/
structure Options where
  /-- `additionalProperties` of object schemas that leave it out. -/
  additionalPropertiesDefault : Bool := false
  /-- Declare every named type, not only the root. -/
  declareReferenced : Bool := true
  /-- Write `export const enum` rather than `export enum`. -/
  constEnums : Bool := true
  /-- Make no tuples from `minItems` and `maxItems`. -/
  ignoreItemBounds : Bool := false
  /-- The largest bound spread that is spelled out as tuples; `-1` for no cap. -/
  maxItems : Int := 20
  /-- Let index signatures admit `undefined`. -/
  strictIndexSignatures : Bool := false
  /-- Keep definitions that nothing refers to. -/
  unreachableDefinitions : Bool := false
  /-- Use `unknown` where nothing is known, rather than `any`. -/
  unknownAny : Bool := true
  /-- Merge equal classes under the first name. -/
  deduplicateClasses : Bool := false
  descriptions : Descriptions := .keep
  /-- Property key rewrites; the first rule that matches a key applies. -/
  keyRules : List KeyRule := []
  /-- Text before every class. -/
  classBanner : Option String := none
  /-- Text before every declaration. -/
  declarationBanner : Option String := none
  /-- The URI that relative references are read against. -/
  baseUri : Option String := none
  /-- How deep references and schemas may nest. -/
  maxDepth : Nat := 50
  deriving DecidableEq, Repr

/-- Why options are refused. -/
inductive OptionFault where
  | maxItemsTooSmall (maxItems : Int)
  | zeroDepth
  | badBaseUri (text : String) (fault : Uri.Fault)
  | emptyKeyRule
  | conflictingKeyRules (contains first second : String)
  deriving DecidableEq, Repr

namespace Options

/-- The base URI of callers that name none. -/
def defaultBaseUri : String := "file:///schema.json"

/-- The URI that relative references are read against. -/
def base? (o : Options) : Except OptionFault Uri :=
  let text := o.baseUri.getD defaultBaseUri
  match Uri.read? text with
  | .ok uri => .ok uri
  | .error fault => .error (.badBaseUri text fault)

/-- The placeholder type. -/
def placeholder (o : Options) : String := if o.unknownAny then "unknown" else "any"

/-- Checks the key rules in order: both texts are needed, and one text is rewritten in one way
only.  `seen` holds the rules passed. -/
def checkKeyRules : List KeyRule → List KeyRule → Except OptionFault Unit
  | _, [] => .ok ()
  | seen, rule :: rest =>
    if rule.contains.isEmpty ∨ rule.canonical.isEmpty then .error .emptyKeyRule
    else match seen.find? fun earlier => earlier.contains = rule.contains with
      | some earlier =>
        if earlier.canonical = rule.canonical then checkKeyRules seen rest
        else .error (.conflictingKeyRules rule.contains earlier.canonical rule.canonical)
      | none => checkKeyRules (rule :: seen) rest

/-- **Refuses contradictory options** and options out of range. -/
def check (o : Options) : Except OptionFault Unit := do
  if o.maxItems < -1 then throw (.maxItemsTooSmall o.maxItems)
  if o.maxDepth = 0 then throw .zeroDepth
  let _ ← o.base?
  checkKeyRules [] o.keyRules

end Options
end SchemaTypings
