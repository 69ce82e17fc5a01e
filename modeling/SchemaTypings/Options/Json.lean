import SchemaTypings.Decimal.Int64
import SchemaTypings.Json.Value
import SchemaTypings.Options

/-! # Options as JSON

Options are an object with one key per option, in words joined by hyphens; a missing key means the
default, an unknown key is passed over, and a value of the wrong type refuses the whole object.  A
list gives the values by position instead.
-/
namespace SchemaTypings
namespace Options

/-- An integer of 64 bits with sign. -/
def int64? : Json → Option Int
  | .number (.integer n) => if Decimal.fitsInt64 n then some n else none
  | _ => none

/-- The value of a switch. -/
def switch? : Json → Option Bool
  | .bool b => some b
  | _ => none

/-- A text, or `null` for none. -/
def optionalText? : Json → Option (Option String)
  | .null => some none
  | .string s => some (some s)
  | _ => none

/-- The description choice that a word names. -/
def descriptionsOfWord? (word : String) : Option Descriptions :=
  match word with
  | "keep" => some .keep
  | "omit-root" => some .omitRoot
  | "omit-all" => some .omitAll
  | _ => none

/-- A description choice: its word, also as the only key of an object that holds `null`. -/
def descriptions? : Json → Option Descriptions
  | .string word => descriptionsOfWord? word
  | .object [(word, .null)] => descriptionsOfWord? word
  | _ => none

/-- A key rule: an object with both texts, or a list of the two. -/
def keyRule? : Json → Option KeyRule
  | .object entries => do
    let contains ← (Dict.get? entries "contains").bind Json.string?
    let canonical ← (Dict.get? entries "canonical").bind Json.string?
    return ⟨contains, canonical⟩
  | .array [.string contains, .string canonical] => some ⟨contains, canonical⟩
  | _ => none

/-- A list of key rules. -/
def keyRules? (value : Json) : Option (List KeyRule) := do
  let items ← value.array?
  items.mapM keyRule?

/-- **One option**: its key and how its value changes the options. -/
structure Field where
  key : String
  set? : Json → Options → Option Options

/-- The options in the order of a positional list. -/
def fields : List Field := [
  ⟨"additional-properties-default", fun v o =>
    (switch? v).map fun b => { o with additionalPropertiesDefault := b }⟩,
  ⟨"declare-externally-referenced", fun v o =>
    (switch? v).map fun b => { o with declareReferenced := b }⟩,
  ⟨"enable-const-enums", fun v o => (switch? v).map fun b => { o with constEnums := b }⟩,
  ⟨"ignore-min-and-max-items", fun v o =>
    (switch? v).map fun b => { o with ignoreItemBounds := b }⟩,
  ⟨"max-items", fun v o => (int64? v).map fun n => { o with maxItems := n }⟩,
  ⟨"strict-index-signatures", fun v o =>
    (switch? v).map fun b => { o with strictIndexSignatures := b }⟩,
  ⟨"unreachable-definitions", fun v o =>
    (switch? v).map fun b => { o with unreachableDefinitions := b }⟩,
  ⟨"unknown-any", fun v o => (switch? v).map fun b => { o with unknownAny := b }⟩,
  ⟨"deduplicate-classes", fun v o =>
    (switch? v).map fun b => { o with deduplicateClasses := b }⟩,
  ⟨"descriptions", fun v o => (descriptions? v).map fun d => { o with descriptions := d }⟩,
  ⟨"key-canonicalization", fun v o => (keyRules? v).map fun rules => { o with keyRules := rules }⟩,
  ⟨"class-banner", fun v o => (optionalText? v).map fun t => { o with classBanner := t }⟩,
  ⟨"declaration-banner", fun v o =>
    (optionalText? v).map fun t => { o with declarationBanner := t }⟩,
  ⟨"base-uri", fun v o => (optionalText? v).map fun t => { o with baseUri := t }⟩,
  ⟨"max-depth", fun v o => v.nat?.map fun n => { o with maxDepth := n }⟩]

/-- Sets the option with this key; an unknown key changes nothing. -/
def set? (o : Options) (key : String) (value : Json) : Option Options :=
  match fields.find? fun field => field.key = key with
  | some field => field.set? value o
  | none => some o

/-- **The options that a JSON value describes.** -/
def ofJson? : Json → Option Options
  | .object entries => entries.foldlM (fun o entry => o.set? entry.1 entry.2) {}
  | .array values =>
    if fields.length < values.length then none
    else (fields.zip values).foldlM (fun o pair => pair.1.set? pair.2 o) {}
  | _ => none

end Options
end SchemaTypings
