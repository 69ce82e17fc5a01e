/-! # Structural keywords

The keywords of JSON Schema that hold subschemas, by the shape of what they hold.
-/
namespace SchemaTypings

/-- **What a structural keyword holds.** -/
inductive Role where
  /-- An object whose values are schemas. -/
  | named
  /-- One schema. -/
  | single
  /-- A list of schemas. -/
  | listed
  /-- One schema or a list of schemas. -/
  | either
  deriving DecidableEq, Repr

namespace Keyword

/-- The role of a keyword; keywords without one hold no subschema. -/
def role? (keyword : String) : Option Role :=
  if keyword ∈ ["properties", "patternProperties", "definitions", "$defs"] then some .named
  else if keyword ∈ ["additionalProperties", "additionalItems", "not"] then some .single
  else if keyword ∈ ["anyOf", "oneOf", "allOf"] then some .listed
  else if keyword ∈ ["items", "extends"] then some .either
  else none

/-- Whether a word is a structural keyword.  Such a word never makes a good type name. -/
def isStructural (word : String) : Bool := (role? word).isSome

/-- The key of the reference that a schema holds. -/
def ref : String := "$ref"

/-- The key of the root under which other documents are bundled. -/
def external : String := "$external"

end Keyword
end SchemaTypings
