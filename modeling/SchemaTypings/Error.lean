import SchemaTypings.Json.Text
import SchemaTypings.Options
import SchemaTypings.Text.Quoted

/-! # Errors of a compilation

Every refusal is a cause with its data; the wording is a function of the cause.  Violations of a
schema are collected, all other errors end the compilation where they arise.
-/
namespace SchemaTypings

open Text (quoted)

/-- **A structural precondition that a schema breaks**, with the pointer of the schema. -/
inductive Violation where
  | unusableRootName (name : String)
  | noRootName
  | requiredPattern (at_ name : String)
  | badCount (at_ keyword : String) (value : Json)
  | reversedBounds (at_ : String) (max min : Nat)
  | badDeprecated (at_ : String)
  | badPattern (at_ pattern : String)
  | unresolvedReference (at_ reference : String)
  | emptyEnum (at_ : String)
  | unnamedCycle (at_ : String)
  deriving Repr

/-- The wording of a violation. -/
def Violation.message : Violation → String
  | .unusableRootName name =>
    "root name " ++ quoted name ++ " does not contain a usable identifier"
  | .noRootName => "schema has no usable root name (no title, $id, name or root name)"
  | .requiredPattern at_ name =>
    at_ ++ ": " ++ quoted name ++ " is both required and a pattern property"
  | .badCount at_ keyword value =>
    at_ ++ ": " ++ keyword ++ " must be a non-negative integer, got " ++ value.text
  | .reversedBounds at_ max min =>
    at_ ++ ": maxItems (" ++ toString max ++ ") is less than minItems (" ++ toString min ++ ")"
  | .badDeprecated at_ => at_ ++ ": deprecated must be a boolean"
  | .badPattern at_ pattern =>
    at_ ++ ": patternProperties key " ++ quoted pattern ++ " is not a valid regular expression"
  | .unresolvedReference at_ reference => at_ ++ ": unresolved reference " ++ quoted reference
  | .emptyEnum at_ => at_ ++ ": enum must list at least one value"
  | .unnamedCycle at_ =>
    at_ ++ ": schema refers to itself but has no name (add a title or move it to definitions)"

/-- What is wrong with an input document. -/
inductive InputFault where
  | booleanRootWithReferences
  | notAnObjectOfEntries
  | entryWithoutName
  deriving DecidableEq, Repr

/-- The wording of an input fault. -/
def InputFault.message : InputFault → String
  | .booleanRootWithReferences => "a boolean root schema cannot carry references"
  | .notAnObjectOfEntries => "a schema document must be an object of entries"
  | .entryWithoutName => "entry has no string `name`"

/-- **Why a compilation fails.** -/
inductive CompileError where
  | badOptions (fault : OptionFault)
  | unresolvableRef (path reference : String)
  | refCycle (chain : List String)
  | fetchFailed (uri reason : String)
  | tooDeep (path : String) (limit : Nat)
  | violations (list : List Violation)
  | nameCollision (name first second : String)
  | badInput (path : String) (fault : InputFault)
  | inEntry (entry : String) (cause : CompileError)
  deriving Repr

/-- The stage of a compilation that an error belongs to. -/
inductive ErrorKind where
  | configuration
  | resolution
  | validation
  | naming
  | input
  deriving DecidableEq, Repr

/-- The wording of an option fault. -/
def OptionFault.message : OptionFault → String
  | .maxItemsTooSmall maxItems =>
    "max-items must be -1 (unlimited) or non-negative, got " ++ toString maxItems
  | .zeroDepth => "max-depth must be at least 1"
  | .badBaseUri text fault => "invalid base-uri " ++ quoted text ++ ": " ++ fault.message
  | .emptyKeyRule => "key-canonicalization rules need a non-empty `contains` and `canonical`"
  | .conflictingKeyRules contains first second =>
    "key-canonicalization maps " ++ quoted contains ++ " to both " ++ quoted first ++ " and " ++
      quoted second

namespace CompileError

/-- The stage of an error; an error inside an entry keeps its own. -/
def kind : CompileError → ErrorKind
  | .badOptions _ => .configuration
  | .unresolvableRef _ _ | .refCycle _ | .fetchFailed _ _ | .tooDeep _ _ => .resolution
  | .violations _ => .validation
  | .nameCollision _ _ _ => .naming
  | .badInput _ _ => .input
  | .inEntry _ cause => cause.kind

/-- The violations that an error carries. -/
def violationList : CompileError → List Violation
  | .violations list => list
  | .inEntry _ cause => cause.violationList
  | _ => []

/-- **The wording of an error.** -/
def message : CompileError → String
  | .badOptions fault => "Invalid options: " ++ fault.message
  | .unresolvableRef path reference => "Unresolvable $ref at " ++ path ++ ": " ++ reference
  | .refCycle chain =>
    "$ref cycle never reaches a concrete schema: " ++ " -> ".intercalate chain
  | .fetchFailed uri reason => "Failed to fetch external schema " ++ uri ++ ": " ++ reason
  | .tooDeep path limit =>
    "Recursion depth exceeded at " ++ path ++ " (max: " ++ toString limit ++ ")"
  | .violations list =>
    "Schema validation failed:\n  " ++ "\n  ".intercalate (list.map Violation.message)
  | .nameCollision name first second =>
    "Standalone name " ++ quoted name ++ " is claimed by different schemas at " ++ first ++
      " and " ++ second
  | .badInput path fault => "Schema error at " ++ path ++ ": " ++ fault.message
  | .inEntry entry cause => "Failed to compile " ++ quoted entry ++ ": " ++ cause.message

end CompileError
/-! ### Results -/

/-- A sequence succeeds when its first part does, and the rest on what that brings. -/
theorem bind_eq_ok_iff {ε α β : Type} {x : Except ε α} {f : α → Except ε β} {b : β} :
    (x >>= f) = .ok b ↔ ∃ a, x = .ok a ∧ f a = .ok b := by
  cases x with
  | error e =>
    constructor
    · intro h
      cases h
    · rintro ⟨a, h, -⟩
      cases h
  | ok a =>
    constructor
    · exact fun h => ⟨a, rfl, h⟩
    · rintro ⟨a', h, hf⟩
      cases h
      exact hf

/-- Rewriting an error changes nothing of a success. -/
theorem mapError_eq_ok_iff {ε ε' α : Type} {x : Except ε α} {f : ε → ε'} {a : α} :
    x.mapError f = .ok a ↔ x = .ok a := by
  cases x with
  | error e => constructor <;> intro h <;> cases h
  | ok a' => constructor <;> intro h <;> cases h <;> rfl

end SchemaTypings
