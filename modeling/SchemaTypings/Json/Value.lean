import SchemaTypings.Dict
import SchemaTypings.Decimal.Binary64

/-! # JSON values

A schema document is a JSON value whose objects keep the order of their keys and whose numbers
keep their form: an integer stays an integer, everything else is a double.
-/
namespace SchemaTypings

open Decimal (Binary64)

/-- A JSON number: an integer between `-2 ^ 63` and `2 ^ 64 - 1`, or a double. -/
inductive Number where
  | integer (value : Int)
  | real (value : Binary64)
  deriving DecidableEq, Repr

/-- **A JSON value.**  Objects list their entries in order of first appearance. -/
inductive Json where
  | null
  | bool (value : Bool)
  | number (value : Number)
  | string (value : String)
  | array (items : List Json)
  | object (entries : List (String × Json))
  deriving Inhabited, Repr

namespace Json

/-- The text of a string value. -/
def string? : Json → Option String
  | .string s => some s
  | _ => none

/-- The entries of an object. -/
def object? : Json → Option (Dict Json)
  | .object entries => some entries
  | _ => none

/-- The items of an array. -/
def array? : Json → Option (List Json)
  | .array items => some items
  | _ => none

/-- A natural number written as an integer; `2.0` is not one. -/
def nat? : Json → Option Nat
  | .number (.integer n) => if 0 ≤ n then some n.toNat else none
  | _ => none

/-- The value under `key`, if this is an object that has it. -/
def field? (value : Json) (key : String) : Option Json :=
  value.object?.bind fun entries => entries.get? key

/-- Whether the value is an object. -/
def isObject (value : Json) : Bool := value.object?.isSome

/-- Whether the value is a string. -/
def isString (value : Json) : Bool := value.string?.isSome

/-- Whether the value is a number. -/
def isNumber : Json → Bool
  | .number _ => true
  | _ => false

/-- Whether the value is `true` or `false`. -/
def isBool : Json → Bool
  | .bool _ => true
  | _ => false

/-- Whether the value is `null`. -/
def isNull : Json → Bool
  | .null => true
  | _ => false

/-- The number `n` as a value. -/
def ofNat (n : Nat) : Json := .number (.integer n)

end Json
end SchemaTypings
