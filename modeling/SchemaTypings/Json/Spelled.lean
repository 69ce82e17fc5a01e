import SchemaTypings.Json.Text
import SchemaTypings.Text.Quoted

/-! # Values with their forms

A spelled value shows the form of each part next to its text, so that a string never looks like
anything else: `String("1")` and `Number(1)`.
-/
namespace SchemaTypings
namespace Json

mutual

/-- **A value with the name of its form**, and of the forms inside it. -/
def spelled : Json → String
  | .null => "Null"
  | .bool true => "Bool(true)"
  | .bool false => "Bool(false)"
  | .number n => "Number(" ++ n.text ++ ")"
  | .string s => "String(" ++ Text.quoted s ++ ")"
  | .array items => "Array [" ++ ", ".intercalate (spelledItems items) ++ "]"
  | .object entries => "Object \x7b" ++ ", ".intercalate (spelledEntries entries) ++ "\x7d"

/-- The items of an array with their forms. -/
def spelledItems : List Json → List String
  | [] => []
  | item :: rest => spelled item :: spelledItems rest

/-- The entries of an object with their forms. -/
def spelledEntries : List (String × Json) → List String
  | [] => []
  | (key, value) :: rest =>
    (Text.quoted key ++ ": " ++ spelled value) :: spelledEntries rest

end

end Json
end SchemaTypings
