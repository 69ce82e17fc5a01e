import SchemaTypings.CommandLine.Request
import SchemaTypings.Error

/-! # Failures of a run

A failure says what the run was about and what caused it.  Causes are listed from the outermost to
the innermost: a single one is indented, several are numbered.
-/
namespace SchemaTypings
namespace CommandLine

/-- What a file is read for. -/
inductive Role where
  | schema
  | config
  deriving DecidableEq, Repr

/-- The word for a role. -/
def Role.word : Role → String
  | schema => "schema"
  | config => "config"

/-- **Why a run fails.** -/
inductive Failure where
  | cannotOpen (role : Role) (path : String) (fault : FileFault)
  | cannotParse (role : Role) (path reason : String)
  | badConfig (path : String)
  | cannotResolveInput (path : String) (fault : FileFault)
  | noRootName
  | compilation (input : String) (cause : CompileError)
  | cannotCreateOutput (path : String) (fault : FileFault)
  deriving Repr

namespace Failure

/-- What the run was about. -/
def context : Failure → String
  | cannotOpen role path _ => "Failed to open " ++ role.word ++ " file: " ++ path
  | cannotParse role path _ => "Failed to parse " ++ role.word ++ " from: " ++ path
  | badConfig path => "Invalid options in " ++ path
  | cannotResolveInput path _ => "Failed to resolve input path: " ++ path
  | noRootName => "Cannot derive a root name from the input path, pass --name"
  | compilation input _ => "Compilation of " ++ input ++ " failed"
  | cannotCreateOutput path _ => "Failed to create output file: " ++ path

end Failure

/-- An error and the errors inside it. -/
def layers : CompileError → List String
  | .inEntry entry cause => (CompileError.inEntry entry cause).message :: layers cause
  | e => [e.message]

/-- What caused a failure, the outermost cause first. -/
def Failure.causes : Failure → List String
  | .cannotOpen _ _ fault | .cannotResolveInput _ fault | .cannotCreateOutput _ fault =>
    [fault.message]
  | .cannotParse _ _ reason => [reason]
  | .badConfig _ => ["not an object of compile options"]
  | .noRootName => []
  | .compilation _ cause => layers cause

/-- A text with `first` before its first line and `later` before the others. -/
def indented (first later text : String) : String :=
  first ++ ("\n" ++ later).intercalate
    ((Text.pieces (· = '\n') text.toList).map String.ofList)

/-- Causes with their numbers, from zero. -/
def numbered (causes : List String) : List String :=
  causes.mapIdx fun i cause =>
    let number := toString i
    indented ("".pushn ' ' (5 - number.length) ++ number ++ ": ") "       " cause

/-- **The report of a failure.** -/
def Failure.report (f : Failure) : String :=
  let heading := "\n\nCaused by:\n"
  "Error: " ++ f.context ++ match f.causes with
    | [] => ""
    | [cause] => heading ++ indented "    " "    " cause
    | causes => heading ++ "\n".intercalate (numbered causes)

end CommandLine
end SchemaTypings
