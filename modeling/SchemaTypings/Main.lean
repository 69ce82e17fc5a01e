import SchemaTypings.CommandLine.Run

/-! # The program

Does what a run asks for, and prints its outcome.
-/
namespace SchemaTypings
namespace CommandLine

/-- The fault that an error of the file system stands for. -/
def FileFault.ofError : IO.Error → FileFault
  | .noFileOrDirectory .. => .missing
  | .permissionDenied .. => .denied
  | .inappropriateType _ 20 _ => .notDirectory
  | .inappropriateType _ _ _ => .isDirectory
  | e => .other (toString e)

/-- Does what was asked. -/
def perform (request : Request) : IO Reply := do
  try
    match request with
    | .read path | .fetch _ path =>
      let bytes ← IO.FS.readBinFile path
      return match String.fromUTF8? bytes with
        | some text => .ok text
        | none => .error .notText
    | .locate path => return .ok (← IO.FS.realPath path).toString
    | .write path text =>
      IO.FS.writeFile path text
      return .ok ""
  catch e => return .error (.ofError e)

/-- Carries a run through to its outcome. -/
partial def carryThrough (arguments : List String) (known : Known) : IO Outcome :=
  match step arguments known with
  | .finished outcome => return outcome
  | .asks request => do carryThrough arguments ((request, ← perform request) :: known)

end CommandLine
end SchemaTypings

/-- Runs the command line. -/
def main (arguments : List String) : IO UInt32 := do
  let outcome ← SchemaTypings.CommandLine.carryThrough arguments []
  IO.print outcome.output
  IO.eprint outcome.errors
  return outcome.exitCode.toUInt32
