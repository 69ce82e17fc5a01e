import SchemaTypings.CommandLine.Failure
import SchemaTypings.CommandLine.Usage
import SchemaTypings.Compile
import SchemaTypings.Options.Json

/-! # Runs of the command line

A run reads the schema, then the options, then compiles, fetching other documents as references lead
to them, and last writes the declarations.  `step` goes as far as the replies known so far reach: to
the outcome, or to the next request.
-/
namespace SchemaTypings
namespace CommandLine

/-- What a run leaves behind, apart from the file it may write. -/
structure Outcome where
  exitCode : Nat
  output : String := ""
  errors : String := ""
  deriving DecidableEq, Inhabited, Repr

/-- Why a run does not go on. -/
inductive Halt where
  | asks (request : Request)
  | fails (failure : Failure)

/-- A part of a run, given the replies so far. -/
abbrev Run (α : Type) := ReaderT Known (Except Halt) α

namespace Run

/-- The reply to a request, if it is known. -/
def ask (request : Request) : Run Reply := fun known =>
  match known.lookup request with
  | some reply => .ok reply
  | none => .error (.asks request)

/-- Ends the run. -/
def fail {α : Type} (failure : Failure) : Run α := fun _ => .error (.fails failure)

/-- Reads a file that holds one JSON value. -/
def readJson (role : Role) (path : String) : Run Json := do
  match ← ask (.read path) with
  | .error fault =>
    if fault.isOfReading then fail (.cannotParse role path fault.message)
    else fail (.cannotOpen role path fault)
  | .ok text =>
    match Json.read? text with
    | .ok value => return value
    | .error e => fail (.cannotParse role path e.message)

/-- The base URI of an input: references are relative to the file. -/
def baseUri (input : String) : Run String := do
  match ← ask (.locate input) with
  | .ok path => return (Uri.ofFilePath path).text
  | .error fault => fail (.cannotResolveInput input fault)

end Run

/-- Options with the arguments that override them. -/
def Arguments.override (a : Arguments) (o : Options) : Options :=
  { o with
    unknownAny := o.unknownAny && !a.any
    ignoreItemBounds := o.ignoreItemBounds || a.ignoreItemBounds
    maxItems := a.maxItems.getD o.maxItems
    strictIndexSignatures := o.strictIndexSignatures || a.strictIndexSignatures
    unreachableDefinitions := o.unreachableDefinitions || a.unreachableDefinitions }

/-- The last name of a path, unless the path ends in a step to here or up. -/
def lastName? (path : String) : Option (List Char) :=
  let names := (Text.pieces (· = '/') path.toList).filter fun name => name ≠ [] ∧ name ≠ ['.']
  names.getLast?.filter (· ≠ ['.', '.'])

/-- A name without its extension; a dot in front starts none. -/
def stem (name : List Char) : List Char :=
  let front := (name.reverse.dropWhile (· ≠ '.')).tail.reverse
  if front.isEmpty then name else front

/-- The URI in an error about a document that could not be fetched. -/
def fetched? : CompileError → Option String
  | .fetchFailed uri _ => some uri
  | .inEntry _ cause => fetched? cause
  | _ => none

/-- The documents known so far. -/
def knownSource (known : Known) : DocumentSource where
  answers := known.documents
  refusal uri := match documentPath uri with
    | .ok path => path ++ ": not read yet"
    | .error reason => reason

/-- The request for the document that an error is about, if it was not asked for yet. -/
def missingDocument? (known : Known) (e : CompileError) : Option Request := do
  let text ← fetched? e
  let uri ← (Uri.read? text).toOption
  let path ← (documentPath uri).toOption
  if (known.documents.get? text).isSome then none else some (.fetch text path)

namespace Run

/-- The options of a run. -/
def options (a : Arguments) : Run Options := do
  let written ← match a.config with
    | some path =>
      match Options.ofJson? (← readJson .config path) with
      | some o => pure o
      | none => fail (.badConfig path)
    | none => pure {}
  let o := a.override written
  match o.baseUri with
  | some _ => return o
  | none => return { o with baseUri := some (← baseUri a.input) }

/-- The name of the root type: the one that was given, or that of the input file. -/
def rootName (a : Arguments) : Run String :=
  match a.name, lastName? a.input with
  | some name, _ => pure name
  | none, some name => pure (String.ofList (stem name))
  | none, none => fail .noRootName

/-- Runs a compilation, asking for documents that it needs. -/
def compiling (a : Arguments) (compilation : DocumentSource → Except CompileError String) :
    Run String := fun known =>
  match compilation (knownSource known) with
  | .ok text => .ok text
  | .error e =>
    match missingDocument? known e with
    | some request => .error (.asks request)
    | none => .error (.fails (.compilation a.input e))

/-- The declarations for the input. -/
def declarations (a : Arguments) : Run String := do
  let schema ← readJson .schema a.input
  let o ← options a
  if a.isDocument then compiling a (compileDocument schema o)
  else
    let name ← rootName a
    compiling a (compile schema name o)

/-- The outcome of a command. -/
def command : Command → Run Outcome
  | .check a => do
    let _ ← declarations a
    return { exitCode := 0, errors := a.input ++ ": ok\n" }
  | .compile a none => do return { exitCode := 0, output := ← declarations a }
  | .compile a (some path) => do
    let text ← declarations a
    match ← ask (.write path text) with
    | .ok _ => return { exitCode := 0 }
    | .error fault => fail (.cannotCreateOutput path fault)

end Run

/-- How far a run has come. -/
inductive Step where
  | finished (outcome : Outcome)
  | asks (request : Request)

/-- The outcome of a call that is no command. -/
def Stop.outcome : Stop → Outcome
  | .help topic => { exitCode := 0, output := topic.text }
  | .version => { exitCode := 0, output := versionText }
  | .misuse => { exitCode := 2, errors := misuseText }

/-- **A run of the command line** on its arguments, as far as the known replies reach. -/
def step (arguments : List String) (known : Known) : Step :=
  match Command.ofArguments arguments with
  | .error stop => .finished stop.outcome
  | .ok command =>
    match Run.command command known with
    | .ok outcome => .finished outcome
    | .error (.asks request) => .asks request
    | .error (.fails failure) => .finished { exitCode := 1, errors := failure.report ++ "\n" }

end CommandLine
end SchemaTypings
