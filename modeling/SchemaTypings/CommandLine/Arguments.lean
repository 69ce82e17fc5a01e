import SchemaTypings.Decimal.Int64
import SchemaTypings.Text.Split

/-! # Arguments of the command line

A call names a command, `compile` or `check`, and gives it parameters.  A parameter has a long name,
some have a letter as well, and some take a value, which is attached or comes next.  Letters without
a value may be joined.  Behind `--` every argument is an input.

The first argument that asks for help or for the version, or that cannot be understood, decides the
call.
-/
namespace SchemaTypings
namespace CommandLine

/-- What can be given to a command. -/
inductive Parameter where
  | input
  | name
  | document
  | config
  | any
  | ignoreItemBounds
  | maxItems
  | strictIndexSignatures
  | unreachableDefinitions
  | output
  | verbose
  | help
  | version
  deriving DecidableEq, Repr

namespace Parameter

/-- The long name of a parameter; the input has none. -/
def long? : Parameter → Option String
  | input => none
  | name => some "name"
  | document => some "document"
  | config => some "config"
  | any => some "any"
  | ignoreItemBounds => some "ignore-min-and-max-items"
  | maxItems => some "max-items"
  | strictIndexSignatures => some "strict-index-signatures"
  | unreachableDefinitions => some "unreachable-definitions"
  | output => some "output"
  | verbose => some "verbose"
  | help => some "help"
  | version => some "version"

/-- The letter of a parameter. -/
def letter? : Parameter → Option Char
  | name => some 'n'
  | output => some 'o'
  | verbose => some 'v'
  | help => some 'h'
  | version => some 'V'
  | _ => none

/-- Whether a parameter takes a value. -/
def takesValue : Parameter → Bool
  | input | name | config | maxItems | output => true
  | _ => false

end Parameter

/-- What help is about. -/
inductive Topic where
  | general
  | compile
  | check
  | help
  deriving DecidableEq, Repr

/-- What ends the reading of arguments early. -/
inductive Stop where
  | help (topic : Topic)
  | version
  | misuse
  deriving DecidableEq, Repr

/-- Whether a parameter admits a value: paths are not empty, and a number is one. -/
def Parameter.admits (value : String) : Parameter → Bool
  | .input | .config | .output => !value.isEmpty
  | .maxItems => (Decimal.int64? value).isSome
  | _ => true

/-- Parameters that were given, with their values; switches have an empty one. -/
abbrev Given := List (Parameter × String)

namespace Given

/-- Whether a parameter was given. -/
def has (g : Given) (p : Parameter) : Bool := g.any fun entry => entry.1 = p

/-- The value of a parameter. -/
def value? (g : Given) (p : Parameter) : Option String := g.lookup p

end Given

/-- The parameters of a command, and what its help is about. -/
structure Level where
  allowed : List Parameter
  topic : Topic

namespace Level

/-- Before the command. -/
def general : Level := ⟨[.verbose, .help, .version], .general⟩

/-- Behind `check`. -/
def check : Level where
  allowed := [.input, .name, .document, .config, .any, .ignoreItemBounds, .maxItems,
    .strictIndexSignatures, .unreachableDefinitions, .verbose, .help]
  topic := .check

/-- Behind `compile`, which takes an output on top of what `check` takes. -/
def compile : Level := ⟨.output :: check.allowed, .compile⟩

/-- Adds a parameter, which is given once at most and with a value that it admits. -/
def add (l : Level) (g : Given) (p : Parameter) (value : String) : Except Stop Given :=
  if !l.allowed.contains p then .error .misuse
  else if p = .help then .error (.help l.topic)
  else if p = .version then .error .version
  else if g.has p || !p.admits value then .error .misuse
  else .ok ((p, value) :: g)

/-- The parameter of which `p` holds. -/
def find (l : Level) (p : Parameter → Bool) : Except Stop Parameter :=
  match l.allowed.find? p with
  | some parameter => .ok parameter
  | none => .error .misuse

/-- Adds joined letters.  The first that takes a value takes the rest of the letters, behind an
equals sign or not; without a rest it awaits its value. -/
def addLetters (l : Level) : Given → List Char → Except Stop (Given × Option Parameter)
  | g, [] => .ok (g, none)
  | g, letter :: rest => do
    let p ← l.find fun p => p.letter? = some letter
    if p.takesValue then
      match rest with
      | [] => return (g, some p)
      | '=' :: value => return (← l.add g p (String.ofList value), none)
      | value => return (← l.add g p (String.ofList value), none)
    else l.addLetters (← l.add g p "") rest

/-- Adds a parameter by its long name, perhaps with an attached value.  A parameter that takes a
value awaits it if none is attached. -/
def addLong (l : Level) (g : Given) (text : List Char) :
    Except Stop (Given × Option Parameter) := do
  let (name, value?) := Text.splitOnce (· = '=') text
  let p ← l.find fun p => p.long? = some (String.ofList name)
  match p.takesValue, value? with
  | true, some value => return (← l.add g p (String.ofList value), none)
  | true, none => return (g, some p)
  | false, none => return (← l.add g p "", none)
  | false, some _ => throw .misuse

/-- Adds one argument. -/
def addArgument (l : Level) (g : Given) (argument : String) :
    Except Stop (Given × Option Parameter) :=
  match argument.toList with
  | '-' :: '-' :: text => l.addLong g text
  | '-' :: letter :: rest => l.addLetters g (letter :: rest)
  | _ => (l.add g .input argument).map fun g => (g, none)

/-- Whether an argument may be the value that a parameter awaits.  Only a number may begin with a
hyphen; a hyphen alone is a value as well. -/
def mayFollow (p : Parameter) (argument : String) : Bool :=
  p = .maxItems || argument = "-" || argument.toList.head? ≠ some '-'

/-- **Adds arguments** from left to right. -/
def addAll (l : Level) : Given → List String → Except Stop Given
  | g, [] => .ok g
  | g, argument :: rest =>
    if argument = "--" then rest.foldlM (fun g input => l.add g .input input) g
    else do
      match ← l.addArgument g argument, rest with
      | (g, none), rest => l.addAll g rest
      | (_, some _), [] => throw .misuse
      | (g, some p), value :: rest =>
        if mayFollow p value then l.addAll (← l.add g p value) rest else throw .misuse

end Level

/-- What `compile` and `check` work on. -/
structure Arguments where
  /-- The path of the schema. -/
  input : String
  /-- The name of the root type. -/
  name : Option String
  /-- Whether the input is a document of named entries. -/
  isDocument : Bool
  /-- The path of the options. -/
  config : Option String
  any : Bool
  ignoreItemBounds : Bool
  maxItems : Option Int
  strictIndexSignatures : Bool
  unreachableDefinitions : Bool
  deriving DecidableEq, Repr

/-- The arguments that were given.  An input is needed, and a document has no name. -/
def Arguments.ofGiven (g : Given) : Except Stop Arguments :=
  match g.value? .input with
  | none => .error .misuse
  | some input =>
    if g.has .document && g.has .name then .error .misuse
    else .ok {
      input
      name := g.value? .name
      isDocument := g.has .document
      config := g.value? .config
      any := g.has .any
      ignoreItemBounds := g.has .ignoreItemBounds
      maxItems := (g.value? .maxItems).bind Decimal.int64?
      strictIndexSignatures := g.has .strictIndexSignatures
      unreachableDefinitions := g.has .unreachableDefinitions }

/-- **What a call asks for.** -/
inductive Command where
  /-- Write the declarations to a file or to standard output. -/
  | compile (arguments : Arguments) (output : Option String)
  /-- Report errors only. -/
  | check (arguments : Arguments)
  deriving DecidableEq, Repr

namespace Command

/-- What help is about behind the words of a call for it. -/
def topicOf : List String → Except Stop Stop
  | [] => .ok (.help .general)
  | ["compile"] => .ok (.help .compile)
  | ["check"] => .ok (.help .check)
  | ["help"] | ["help", "compile"] | ["help", "check"] | ["help", "help"] => .ok (.help .help)
  | _ => .error .misuse

/-- The words that name a command. -/
def names : List String := ["compile", "check", "help"]

/-- **The command that arguments write**, or what stops them from being one. -/
def ofArguments (arguments : List String) : Except Stop Command := do
  let (front, rest) := arguments.span fun argument => !names.contains argument
  let _ ← Level.general.addAll [] front
  if front.contains "--" then throw .misuse
  match rest with
  | "compile" :: rest =>
    let given ← Level.compile.addAll [] rest
    return .compile (← Arguments.ofGiven given) (given.value? .output)
  | "check" :: rest =>
    let given ← Level.check.addAll [] rest
    return .check (← Arguments.ofGiven given)
  | "help" :: topics => throw (← topicOf topics)
  | _ => throw .misuse

end Command

end CommandLine
end SchemaTypings
