import SchemaTypings.Text.Alphanumeric
import SchemaTypings.Text.LetterCase
import SchemaTypings.Text.Split

/-! # Words and camel case

A text falls into runs of alphanumeric characters, and a run into words where its letter case
changes: after a small letter that a capital follows, and before a capital that follows a capital
and precedes a small letter.  Upper camel case writes each word with one capital in front.
-/
namespace SchemaTypings
namespace Text

/-- The case of the last cased character of a word, if it has one. -/
inductive CaseMode where
  | none
  | small
  | capital
  deriving DecidableEq, Repr

/-- The mode after a character: one without case keeps it. -/
def CaseMode.after (mode : CaseMode) (c : Char) : CaseMode :=
  if isLowercase c then .small else if isUppercase c then .capital else mode

/-- The words of a run; `word` holds the characters of the current word in reverse. -/
def wordsOfRun : CaseMode → List Char → List Char → List (List Char)
  | _, word, [] => if word.isEmpty then [] else [word.reverse]
  | mode, word, c :: rest =>
    match rest.head? with
    | none => [(c :: word).reverse]
    | some next =>
      if mode.after c = .small ∧ isUppercase next then
        (c :: word).reverse :: wordsOfRun .none [] rest
      else if mode = .capital ∧ isUppercase c ∧ isLowercase next then
        word.reverse :: wordsOfRun .none [c] rest
      else wordsOfRun (mode.after c) (c :: word) rest

/-- The words of a text. -/
def words (cs : List Char) : List (List Char) :=
  (pieces (fun c => !isAlphanumeric c) cs).flatMap (wordsOfRun .none [])

/-- A word with a capital in front and small letters after it. -/
def capitalize : List Char → List Char
  | [] => []
  | c :: rest => toCapital c ++ rest.flatMap toSmall

/-- **Upper camel case**: the words of a text, capitalized and joined. -/
def upperCamel (cs : List Char) : List Char := (words cs).flatMap capitalize

end Text
end SchemaTypings
