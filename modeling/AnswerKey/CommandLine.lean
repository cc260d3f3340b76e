import AnswerKey.Text.Quoted
import AnswerKey.Text.CharClass

namespace AnswerKey
namespace CommandLine

/-!
The words of a command line.  The program takes one or more files and two switches.  Switches may be
shortened as long as they stay unambiguous, switches of one letter may be written together, and
behind two hyphens everything is a file.

The files have to stand together: words behind a later switch are left over, and left-over words are
a fault.
-/

open Text

/-- The switches. -/
inductive Switch where
  | help
  | strict
  deriving DecidableEq, Repr

namespace Switch

/-- All spellings of the switches. -/
def spellings : List (String × Switch) :=
  [("-h", help), ("--help", help), ("--strict", strict)]

/-- All spellings of a switch at once. -/
def title : Switch → String
  | help => "-h/--help"
  | strict => "--strict"

end Switch

/-- What is wrong with a command line. -/
inductive Fault where
  | ambiguous (word : String) (spellings : List String)
  /-- A switch is given a value that it does not take. -/
  | ignoredValue (switch : Switch) (value : String)
  | filesRequired
  | unrecognized (words : List String)
  deriving DecidableEq, Repr

def Fault.message : Fault → String
  | ambiguous word spellings =>
      "ambiguous option: " ++ word ++ " could match " ++ ", ".intercalate spellings
  | ignoredValue switch value =>
      "argument " ++ switch.title ++ ": ignored explicit argument " ++ Quoted.encode value
  | filesRequired => "the following arguments are required: files"
  | unrecognized words => "unrecognized arguments: " ++ " ".intercalate words

/-- What a word is before any is acted upon. -/
inductive Word where
  /-- Two hyphens. -/
  | separator
  | file (text : String)
  /-- A switch, with what is joined to it: a value behind an equals sign, or more letters. -/
  | switch (text : String) (switch : Switch) (isShort : Bool) (value : Option (Bool × List Char))
  /-- Something that looks like a switch and is none. -/
  | unknown (text : String)
  deriving DecidableEq, Repr

/-- The word as it was written. -/
def Word.text : Word → String
  | separator => "--"
  | file text => text
  | switch text _ _ _ => text
  | unknown text => text

/-- Whether a text is a number below zero, which is no switch. -/
def isNegativeNumber (text : List Char) : Bool :=
  let isDecimal (c : Char) : Bool := (decimalValue? c).isSome
  match text with
  | '-' :: rest =>
      -- one line feed may stand at the end
      let body := if rest.getLast? = some '\n' then rest.dropLast else rest
      let whole := body.takeWhile isDecimal
      match body.dropWhile isDecimal with
      | [] => !whole.isEmpty
      | '.' :: fraction => !fraction.isEmpty && fraction.all isDecimal
      | _ => false
  | _ => false

/-- A word that starts with a hyphen and matches no switch. -/
def wordOfRest (text : String) : Word :=
  if isNegativeNumber text.toList || text.toList.contains ' ' then .file text else .unknown text

/-- A text up to its first equals sign and, if there is one, what follows it. -/
def splitValue (text : List Char) : List Char × Option (List Char) :=
  match text.dropWhile (· ≠ '=') with
  | _ :: value => (text.takeWhile (· ≠ '='), some value)
  | [] => (text, none)

/-- The word that a text is when no separator stands in front of it. -/
def wordOf (text : String) : Except Fault Word :=
  let characters := text.toList
  let (front, value) := splitValue characters
  let isShort (spelling : String) : Bool := spelling.length == 2
  if characters.head? ≠ some '-' ∨ characters = ['-'] then .ok (.file text)
  else
    match Switch.spellings.lookup text with
    | some switch => .ok (.switch text switch (isShort text) none)
    | none =>
        match value, Switch.spellings.lookup (.ofList front) with
        | some value, some switch =>
            .ok (.switch text switch (isShort (.ofList front)) (some (true, value)))
        | _, _ =>
            if characters.take 2 = ['-', '-'] then
              match Switch.spellings.filter fun entry => front.isPrefixOf entry.1.toList with
              | [] => .ok (wordOfRest text)
              | [(_, switch)] => .ok (.switch text switch false (value.map fun v => (true, v)))
              | several => .error (.ambiguous text (several.map (·.1)))
            else
              match Switch.spellings.lookup (.ofList (characters.take 2)) with
              | some switch => .ok (.switch text switch true (some (false, characters.drop 2)))
              | none => .ok (wordOfRest text)

/-- The words of a command line. -/
def wordsOf : List String → Except Fault (List Word)
  | [] => .ok []
  | text :: rest =>
      if text = "--" then .ok (.separator :: rest.map .file)
      else do
        let word ← wordOf text
        let words ← wordsOf rest
        pure (word :: words)

/-- What has been gathered from the words so far. -/
structure Gathered where
  files : Option (List String)
  strict : Bool
  leftOver : List String
  deriving DecidableEq, Repr

/-- What a command line asks for. -/
inductive Request where
  | help
  | check (files : List String) (strict : Bool)
  deriving DecidableEq, Repr

/-- Switches of one letter that are joined to another: each must be one that is known, and a value
behind an equals sign is refused.  The first of them is acted upon unless a later one is a fault. -/
def joinedSwitches (switch : Switch) (hasSign : Bool) : List Char → Except Fault Unit
  | [] => if hasSign then .error (.ignoredValue switch "") else .ok ()
  | c :: rest =>
      if hasSign || c = '-' then .error (.ignoredValue switch (.ofList (c :: rest)))
      else
        match Switch.spellings.lookup (.ofList ['-', c]) with
        | none => .ok ()
        | some next =>
            match rest with
            | [] => .ok ()
            | '=' :: value =>
                if value.isEmpty then .error (.ignoredValue next "")
                else .error (.ignoredValue next (.ofList value))
            | _ => joinedSwitches next false rest

/-- Whether a word is a file or the separator. -/
def isOperand : Word → Bool
  | .separator => true
  | .file _ => true
  | _ => false

/-- The files among some operands. -/
def filesOf (operands : List Word) : List String :=
  operands.filterMap fun word =>
    match word with
    | .file text => some text
    | _ => none

/-- Take some operands that stand together.  The first ones that hold a file are the files; any
later ones are left over. -/
def takeOperands (gathered : Gathered) (operands : List Word) : Gathered :=
  match gathered.files with
  | none =>
      if (filesOf operands).isEmpty then
        { gathered with leftOver := gathered.leftOver ++ operands.map Word.text }
      else { gathered with files := some (filesOf operands) }
  | some _ => { gathered with leftOver := gathered.leftOver ++ operands.map Word.text }

/-- Act upon the words one by one.  `pending` holds the operands read since the last switch, in
reverse. -/
def gather (gathered : Gathered) (pending : List Word) : List Word → Except Fault (Option Gathered)
  | [] => .ok (some (takeOperands gathered pending.reverse))
  | word :: rest =>
      let before := takeOperands gathered pending.reverse
      match word with
      | .separator => gather gathered (.separator :: pending) rest
      | .file text => gather gathered (.file text :: pending) rest
      | .unknown text => gather { before with leftOver := before.leftOver ++ [text] } [] rest
      | .switch _ switch isShort value =>
          let joined : Except Fault Unit :=
            match value with
            | none => .ok ()
            | some (hasSign, value) =>
                if isShort then joinedSwitches switch hasSign value
                else .error (.ignoredValue switch (.ofList value))
          match joined, switch with
          | .error fault, _ => .error fault
          | .ok (), .help => .ok none
          | .ok (), .strict => gather { before with strict := true } [] rest

/-- What a command line asks for. -/
def parse (arguments : List String) : Except Fault Request := do
  let words ← wordsOf arguments
  match ← gather ⟨none, false, []⟩ [] words with
  | none => pure .help
  | some gathered =>
      match gathered.files with
      | none => throw .filesRequired
      | some files =>
          if gathered.leftOver.isEmpty then pure (.check files gathered.strict)
          else throw (.unrecognized gathered.leftOver)

/-! ### Texts -/

def programName : String := "validate_exercises"

def usage : String :=
  "usage: " ++ programName ++ " [-h] [--strict] files [files ...]\n"

def help : String :=
  usage ++ "
Validate exercise JSON files

positional arguments:
  files       exercise JSON files

options:
  -h, --help  show this help message and exit
  --strict    treat warnings as errors
"

/-- What is shown for a fault. -/
def faultText (fault : Fault) : String :=
  usage ++ programName ++ ": error: " ++ fault.message ++ "\n"

end CommandLine
end AnswerKey
