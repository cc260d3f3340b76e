import AnswerKey.Json.Writer
import AnswerKey.Snippet.Canonical
import AnswerKey.Snippet.Lexeme

namespace AnswerKey
namespace Worker

/-!
Helpers: programs that a worker compiles once and whose functions it can then be asked to call.  There
are two, one for canonical forms and one for tokens.  A call gets the values of a request as its
arguments, so each function says what becomes of arguments it was not made for.
-/

open Snippet

/-- An error of a class, with the text that goes with it. -/
structure Fault where
  name : String
  message : String
  deriving DecidableEq, Repr

namespace Fault

/-- The text of a fault: its class, and what it says if it says anything. -/
def text (fault : Fault) : String :=
  if fault.message.isEmpty then fault.name
  else Text.trimString (fault.name ++ ": " ++ fault.message)

def typeError (message : String) : Fault := ⟨"TypeError", message⟩

def valueError (message : String) : Fault := ⟨"ValueError", message⟩

end Fault

/-- What a function gives back: a value that can be written, or a thing of a named type that
cannot. -/
inductive Yield where
  | value (value : Json)
  | thing (typeName : String)

inductive Helper where
  | canonical
  | tokenizer
  deriving DecidableEq, Repr

namespace Helper

/-- The name under which a helper is loaded. -/
def name : Helper → String
  | canonical => "canonical"
  | tokenizer => "tokenizer"

/-- The text that stands for the program of a helper wherever programs are handed on. -/
def source : Helper → String
  | canonical => "@canonical"
  | tokenizer => "@tokenizer"

def all : List Helper := [canonical, tokenizer]

/-- The helper whose program a text stands for. -/
def ofSource? (source : String) : Option Helper :=
  all.find? (·.source == source)

end Helper

/-- The functions of the helpers. -/
inductive Function where
  | parse
  | canonicalTree
  | normalize
  | canonicalSource
  | isInteger
  | isNone
  | isDocstring
  | canonicalizer
  | tokenize
  deriving DecidableEq, Repr

namespace Function

/-- The name by which a function is called. -/
def name : Function → String
  | parse => "parse_code"
  | canonicalTree => "canonical_tree"
  | normalize => "normalize_code"
  | canonicalSource => "canonical_source"
  | isInteger => "_is_int"
  | isNone => "_is_none"
  | isDocstring => "_is_docstring"
  | canonicalizer => "Canonicalize"
  | tokenize => "tokenize_code"

/-- The helper that a function belongs to. -/
def helper : Function → Helper
  | tokenize => .tokenizer
  | _ => .canonical

def all : List Function :=
  [parse, canonicalTree, normalize, canonicalSource, isInteger, isNone, isDocstring, canonicalizer,
    tokenize]

/-- The function of a name, among those of some helpers. -/
def find? (helpers : List Helper) (name : String) : Option Function :=
  all.find? fun function => function.name == name && helpers.contains function.helper

/-- The name of a function in messages about its arguments. -/
def shownName : Function → String
  | canonicalizer => "Canonicalize.__init__"
  | function => function.name

/-- Names of the arguments that a function needs. -/
def required : Function → List String
  | isInteger => ["node", "value"]
  | isNone => ["node"]
  | isDocstring => ["stmt"]
  | canonicalizer => []
  | _ => ["code"]

/-- How many arguments more a function takes. -/
def optionalCount : Function → Nat
  | parse => 1
  | canonicalTree => 2
  | normalize => 2
  | canonicalSource => 2
  | canonicalizer => 1
  | _ => 0

/-- Arguments that are given without being written down in a call. -/
def implicitCount : Function → Nat
  | canonicalizer => 1
  | _ => 0

end Function

/-! ### Arguments -/

/-- A number of things and their name. -/
def counted (count : Nat) (noun : String) : String :=
  Decimal.ofInt count ++ " " ++ noun ++ (if count = 1 then "" else "s")

/-- Names in quotes, joined in words. -/
def joinedNames : List String → String
  | [] => ""
  | [name] => "'" ++ name ++ "'"
  | [a, b] => "'" ++ a ++ "' and '" ++ b ++ "'"
  | name :: rest => "'" ++ name ++ "', " ++ joinedNames rest

/-- Whether so many arguments fit a function. -/
def checkCount (function : Function) (given : Nat) : Except Fault Unit :=
  let needed := function.required.length + function.implicitCount
  let most := needed + function.optionalCount
  let present := given + function.implicitCount
  if most < present then
    let taken :=
      if function.optionalCount = 0 then counted most "positional argument"
      else "from " ++ Decimal.ofInt needed ++ " to " ++ counted most "positional argument"
    .error (.typeError
      (function.shownName ++ "() takes " ++ taken ++ " but " ++ Decimal.ofInt present ++
        (if present = 1 then " was given" else " were given")))
  else if present < needed then
    let missing := function.required.drop given
    .error (.typeError
      (function.shownName ++ "() missing " ++
        counted missing.length "required positional argument" ++ ": " ++ joinedNames missing))
  else .ok ()

/-- The arguments that a value stands for: items, keys or characters. -/
def argumentsOf (function : Function) : Json → Except Fault (List Json)
  | .arr items => .ok items
  | .obj fields => .ok (fields.map fun (key, _) => .str key)
  | .str text => .ok (text.toList.map fun c => .str (.ofList [c]))
  | value =>
      .error (.typeError
        ("sandbox_helpers." ++ function.name ++ "() argument after * must be an iterable, not " ++
          value.typeName))

/-- The options that an argument stands for; one that does not count as true changes nothing. -/
def optionsOf (argument : Json) : Except Fault Canonical.Options :=
  match argument with
  | .obj fields => .ok (.ofFields fields)
  | value =>
      if value.isTruthy then
        .error (.typeError ("'" ++ value.typeName ++ "' object is not a mapping"))
      else .ok .standard

/-! ### Functions -/

/-- The name of the type of a whole tree. -/
def rootName : Snippet.Tree → String
  | .module _ => "Module"
  | .expression _ => "Expression"
  | .node .interactive _ => "Interactive"
  | _ => "FunctionType"

/-- The tree of a source text in a mode, both given by values.  A mode that does not exist leaves
everything without a tree. -/
def treeOf? (code mode : Json) : Except Fault (Option (String × Snippet.Mode × Snippet.Tree)) :=
  match mode with
  | .str shown =>
      match Snippet.Mode.ofText? shown with
      | none => .ok none
      | some mode =>
          match code with
          | .str source => .ok ((Snippet.Tree.parse? mode source).map fun tree => (source, mode, tree))
          | _ => .error (.typeError "compile() arg 1 must be a string, bytes or AST object")
  | .null => .error (.typeError "compile() argument 'mode' must be str, not None")
  | value => .error (.typeError ("compile() argument 'mode' must be str, not " ++ value.typeName))

/-- Give a canonical form in the way of a function that makes one. -/
def canonicalForm (code options mode : Json)
    (form : Canonical.Options → Snippet.Mode → String → Except Fault Yield) : Except Fault Yield := do
  match ← treeOf? code mode with
  | none => pure (.value .null)
  | some (source, mode, _) => form (← optionsOf options) mode source

/-- A text, or what kept it from being written. -/
def written (result : Except Snippet.WritingFault (Option String)) : Except Fault Yield :=
  match result with
  | .ok text => .ok (.value (.ofText? text))
  | .error fault => .error (.valueError fault.message)

/-- The tokens of a text as a value: pairs of a number and a text. -/
def tokensOf (source : String) : Json :=
  match Snippet.Lexeme.ofText? source with
  | none => .null
  | some lexemes => .arr (lexemes.map fun lexeme => .arr [.int lexeme.kind.code, .str lexeme.text])

/-- What a function gives for as many arguments as it takes. -/
def apply (function : Function) (arguments : List Json) : Except Fault Yield :=
  let argument (index : Nat) (default : Json) : Json := (arguments[index]?).getD default
  let code := argument 0 .null
  match function with
  | .parse => do
      match ← treeOf? code (argument 1 (.str "auto")) with
      | none => pure (.value .null)
      | some (_, _, tree) => pure (.thing (rootName tree))
  | .canonicalTree =>
      canonicalForm code (argument 1 .null) (argument 2 (.str "auto")) fun options mode source =>
        .ok (match Canonical.tree? options mode source with
          | none => .value .null
          | some tree => .thing (rootName tree))
  | .normalize =>
      canonicalForm code (argument 1 .null) (argument 2 (.str "auto")) fun options mode source =>
        written (Canonical.dump? options mode source)
  | .canonicalSource =>
      canonicalForm code (argument 1 .null) (argument 2 (.str "auto")) fun options mode source =>
        written (Canonical.source? options mode source)
  | .isInteger => .ok (.value (.bool false))
  | .isNone => .ok (.value (.bool false))
  | .isDocstring => .ok (.value (.bool false))
  | .canonicalizer => do
      let _ ← optionsOf code
      pure (.thing "Canonicalize")
  | .tokenize =>
      match code with
      | .str source => .ok (.value (tokensOf source))
      | .null => .ok (.value (.arr []))
      | value =>
          .error (.typeError ("initial_value must be str or None, not " ++ value.typeName))

/-- Call a function with the arguments that a value stands for. -/
def Function.call (function : Function) (given : Json) : Except Fault Yield := do
  let arguments ← argumentsOf function given
  checkCount function arguments.length
  apply function arguments

end Worker
end AnswerKey
