import AnswerKey.Construct.Outline
import AnswerKey.Construct.Pattern

namespace AnswerKey

/-!
Constructs that an exercise may ask for, and how they are recognised.  A construct is looked for in
the outline of a snippet by a pattern; the snippet need not be well formed.
-/

/-- The constructs that can be asked for. -/
inductive Construct where
  | slice
  | comprehension
  | interpolation
  | conditional
  | enumerate
  | zip
  | lambda
  | generator
  deriving DecidableEq, Repr

namespace Construct

open Text Pattern

/-- All constructs with their names. -/
def named : List (String × Construct) :=
  [("slice", slice), ("comprehension", comprehension), ("f-string", interpolation),
    ("ternary", conditional), ("enumerate", enumerate), ("zip", zip), ("lambda", lambda),
    ("generator-expr", generator)]

/-- The construct with a given name. -/
def ofName? (name : String) : Option Construct :=
  named.lookup name

/-! ### Pieces of patterns -/

/-- A bracket with anything in it but brackets of the listed characters. -/
def flatGroup (opening : String) (excluded : String) (closing : String) : Pattern :=
  seq [literal opening, many (noneOf excluded), literal closing]

/-- A character that is no bracket, or a group of brackets without brackets of its own kind in it. -/
def generatorAtom : Pattern :=
  oneOf (noneOf "()[]\x7b\x7d")
    [flatGroup "(" "()" ")", flatGroup "[" "[]" "]", flatGroup "\x7b" "\x7b\x7d" "\x7d"]

/-- A character of a subscript, or a subscript in it, on one line; no lambda begins here. -/
def subscriptAtom : Pattern :=
  both (notBefore (word "lambda"))
    (either (noneOf "[]\x7b\x7d\n") (flatGroup "[" "[]\n" "]"))

/-- A character that is no bracket, or a group that is read as a unit: round brackets with one level
of round brackets in them, or other brackets without such brackets in them. -/
def comprehensionAtom : Pattern :=
  oneOf (noneOf "()[]\x7b\x7d")
    [seq [literal "(", many (either (noneOf "()") (flatGroup "(" "()" ")")), literal ")"],
      flatGroup "[" "[]\x7b\x7d" "]", flatGroup "\x7b" "[]\x7b\x7d" "\x7d"]

/-- Stretches of atoms around the words of a loop. -/
def loopOf (atom : Pattern) : Pattern :=
  seq [oneOrMore atom, word "for", oneOrMore atom, word "in", oneOrMore atom]

/-- A call of a function by its bare name. -/
def callOf (name : String) : Pattern :=
  seq [notAfter (fun c => isWordCharacter c || c == '.'), literal name, many (char isBlank),
    literal "("]

def isGap (c : Char) : Bool :=
  c == ' ' || c == '\t'

/-! ### The patterns of the constructs -/

/-- The pattern of a construct. -/
def pattern : Construct → Pattern
  | slice =>
      seq [.after (fun c => isWordCharacter c || c == ')' || c == ']' || c == '"'),
        many (char isGap), literal "[", many subscriptAtom, literal ":", many subscriptAtom,
        literal "]"]
  | comprehension =>
      seq [char (fun c => c == '[' || c == '\x7b'), loopOf comprehensionAtom,
        char (fun c => c == ']' || c == '\x7d')]
  | interpolation =>
      seq [notAfter (fun c => isWordCharacter c || c == '"'), literal "f\"\x7b_\x7d\""]
  | conditional =>
      seq [char (!isBlank ·), oneOrMore (char isGap), literal "if", edge,
        many (noneOf "\n"), word "else", many (char isGap), char (fun c => !isBlank c && c ≠ ':')]
  | enumerate => callOf "enumerate"
  | zip => callOf "zip"
  | lambda => seq [word "lambda", many (noneOf ":\n"), literal ":"]
  | generator => seq [literal "(", loopOf generatorAtom, literal ")"]

/-- Whether a construct occurs in a snippet. -/
def occursIn (construct : Construct) (snippet : String) : Bool :=
  construct.pattern.occursIn (outline snippet.toList)

/-- Whether the construct of a given name occurs in a snippet; a name that is not known names
nothing. -/
def isDetected (name snippet : String) : Bool :=
  match ofName? name with
  | some construct => construct.occursIn snippet
  | none => false

/-- The first of some names whose construct occurs in a snippet. -/
def firstDetected? (names : List String) (snippet : String) : Option String :=
  names.find? (isDetected · snippet)

end Construct
end AnswerKey
