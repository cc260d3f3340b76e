import AnswerKey.Json
import AnswerKey.Decimal.Shortest
import AnswerKey.Text.Quoted

namespace AnswerKey
namespace Json

/-!
Two texts of a data value.  `write` is the document form: ASCII only, a blank after every comma and
colon.  `display` is the form that a value takes inside a message, with quoted texts and the words
`None`, `True` and `False`.
-/

/-- The escape of one UTF-16 unit. -/
def unitEscape (unit : Nat) : List Char :=
  '\\' :: 'u' :: Text.Quoted.hexPadded 4 unit

/-- One character of a document text. -/
def writeChar (c : Char) : List Char :=
  let code := c.toNat
  if c = '"' then ['\\', '"']
  else if c = '\\' then ['\\', '\\']
  else if c = '\n' then ['\\', 'n']
  else if c = '\r' then ['\\', 'r']
  else if c = '\t' then ['\\', 't']
  else if code = 8 then ['\\', 'b']
  else if code = 12 then ['\\', 'f']
  else if 32 ≤ code ∧ code ≤ 126 then [c]
  else if code < 0x10000 then unitEscape code
  else
    unitEscape (0xd800 + (code - 0x10000) / 0x400) ++
      unitEscape (0xdc00 + (code - 0x10000) % 0x400)

/-- A document text with its quotes. -/
def writeText (text : String) : String :=
  .ofList ('"' :: (text.toList.flatMap writeChar ++ ['"']))

mutual

/-- The document form of a value. -/
def write : Json → String
  | null => "null"
  | bool true => "true"
  | bool false => "false"
  | int n => Decimal.ofInt n
  | float x => Decimal.Layout.document.write x
  | str s => writeText s
  | arr items => "[" ++ writeItems items ++ "]"
  | obj fields => "\x7b" ++ writeFields fields ++ "\x7d"

def writeItems : List Json → String
  | [] => ""
  | [item] => write item
  | item :: rest => write item ++ ", " ++ writeItems rest

def writeFields : List (String × Json) → String
  | [] => ""
  | [(key, value)] => writeText key ++ ": " ++ write value
  | (key, value) :: rest => writeText key ++ ": " ++ write value ++ ", " ++ writeFields rest

end

/-- How deep arrays and objects may nest in a value that is written. -/
def writingLimit : Nat := 993

/-- Whether a value has a document form that can be written. -/
def isWritable (value : Json) : Bool :=
  value.nesting ≤ writingLimit

mutual

/-- The form of a value nested in a message: texts are quoted. -/
def display : Json → String
  | null => "None"
  | bool true => "True"
  | bool false => "False"
  | int n => Decimal.ofInt n
  | float x => Decimal.Layout.plain.write x
  | str s => Text.Quoted.encode s
  | arr items => "[" ++ displayItems items ++ "]"
  | obj fields => "\x7b" ++ displayFields fields ++ "\x7d"

def displayItems : List Json → String
  | [] => ""
  | [item] => display item
  | item :: rest => display item ++ ", " ++ displayItems rest

def displayFields : List (String × Json) → String
  | [] => ""
  | [(key, value)] => Text.Quoted.encode key ++ ": " ++ display value
  | (key, value) :: rest =>
      Text.Quoted.encode key ++ ": " ++ display value ++ ", " ++ displayFields rest

end

/-- The form of a value on its own: a text stands for itself. -/
def text : Json → String
  | str s => s
  | value => display value

end Json
end AnswerKey
