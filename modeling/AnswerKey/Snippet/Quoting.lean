import AnswerKey.Text.Quoted

namespace AnswerKey
namespace Snippet
namespace Quoting

/-!
Quotes for a literal that is written with as few escapes as possible.  Line feeds and tabs may stand
as they are; of the quotes that do not occur in the text the first that fits is taken.
-/

open Text

/-- One code point without regard to quotes. -/
def escape (keepsGaps : Bool) (code : Nat) : List Char :=
  if keepsGaps && (code == 9 || code == 10) then [Char.ofNat code]
  else if code = 9 then ['\\', 't']
  else if code = 10 then ['\\', 'n']
  else if code = 13 then ['\\', 'r']
  else if code = '\\'.toNat then ['\\', '\\']
  else if Quoted.isShown code then [Char.ofNat code]
  else Quoted.escapeCode code

/-- Quotes of three characters, between which line feeds may stand. -/
def longQuotes : List (List Char) :=
  [['"', '"', '"'], ['\'', '\'', '\'']]

/-- All quotes in the order of preference. -/
def quotes : List (List Char) :=
  ['\''] :: ['"'] :: longQuotes

/-- Whether a text holds another one. -/
def occursIn (part : List Char) : List Char → Bool
  | [] => part.isEmpty
  | c :: rest => part.isPrefixOf (c :: rest) || occursIn part rest

/-- The quotes of a selection that a text may stand between, those first whose character is not the
last of the text. -/
def possible (selection : List (List Char)) (text : List Char) : List (List Char) :=
  let fitting := selection.filter fun quote =>
    (!text.contains '\n' || longQuotes.contains quote) && !occursIn quote text
  let clashes (quote : List Char) : Bool := !text.isEmpty && quote.head? == text.getLast?
  fitting.filter (!clashes ·) ++ fitting.filter clashes

/-- What is written between the quotes for a text, and the quotes that may be used, the preferred
ones first.  When no quote of the selection fits, the text is quoted in the plain way and only the
quote of the selection with the same character remains. -/
def choose (selection : List (List Char)) (keepsGaps : Bool) (codes : List Nat) :
    List Char × List (List Char) :=
  let text := codes.flatMap (escape keepsGaps)
  match possible selection text with
  | [] =>
      let plain := Quoted.encodeCodes codes
      let mark := plain.head?.toList
      let quote := (selection.find? fun quote => quote.head? == plain.head?).getD mark
      ((plain.drop 1).dropLast, [quote])
  | quote :: others =>
      if !text.isEmpty && quote.head? == text.getLast? then
        (text.dropLast ++ '\\' :: (text.drop (text.length - 1)), quote :: others)
      else (text, quote :: others)

/-- A text between quotes of a selection. -/
def write (selection : List (List Char)) (codes : List Nat) : List Char :=
  let (body, found) := choose selection true codes
  let quote := found.headD []
  quote ++ body ++ quote

/-- Settle the quotes for the parts of a formatted literal, of which each is either literal text or a
field.  The parts narrow the choice one after the other; nothing is left when they contradict each
other. -/
def settle (selection : List (List Char)) :
    List (List Nat × Bool) → Option (List Char × List (List Char))
  | [] => some ([], selection)
  | (codes, isText) :: rest =>
      let (body, found) := choose selection (!isText) codes
      if found.any selection.contains then
        (settle found rest).map fun (others, left) => (body ++ others, left)
      else none

/-- A formatted literal from its parts. -/
def writeParts (parts : List (List Nat × Bool)) : List Char :=
  match settle quotes parts with
  | some (body, found) =>
      let quote := found.headD []
      quote ++ body ++ quote
  | none =>
      let quote := ['\'', '\'', '\'']
      quote ++ parts.flatMap (fun part => part.1.flatMap (Quoted.encodeCode '\'')) ++ quote

end Quoting
end Snippet
end AnswerKey
