import AnswerKey.Snippet.Literal
import AnswerKey.Snippet.Tree

namespace AnswerKey
namespace Snippet

/-!
Adjacent string literals and their replacement fields.

A formatted literal alternates literal text and fields.  A field holds an expression, which may not
contain backslashes or comments, then optionally an equals sign that asks for the text of the
expression as well, a conversion, and a specification that is itself a formatted text.  Fields nest
one level deep.
-/

open Text

/-- A stretch of literal text, or a field. -/
inductive Piece where
  | chunk (codes : List Nat)
  | field (tree : Tree)

namespace Interpolation

/-- How a stretch of literal text ends. -/
inductive Stop where
  /-- Behind a doubled brace; more literal text may follow. -/
  | doubled
  /-- In front of a brace or at the end of the text. -/
  | brace
  deriving DecidableEq

/-- The literal text in front of the next field.  `nested` tells a specification, in which braces
cannot be doubled; `seen` holds the characters read so far in reverse. -/
def literalRun? (raw nested : Bool) :
    (fuel : Nat) → (seen text : List Char) → Option (List Char × Stop × List Char)
  | 0, seen, text => some (seen.reverse, .brace, text)
  | fuel + 1, seen, text =>
      match text with
      | [] => some (seen.reverse, .brace, [])
      | c :: rest =>
          if c = '\\' ∧ !raw then
            match rest with
            | 'N' :: '\x7b' :: more =>
                let name := more.takeWhile (· ≠ '\x7d')
                literalRun? raw nested fuel
                  (((more.drop name.length).take 1).reverse ++ name.reverse ++
                    '\x7b' :: 'N' :: '\\' :: seen)
                  (more.drop (name.length + 1))
            | e :: more =>
                if e = '\x7b' ∨ e = '\x7d' then literalRun? raw nested fuel ('\\' :: seen) rest
                else literalRun? raw nested fuel (e :: '\\' :: seen) more
            | [] => some (('\\' :: seen).reverse, .brace, [])
          else if c = '\x7b' ∨ c = '\x7d' then
            if nested then some (seen.reverse, .brace, text)
            else if rest.head? = some c then some ((c :: seen).reverse, .doubled, rest.drop 1)
            else if c = '\x7d' then none
            else some (seen.reverse, .brace, text)
          else literalRun? raw nested fuel (c :: seen) rest

/-- How many brackets may be open inside a field. -/
def bracketLimit : Nat := 200

/-- Whether one bracket closes another. -/
def closes (opened closed : Char) : Bool :=
  (opened == '(' && closed == ')') || (opened == '[' && closed == ']') ||
    (opened == '\x7b' && closed == '\x7d')

/-- The expression of a field: everything up to the equals sign, conversion, specification or brace
that ends it outside strings and brackets. -/
def expressionRun? : (fuel : Nat) → (quote : Option (Char × Bool)) → (opened seen : List Char) →
    List Char → Option (List Char × List Char)
  | 0, _, _, _, _ => none
  | _ + 1, _, _, _, [] => none
  | fuel + 1, some (q, triple), opened, seen, c :: rest =>
      if c = '\\' then none
      else if c = q then
        if triple then
          match rest with
          | a :: b :: behind =>
              if a = q ∧ b = q then expressionRun? fuel none opened (q :: q :: q :: seen) behind
              else expressionRun? fuel (some (q, triple)) opened (c :: seen) rest
          | _ => expressionRun? fuel (some (q, triple)) opened (c :: seen) rest
        else expressionRun? fuel none opened (c :: seen) rest
      else expressionRun? fuel (some (q, triple)) opened (c :: seen) rest
  | fuel + 1, none, opened, seen, c :: rest =>
      if c = '\\' ∨ c = '#' then none
      else if c = '\'' ∨ c = '"' then
        match rest with
        | a :: b :: behind =>
            if a = c ∧ b = c then
              expressionRun? fuel (some (c, true)) opened (c :: c :: c :: seen) behind
            else expressionRun? fuel (some (c, false)) opened (c :: seen) rest
        | _ => expressionRun? fuel (some (c, false)) opened (c :: seen) rest
      else if c = '(' ∨ c = '[' ∨ c = '\x7b' then
        if bracketLimit ≤ opened.length then none
        else expressionRun? fuel none (c :: opened) (c :: seen) rest
      else if opened.isEmpty && "!:\x7d=<>".toList.contains c then
        if rest.head? = some '=' ∧ "!=<>".toList.contains c then
          expressionRun? fuel none opened ('=' :: c :: seen) (rest.drop 1)
        else if c = '<' ∨ c = '>' then expressionRun? fuel none opened (c :: seen) rest
        else some (seen.reverse, c :: rest)
      else if c = ')' ∨ c = ']' ∨ c = '\x7d' then
        match opened with
        | top :: below =>
            if closes top c then expressionRun? fuel none below (c :: seen) rest else none
        | [] => none
      else expressionRun? fuel none opened (c :: seen) rest

/-- A conversion, from behind its mark up to the brace or specification that follows it. -/
def conversion? (text : List Char) : Option (Conversion × List Char) :=
  match text with
  | c :: e :: rest =>
      if e = '\x7d' ∨ e = ':' then
        if c = 's' then some (.str, e :: rest)
        else if c = 'r' then some (.repr, e :: rest)
        else if c = 'a' then some (.ascii, e :: rest)
        else none
      else none
  | _ => none

/-- Blanks that the grammar skips inside an expression. -/
def isGap (c : Char) : Bool :=
  c == ' ' || c == '\t' || c == '\n' || c == '\x0c'

/-- Blanks that may follow the equals sign of a field. -/
def isAsciiBlank (c : Char) : Bool :=
  c == ' ' || (9 ≤ c.toNat && c.toNat ≤ 13)

/-- The text of a field that shows its expression, and what follows it. -/
def takeEcho (shown rest : List Char) : List Piece × List Char :=
  match rest with
  | '=' :: more =>
      let echo := shown ++ '=' :: more.takeWhile isAsciiBlank
      ([.chunk (echo.map Char.toNat)], more.dropWhile isAsciiBlank)
  | _ => ([], rest)

/-- The conversion of a field, when one is given, and what follows it. -/
def takeConversion? (rest : List Char) : Option (Option Conversion × List Char) :=
  match rest with
  | '!' :: more =>
      match conversion? more with
      | some (conversion, behind) => some (some conversion, behind)
      | none => none
  | _ => some (none, rest)

/-- Put the pieces together: adjacent stretches of text become one literal and empty ones vanish.
`marked` is the mark of the texts in front of a field, `lastMarked` that of the text behind the last
field. -/
def assemble (marked lastMarked : Bool) : (pending : List Nat) → List Piece → List Tree
  | [], [] => []
  | pending, [] => [.constant (.str pending lastMarked)]
  | pending, .chunk codes :: rest => assemble marked lastMarked (pending ++ codes) rest
  | [], .field tree :: rest => tree :: assemble marked lastMarked [] rest
  | pending, .field tree :: rest =>
      .constant (.str pending marked) :: tree :: assemble marked lastMarked [] rest

section Pieces

variable (parse : List Char → Option Tree) (raw marked : Bool)

mutual

/-- The pieces of a formatted text, up to its end or, in a specification, to the closing brace. -/
def pieces? (level : Nat) : (fuel : Nat) → List Char → Option (List Piece × List Char)
  | 0, _ => none
  | fuel + 1, text =>
      match literalRun? raw (level != 0) (text.length + 1) [] text with
      | none => none
      | some (run, stop, rest) =>
          match Literal.decodeText? raw run with
          | none => none
          | some codes =>
              if stop = .doubled then
                (pieces? level fuel rest).map fun (others, left) => (.chunk codes :: others, left)
              else
                match rest with
                | '\x7b' :: inside =>
                    match field? level fuel inside with
                    | none => none
                    | some (found, behind) =>
                        (pieces? level fuel behind).map fun (others, left) =>
                          (.chunk codes :: (found ++ others), left)
                | _ => some ([.chunk codes], rest)

/-- A field from behind its opening brace, and what follows its closing brace. -/
def field? (level : Nat) : (fuel : Nat) → List Char → Option (List Piece × List Char)
  | 0, _ => none
  | fuel + 1, text =>
      if 2 ≤ level then none
      else
        match expressionRun? (text.length + 1) none [] [] text with
        | none => none
        | some (shown, rest) =>
            if shown.all isGap then none
            else
              match parse shown with
              | none => none
              | some value =>
                  let (echo, rest) := takeEcho shown rest
                  match takeConversion? rest with
                  | none => none
                  | some (conversion, rest) =>
                      match rest with
                      | '\x7d' :: behind =>
                          let kind :=
                            if !echo.isEmpty && conversion.isNone then some Conversion.repr
                            else conversion
                          some (echo ++ [Piece.field (.node (.interpolation kind) [[value], []])],
                            behind)
                      | ':' :: specification =>
                          if specification.isEmpty then none
                          else
                            match pieces? (level + 1) fuel specification with
                            | some (found, '\x7d' :: behind) =>
                                let format : Tree := .node .joined [assemble marked false [] found]
                                some (echo ++ [Piece.field
                                  (.node (.interpolation conversion) [[value], [format]])], behind)
                            | _ => none
                      | _ => none

end

end Pieces

/-- The pieces of one text literal. -/
def piecesOf? (parse : List Char → Option Tree) (marked : Bool) (literal : Literal) :
    Option (List Piece) :=
  if literal.isFormatted then
    match pieces? parse literal.isRaw marked 0 (2 * literal.body.length + 2) literal.body with
    | some (found, []) => some found
    | _ => none
  else (Literal.decodeText? literal.isRaw literal.body).map fun codes => [.chunk codes]

/-- The codes of pieces without fields. -/
def codesOf (found : List Piece) : List Nat :=
  found.flatMap fun piece =>
    match piece with
    | .chunk codes => codes
    | .field _ => []

/-- The value of adjacent literals.  Byte strings and texts do not mix; the mark of the first literal
is that of the whole. -/
def join? (parse : List Char → Option Tree) (literals : List Literal) : Option Tree :=
  if literals.all (·.isBytes) then
    (literals.mapM fun literal => Literal.decodeBytes? literal.isRaw literal.body).map
      fun values => .constant (.bytes values.flatten)
  else if literals.any (·.isBytes) then none
  else
    let marked := (literals.head?.map (·.isMarked)).getD false
    (literals.mapM (piecesOf? parse marked)).map fun found =>
      if literals.any (·.isFormatted) then .node .joined [assemble marked marked [] found.flatten]
      else .constant (.str (codesOf found.flatten) marked)

end Interpolation
end Snippet
end AnswerKey
