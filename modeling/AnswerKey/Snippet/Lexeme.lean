import AnswerKey.Text.Line

namespace AnswerKey
namespace Snippet

/-!
Lexemes: the units by which two snippets are compared when only layout may differ.

The text is read line by line.  Between lines the reader is in one of three modes: at the start of a
statement, where indentation counts; behind a backslash or inside brackets, where it does not; or
inside a string that runs over several lines.  Comments and blank lines leave no lexeme, and line
ends and changes of indentation leave lexemes without text.
-/

open Text

namespace Lexeme

/-- The kinds of lexeme. -/
inductive Kind where
  | name
  | number
  | string
  | newline
  | indent
  | dedent
  | operator
  /-- A character, or an unfinished string, that belongs to no lexeme. -/
  | stray
  deriving DecidableEq, Repr

/-- The number by which a kind is reported. -/
def Kind.code : Kind → Nat
  | name => 1
  | number => 2
  | string => 3
  | newline => 4
  | indent => 5
  | dedent => 6
  | operator => 54
  | stray => 60

end Lexeme

/-- A lexeme.  Line ends and changes of indentation have no text. -/
structure Lexeme where
  kind : Lexeme.Kind
  text : String
  deriving DecidableEq, Repr

namespace Lexeme

def newlineMark : Lexeme := ⟨.newline, ""⟩
def indentMark : Lexeme := ⟨.indent, ""⟩
def dedentMark : Lexeme := ⟨.dedent, ""⟩

/-! ### Numbers -/

/-- The longest run of digits of a class, single underscores allowed before a digit. -/
def digitRun (p : Char → Bool) : List Char → List Char × List Char
  | '_' :: c :: rest =>
      if p c then ('_' :: c :: (digitRun p rest).1, (digitRun p rest).2) else ([], '_' :: c :: rest)
  | c :: rest => if p c then (c :: (digitRun p rest).1, (digitRun p rest).2) else ([], c :: rest)
  | [] => ([], [])

/-- A run of decimal digits that starts with a digit. -/
def decimalRun (text : List Char) : List Char × List Char :=
  match text with
  | c :: _ => if isAsciiDigit c then digitRun isAsciiDigit text else ([], text)
  | [] => ([], [])

/-- An exponent, or nothing when none is complete. -/
def exponentRun (text : List Char) : List Char × List Char :=
  match text with
  | c :: rest =>
      if c = 'e' ∨ c = 'E' then
        let (sign, digits) :=
          match rest with
          | '-' :: more => (['-'], more)
          | '+' :: more => (['+'], more)
          | _ => ([], rest)
        match decimalRun digits with
        | ([], _) => ([], text)
        | (shown, behind) => (c :: (sign ++ shown), behind)
      else ([], text)
  | [] => ([], [])

/-- Take the mark of an imaginary number, when it follows. -/
def withImaginary (number rest : List Char) : List Char × List Char :=
  match rest with
  | c :: behind => if c = 'j' ∨ c = 'J' then (number ++ [c], behind) else (number, rest)
  | [] => (number, [])

def isHexDigit (c : Char) : Bool :=
  (hexDigitValue? c).isSome

/-- An integer: hexadecimal, binary or octal behind its mark, zeros, or a decimal one. -/
def integerRun (text : List Char) : List Char × List Char :=
  let plain : List Char × List Char :=
    match text with
    | '0' :: _ => digitRun (· == '0') text
    | _ => decimalRun text
  match text with
  | '0' :: mark :: rest =>
      let based (p : Char → Bool) : List Char × List Char :=
        match digitRun p rest with
        | ([], _) => plain
        | (digits, behind) => ('0' :: mark :: digits, behind)
      if mark = 'x' ∨ mark = 'X' then based isHexDigit
      else if mark = 'b' ∨ mark = 'B' then based (fun c => c == '0' || c == '1')
      else if mark = 'o' ∨ mark = 'O' then based (fun c => '0' ≤ c && c ≤ '7')
      else plain
  | _ => plain

/-- A number at the head of a text. -/
def number? (text : List Char) : Option (List Char × List Char) :=
  match decimalRun text with
  | ([], _) =>
      match text with
      | '.' :: rest =>
          match decimalRun rest with
          | ([], _) => none
          | (fraction, behind) =>
              let (power, rest) := exponentRun behind
              some (withImaginary ('.' :: (fraction ++ power)) rest)
      | _ => none
  | (whole, '.' :: rest) =>
      let (fraction, behind) := decimalRun rest
      let (power, behind) := exponentRun behind
      some (withImaginary (whole ++ '.' :: (fraction ++ power)) behind)
  | (whole, rest) =>
      match exponentRun rest with
      | ([], _) =>
          match rest with
          | 'j' :: behind => some (whole ++ ['j'], behind)
          | 'J' :: behind => some (whole ++ ['J'], behind)
          | _ => some (integerRun text)
      | (power, behind) => some (withImaginary (whole ++ power) behind)

/-! ### Operators -/

/-- Operators of three characters. -/
def operators3 : List String :=
  ["**=", "//=", ">>=", "<<=", "..."]

/-- Operators of two characters. -/
def operators2 : List String :=
  ["!=", "%=", "&=", "**", "*=", "+=", "-=", "->", "//", "/=", ":=", "<<", "<=", "==", ">=", ">>",
    "@=", "^=", "|="]

/-- Operators of one character. -/
def operators1 : List Char :=
  "%&()*+,-./:;<=>@[]^\x7b|\x7d~".toList

/-- The longest operator at the head of a text. -/
def operator? (text : List Char) : Option (List Char × List Char) :=
  if operators3.contains (.ofList (text.take 3)) then some (text.take 3, text.drop 3)
  else if operators2.contains (.ofList (text.take 2)) then some (text.take 2, text.drop 2)
  else
    match text with
    | c :: rest => if operators1.contains c then some ([c], rest) else none
    | [] => none

/-! ### Strings -/

def isQuote (c : Char) : Bool :=
  c == '\'' || c == '"'

/-- The letters that may stand before an opening quote, in any case and order. -/
def stringMarks : List String :=
  ["b", "r", "u", "f", "br", "rb", "fr", "rf"]

def isStringMark (letters : List Char) : Bool :=
  letters.isEmpty || stringMarks.contains (.ofList (letters.map lowerChar))

/-- The opening of a string: its mark, its quote and what follows the quote. -/
def opening? (text : List Char) : Option (List Char × Char × List Char) :=
  match text with
  | q :: rest =>
      if isQuote q then some ([], q, rest)
      else
        match rest with
        | q' :: rest' =>
            if isQuote q' then
              if isAscii q && isStringMark [q] then some ([q], q', rest') else none
            else
              match rest' with
              | q'' :: rest'' =>
                  if isQuote q'' && isAscii q && isAscii q' && isStringMark [q, q'] then
                    some ([q, q'], q'', rest'')
                  else none
              | [] => none
        | [] => none
  | [] => none

/-- How the part of a string that lies on one line ends. -/
inductive Ending where
  /-- The closing quote stands on the line. -/
  | closed (body rest : List Char)
  /-- A backslash at the end of the line carries the string on. -/
  | carried
  /-- The line ends first. -/
  | broken

/-- The body of a string in single quotes, up to its closing quote or the end of the line. -/
def shortBody (quote : Char) (seen : List Char) : List Char → Ending
  | [] => .broken
  | '\\' :: '\n' :: _ => .carried
  | '\\' :: '\r' :: '\n' :: _ => .carried
  | '\\' :: c :: rest => shortBody quote (c :: '\\' :: seen) rest
  | c :: rest =>
      if c = quote then .closed (c :: seen).reverse rest
      else if c = '\n' ∨ c = '\\' then .broken
      else shortBody quote (c :: seen) rest

/-- The rest of a carried string on a later line: everything up to the closing quote. -/
def carriedBody (quote : Char) (seen : List Char) : List Char → Option (List Char × List Char)
  | [] => none
  | '\\' :: '\n' :: _ => none
  | '\\' :: c :: rest => carriedBody quote (c :: '\\' :: seen) rest
  | c :: rest =>
      if c = quote then some ((c :: seen).reverse, rest)
      else if c = '\\' then none
      else carriedBody quote (c :: seen) rest

/-- The rest of a string in triple quotes on one line, when it closes there. -/
def tripleBody (quote : Char) (seen : List Char) : List Char → Option (List Char × List Char)
  | [] => none
  | '\\' :: '\n' :: _ => none
  | '\\' :: c :: rest => tripleBody quote (c :: '\\' :: seen) rest
  | a :: b :: c :: rest =>
      if a = quote ∧ b = quote ∧ c = quote then some ((c :: b :: a :: seen).reverse, rest)
      else tripleBody quote (a :: seen) (b :: c :: rest)
  | _ => none

/-! ### Lines -/

/-- Cut a text behind every line feed.  The first argument holds, in reverse, the line being read. -/
def cutLines (current : List Char) : List Char → List (List Char)
  | [] => if current.isEmpty then [] else [current.reverse]
  | c :: rest =>
      if c = '\n' then (c :: current).reverse :: cutLines [] rest
      else cutLines (c :: current) rest

/-- The lines of a text, each with its line feed; the last may lack one. -/
def physicalLines (text : List Char) : List (List Char) :=
  cutLines [] text

/-- Where the reader stands between two lines. -/
inductive Mode where
  | statement
  /-- Behind a backslash at the end of a line. -/
  | continued
  /-- Inside a string; the text so far is kept in order. -/
  | inString (quote : Char) (triple : Bool) (seen : List Char)
  deriving DecidableEq, Repr

/-- The state between two lines: bracket depth, which may fall below zero, open indentations with
the innermost first, the mode, and whether a string may only go on behind a backslash.  That is so for
a string in single quotes, and after one that broke off it stays so, even for triple quotes, until a
string of several lines has been closed. -/
structure State where
  depth : Int
  indents : List Nat
  mode : Mode
  needsBackslash : Bool
  deriving DecidableEq, Repr

def State.start : State := ⟨0, [0], .statement, false⟩

/-- Remove the blanks that may stand between lexemes. -/
def skipGap (text : List Char) : List Char :=
  text.dropWhile fun c => c == ' ' || c == '\x0c' || c == '\t'

/-- What a place of a line holds. -/
inductive Piece where
  /-- Nothing more on this line. -/
  | done
  | lexeme (kind : Kind) (text rest : List Char)
  | lineEnd (rest : List Char)
  | comment (rest : List Char)
  | backslash (rest : List Char)
  /-- A string that does not end on this line. -/
  | unfinished (quote : Char) (triple : Bool) (text : List Char)
  /-- A character that starts nothing. -/
  | nothing

/-- The word at the head of a text, as a name or, when it cannot start one, as an operator. -/
def wordPiece (text : List Char) : Piece :=
  match text with
  | c :: _ =>
      if isWordCharacter c then
        .lexeme (if isIdentifierStart c then .name else .operator)
          (text.takeWhile isWordCharacter) (text.dropWhile isWordCharacter)
      else .nothing
  | [] => .nothing

/-- A string at the head of a text, behind its opening. -/
def stringPiece (text mark : List Char) (quote : Char) (rest : List Char) : Piece :=
  match rest with
  | a :: b :: behind =>
      if a = quote ∧ b = quote then
        match tripleBody quote [] behind with
        | some (body, after) => .lexeme .string (mark ++ quote :: quote :: quote :: body) after
        | none => .unfinished quote true text
      else short
  | _ => short
where
  /-- The string in single quotes. -/
  short : Piece :=
    match shortBody quote [] rest with
    | .closed body after => .lexeme .string (mark ++ quote :: body) after
    | .carried => .unfinished quote false text
    | .broken => wordPiece text

/-- The piece at the head of a text that starts with no gap. -/
def pieceHere (text : List Char) : Piece :=
  match text with
  | [] => .done
  | '\\' :: '\n' :: rest => .backslash rest
  | '\\' :: '\r' :: '\n' :: rest => .backslash rest
  | '#' :: _ => .comment (text.dropWhile fun c => c != '\r' && c != '\n')
  | '\n' :: rest => .lineEnd rest
  | '\r' :: '\n' :: rest => .lineEnd rest
  | _ =>
      match opening? text with
      | some (mark, quote, rest) => stringPiece text mark quote rest
      | none =>
          match number? text with
          | some (digits, rest) => .lexeme .number digits rest
          | none =>
              match operator? text with
              | some (symbol, rest) => .lexeme .operator symbol rest
              | none => wordPiece text

/-- How a lexeme changes the bracket depth. -/
def depthStep (kind : Kind) (shown : List Char) : Int :=
  match kind, shown with
  | .operator, '(' :: _ => 1
  | .operator, '[' :: _ => 1
  | .operator, '\x7b' :: _ => 1
  | .operator, ')' :: _ => -1
  | .operator, ']' :: _ => -1
  | .operator, '\x7d' :: _ => -1
  | _, _ => 0

/-- Read the rest of a line.  A place where nothing starts yields its character as a stray one, be
it a blank in front of the offender. -/
def readRest (state : State) : (fuel : Nat) → List Char → List Lexeme × State
  | 0, _ => ([], state)
  | fuel + 1, text =>
      match pieceHere (skipGap text) with
      | .done => ([], state)
      | .lexeme kind shown rest =>
          let (others, final) :=
            readRest { state with depth := state.depth + depthStep kind shown } fuel rest
          (⟨kind, .ofList shown⟩ :: others, final)
      | .lineEnd rest =>
          let (others, final) := readRest state fuel rest
          (if 0 < state.depth then others else newlineMark :: others, final)
      | .comment rest => readRest state fuel rest
      | .backslash rest => readRest { state with mode := .continued } fuel rest
      | .unfinished quote triple seen =>
          ([], { state with
            mode := .inString quote triple seen
            needsBackslash := state.needsBackslash || !triple })
      | .nothing =>
          match text with
          | [] => ([], state)
          | c :: rest =>
              let (others, final) := readRest state fuel rest
              (⟨.stray, .ofList [c]⟩ :: others, final)

/-- The column of the first character behind the indentation, and the text from there on.  Tabs lead
to multiples of eight; a form feed starts the count again. -/
def indentation : (column : Nat) → List Char → Nat × List Char
  | column, ' ' :: rest => indentation (column + 1) rest
  | column, '\t' :: rest => indentation ((column / 8 + 1) * 8) rest
  | _, '\x0c' :: rest => indentation 0 rest
  | column, text => (column, text)

/-- Close indentations down to a column.  The column must be one of the open ones. -/
def closeTo (column : Nat) : List Nat → Option (List Lexeme × List Nat)
  | [] => some ([], [])
  | top :: below =>
      if column < top then
        if below.contains column then
          (closeTo column below).map fun (marks, left) => (dedentMark :: marks, left)
        else none
      else some ([], top :: below)

/-- Open or close indentations for a statement that starts at a column. -/
def moveTo (column : Nat) (indents : List Nat) : Option (List Lexeme × List Nat) :=
  match indents with
  | [] => some ([], [])
  | top :: _ =>
      if top < column then some ([indentMark], column :: indents) else closeTo column indents

/-- What one line yields. -/
inductive Step where
  | more (lexemes : List Lexeme) (state : State)
  /-- A line of blanks without a line feed: the text ends here. -/
  | stop
  /-- A statement that returns to no open indentation. -/
  | misplaced

/-- Whether a line ends in a backslash before its line feed. -/
def endsInBackslash (line : List Char) : Bool :=
  match line.reverse with
  | '\n' :: '\\' :: _ => true
  | '\n' :: '\r' :: '\\' :: _ => true
  | _ => false

/-- Read a line of a statement from a given place, in statement mode. -/
def readTail (state : State) (text : List Char) : List Lexeme × State :=
  readRest { state with mode := .statement } (text.length + 1) text

/-- Read one line. -/
def readLine (state : State) (line : List Char) : Step :=
  match state.mode with
  | .inString quote triple seen =>
      let closing := if triple then tripleBody quote [] line else carriedBody quote [] line
      match closing with
      | some (body, rest) =>
          let (others, final) := readTail { state with needsBackslash := false } rest
          .more (⟨.string, .ofList (seen ++ body)⟩ :: others) final
      | none =>
          if !state.needsBackslash || endsInBackslash line then
            .more [] { state with mode := .inString quote triple (seen ++ line) }
          else
            .more [⟨.stray, .ofList (seen ++ line)⟩] { state with mode := .statement }
  | .continued =>
      let (lexemes, final) := readTail state line
      .more lexemes final
  | .statement =>
      if state.depth = 0 then
        match indentation 0 line with
        | (_, []) => .stop
        | (column, c :: rest) =>
            if c = '#' ∨ c = '\r' ∨ c = '\n' then .more [] state
            else
              match moveTo column state.indents with
              | none => .misplaced
              | some (marks, indents) =>
                  let (others, final) := readTail { state with indents := indents } (c :: rest)
                  .more (marks ++ others) final
      else
        let (lexemes, final) := readTail state line
        .more lexemes final

/-- What the end of the text yields: a line end if the last line lacks one, and the closing of every
open indentation. -/
def finish (last : List Char) (indents : List Nat) : List Lexeme :=
  let bare :=
    match last.reverse with
    | [] => false
    | c :: _ => c != '\r' && c != '\n' && (trim last).head? != some '#'
  (if bare then [newlineMark] else []) ++ List.replicate (indents.length - 1) dedentMark

/-- Read all lines.  Nothing results when the text ends inside a statement or a string, or when an
indentation fits nowhere.  `last` is the line before. -/
def readLines (state : State) (last : List Char) : List (List Char) → Option (List Lexeme)
  | [] =>
      if state.mode = .statement ∧ state.depth = 0 then some (finish last state.indents) else none
  | line :: rest =>
      match readLine state line with
      | .stop => some (finish last state.indents)
      | .misplaced => none
      | .more lexemes next => (readLines next line rest).map (lexemes ++ ·)

/-- The lexemes of a text. -/
def ofChars? (text : List Char) : Option (List Lexeme) :=
  readLines .start [] (physicalLines text)

/-- The lexemes of a snippet. -/
def ofText? (text : String) : Option (List Lexeme) :=
  ofChars? text.toList

end Lexeme
end Snippet
end AnswerKey
