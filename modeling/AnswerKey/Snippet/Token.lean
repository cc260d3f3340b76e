import AnswerKey.Snippet.Lexeme
import AnswerKey.Snippet.Literal
import AnswerKey.Snippet.Tree
import AnswerKey.Decimal.Shortest
import AnswerKey.Text.Compatibility

namespace AnswerKey
namespace Snippet

/-!
Tokens: what the grammar reads.

Unlike the lexemes of a comparison, tokens exist only for a text that is well formed at this level:
brackets match and nest at most two hundred deep, strings are closed, numbers end where a word may
begin, and indentation returns to an open level whichever way tabs are counted.
-/

open Text

inductive Token where
  /-- A name, and whether it was written in ASCII: only then may it be a keyword by its place. -/
  | name (id : String) (isPlain : Bool)
  | keyword (word : String)
  | number (value : Constant)
  | string (literal : Literal)
  | symbol (shown : String)
  | lineEnd
  | indent
  | dedent
  | finish
  deriving DecidableEq, Repr

namespace Token

/-- Words that cannot be names. -/
def keywords : List String :=
  ["False", "None", "True", "and", "as", "assert", "async", "await", "break", "class", "continue",
    "def", "del", "elif", "else", "except", "finally", "for", "from", "global", "if", "import",
    "in", "is", "lambda", "nonlocal", "not", "or", "pass", "raise", "return", "try", "while",
    "with", "yield"]

/-- The token of a word.  A word with characters beyond ASCII must be an identifier and is replaced
by its compatibility normal form. -/
def ofWord? (word : List Char) : Option Token :=
  if word.all isAscii then
    let shown : String := .ofList word
    some (if keywords.contains shown then keyword shown else name shown true)
  else if isIdentifier word then some (name (.ofList (Compatibility.normalize word)) false)
  else none

/-! ### Numbers -/

/-- Whether a character could belong to a word. -/
def mayContinueWord (c : Char) : Bool :=
  isAsciiLetter c || isAsciiDigit c || c == '_' || !isAscii c

/-- Whether a text starts with the given word and nothing that would continue it. -/
def startsWithWord (word : List Char) (text : List Char) : Bool :=
  text.take word.length == word &&
    match text.drop word.length with
    | [] => true
    | c :: _ => !mayContinueWord c

/-- Whether a number may end in front of a text: no word begins there, unless it is one of those that
can follow a number. -/
def numberMayEnd (rest : List Char) : Bool :=
  match rest with
  | 'i' :: c :: _ => c == 'f' || c == 'n' || c == 's'
  | c :: _ =>
      !mayContinueWord c ||
        ["and", "else", "for", "or", "not"].any fun word => startsWithWord word.toList rest
  | [] => true

def digitsOnly (shown : List Char) : List Char :=
  shown.filter (· ≠ '_')

/-- The value of the digits of a run. -/
def decimalValue (shown : List Char) : Nat :=
  (digitsOnly shown).foldl (fun value c => value * 10 + (c.toNat - '0'.toNat)) 0

/-- A double from the digits of its whole part, its fraction and a power of ten. -/
def doubleOf (whole fraction : List Char) (power : Int) : Decimal.Binary64 :=
  let digits := digitsOnly (whole ++ fraction)
  .ofDecimal (decimalValue digits) (power - (digitsOnly fraction).length)

/-- An exponent: nothing when there is none, and a failure when a sign has no digits behind it. -/
def exponent? (text : List Char) : Option (Option Int × List Char) :=
  match text with
  | c :: rest =>
      if c = 'e' ∨ c = 'E' then
        match rest with
        | '-' :: digits =>
            match Lexeme.decimalRun digits with
            | ([], _) => none
            | (shown, behind) => some (some (-(decimalValue shown : Int)), behind)
        | '+' :: digits =>
            match Lexeme.decimalRun digits with
            | ([], _) => none
            | (shown, behind) => some (some (decimalValue shown : Int), behind)
        | _ =>
            match Lexeme.decimalRun rest with
            | ([], _) => some (none, text)
            | (shown, behind) => some (some (decimalValue shown : Int), behind)
      else some (none, text)
  | [] => some (none, text)

/-- The number with the given value, unless a word follows it. -/
def ended (value : Constant) (rest : List Char) : Option (Constant × List Char) :=
  if numberMayEnd rest then some (value, rest) else none

/-- A number from its whole part on.  `fraction` is nothing when no point was written. -/
def numberFrom? (whole : List Char) (fraction : Option (List Char)) (rest : List Char) :
    Option (Constant × List Char) :=
  match exponent? rest with
  | none => none
  | some (power, behind) =>
      let isPlain := fraction.isNone && power.isNone
      let x := doubleOf whole (fraction.getD []) (power.getD 0)
      match behind with
      | 'j' :: after => ended (.imaginary x) after
      | 'J' :: after => ended (.imaginary x) after
      | _ =>
          if isPlain then
            let digits := digitsOnly whole
            let value := decimalValue digits
            if digits.head? = some '0' ∧ value ≠ 0 then none
            else if Decimal.integerDigitLimit < digits.length ∧ value ≠ 0 then none
            else ended (.int value) behind
          else ended (.float x) behind

/-- An integer in a base that is a power of two. -/
def basedInteger? (base : Nat) (p : Char → Bool) (text : List Char) :
    Option (Constant × List Char) :=
  match Lexeme.digitRun p text with
  | ([], _) => none
  | (shown, rest) =>
      let value := (digitsOnly shown).foldl
        (fun value c => value * base + (hexDigitValue? c).getD 0) 0
      match rest with
      | c :: _ => if isAsciiDigit c then none else ended (.int value) rest
      | [] => some (.int value, [])

/-- A number at the head of a text that starts with a digit, or with a point and a digit. -/
def number? (text : List Char) : Option (Constant × List Char) :=
  let plain : Option (Constant × List Char) :=
    match Lexeme.decimalRun text with
    | (whole, '.' :: rest) =>
        let (fraction, behind) := Lexeme.decimalRun rest
        numberFrom? whole (some fraction) behind
    | (whole, rest) => numberFrom? whole none rest
  match text with
  | '0' :: mark :: rest =>
      if mark = 'x' ∨ mark = 'X' then basedInteger? 16 Lexeme.isHexDigit rest
      else if mark = 'o' ∨ mark = 'O' then basedInteger? 8 Literal.isOctal rest
      else if mark = 'b' ∨ mark = 'B' then basedInteger? 2 (fun c => c == '0' || c == '1') rest
      else plain
  | _ => plain

/-! ### Strings -/

/-- The body of a string in single quotes and what follows its closing quote. -/
def shortBody? (quote : Char) (seen : List Char) : List Char → Option (List Char × List Char)
  | [] => none
  | '\\' :: c :: rest => shortBody? quote (c :: '\\' :: seen) rest
  | c :: rest =>
      if c = quote then some (seen.reverse, rest)
      else if c = '\n' ∨ c = '\\' then none
      else shortBody? quote (c :: seen) rest

/-- The body of a string in triple quotes and what follows them. -/
def longBody? (quote : Char) (seen : List Char) : List Char → Option (List Char × List Char)
  | [] => none
  | '\\' :: c :: rest => longBody? quote (c :: '\\' :: seen) rest
  | a :: b :: c :: rest =>
      if a = quote ∧ b = quote ∧ c = quote then some (seen.reverse, rest)
      else longBody? quote (a :: seen) (b :: c :: rest)
  | _ => none

/-- A string behind its opening quote. -/
def string? (mark : List Char) (quote : Char) (rest : List Char) : Option (Token × List Char) :=
  let body :=
    match rest with
    | a :: b :: behind =>
        if a = quote ∧ b = quote then longBody? quote [] behind else shortBody? quote [] rest
    | _ => shortBody? quote [] rest
  body.map fun (body, behind) => (string (.ofMark mark body), behind)

/-! ### Symbols and brackets -/

def symbols3 : List String :=
  ["**=", "//=", ">>=", "<<=", "..."]

def symbols2 : List String :=
  ["!=", "%=", "&=", "**", "*=", "+=", "-=", "->", "//", "/=", ":=", "<<", "<=", "<>", "==", ">=",
    ">>", "@=", "^=", "|="]

def symbols1 : List Char :=
  "%&()*+,-./:;<=>@[]^\x7b|\x7d~".toList

/-- The longest symbol at the head of a text. -/
def symbol? (text : List Char) : Option (List Char × List Char) :=
  if symbols3.contains (.ofList (text.take 3)) then some (text.take 3, text.drop 3)
  else if symbols2.contains (.ofList (text.take 2)) then some (text.take 2, text.drop 2)
  else
    match text with
    | c :: rest => if symbols1.contains c then some ([c], rest) else none
    | [] => none

/-- How many brackets may be open at once. -/
def bracketLimit : Nat := 200

/-- The bracket that closes another. -/
def closing? : Char → Option Char
  | '(' => some ')'
  | '[' => some ']'
  | '\x7b' => some '\x7d'
  | _ => none

/-- The open brackets after a symbol, the innermost first. -/
def brackets? (shown : List Char) (opened : List Char) : Option (List Char) :=
  match shown with
  | [c] =>
      if (closing? c).isSome then
        if bracketLimit ≤ opened.length then none else some (c :: opened)
      else if c = ')' ∨ c = ']' ∨ c = '\x7d' then
        match opened with
        | top :: below => if closing? top = some c then some below else none
        | [] => none
      else some opened
  | _ => some opened

/-! ### Lines -/

/-- How many blocks may be open at once, the outermost level included. -/
def indentLimit : Nat := 100

/-- A place of indentation, measured with tabs to multiples of eight and with tabs as single
columns.  The two must order the levels alike. -/
structure Column where
  wide : Nat
  narrow : Nat
  deriving DecidableEq, Repr

/-- Measure the indentation of a line.  A backslash may carry it on to the next line; the column of
the first line then counts, unless it is zero. -/
def measure? (column : Column) (carried : Nat) : List Char → Option (Column × Nat × List Char)
  | ' ' :: rest => measure? ⟨column.wide + 1, column.narrow + 1⟩ carried rest
  | '\t' :: rest => measure? ⟨(column.wide / 8 + 1) * 8, column.narrow + 1⟩ carried rest
  | '\x0c' :: rest => measure? ⟨0, 0⟩ carried rest
  | '\\' :: '\n' :: [] => none
  | '\\' :: '\n' :: rest => measure? column (if carried = 0 then column.wide else carried) rest
  | '\\' :: _ => none
  | text => some (column, carried, text)

/-- Close levels down to a column. -/
def closeLevels? (column : Column) : List Column → Option (List Token × List Column)
  | [] => none
  | top :: below =>
      if column.wide < top.wide then
        (closeLevels? column below).map fun (marks, left) => (dedent :: marks, left)
      else if column = top then some ([], top :: below)
      else none

/-- The tokens of a move to a column. -/
def moveTo? (column : Column) (levels : List Column) : Option (List Token × List Column) :=
  match levels with
  | [] => none
  | top :: _ =>
      if top.wide < column.wide then
        if column.narrow ≤ top.narrow || indentLimit ≤ levels.length then none
        else some ([indent], column :: levels)
      else closeLevels? column levels

/-- The state between two tokens: open levels, open brackets, and whether a line starts. -/
structure State where
  levels : List Column
  brackets : List Char
  atLineStart : Bool

def State.start : State := ⟨[⟨0, 0⟩], [], true⟩

/-- The token at the head of a text that is neither blank nor a line end, and the open brackets
behind it. -/
def next? (brackets text : List Char) : Option (Token × List Char × List Char) :=
  match Lexeme.opening? text with
  | some (mark, quote, rest) =>
      (string? mark quote rest).map fun (token, behind) => (token, brackets, behind)
  | none =>
      match text with
      | [] => none
      | c :: rest =>
          if isAsciiLetter c || c == '_' || !isAscii c then
            (ofWord? (text.takeWhile mayContinueWord)).map fun token =>
              (token, brackets, text.dropWhile mayContinueWord)
          else if isAsciiDigit c || (c == '.' && (rest.head?.any isAsciiDigit)) then
            (number? text).map fun (value, behind) => (number value, brackets, behind)
          else
            match symbol? text with
            | none => none
            | some (shown, behind) =>
                (brackets? shown brackets).map fun opened =>
                  (symbol (.ofList shown), opened, behind)

/-- Put tokens in front of what has been read behind them. -/
def prepend {α : Type} (tokens : List Token) : Option (List Token × α) → Option (List Token × α)
  | some (others, found) => some (tokens ++ others, found)
  | none => none

/-- Read a logical line: its tokens up to the line end, the state behind it and the text that is
left.  No text is left when the whole text has ended instead.  Lines that hold no token are
skipped. -/
def line? (state : State) :
    (fuel : Nat) → List Char → Option (List Token × State × Option (List Char))
  | 0, _ => none
  | fuel + 1, text =>
      if state.atLineStart then
        match measure? ⟨0, 0⟩ 0 text with
        | none => none
        | some (column, carried, rest) =>
            let inside : State := { state with atLineStart := false }
            match rest with
            | '\n' :: behind => line? state fuel behind
            | '#' :: _ =>
                match rest.dropWhile (· ≠ '\n') with
                | _ :: behind => line? state fuel behind
                | [] => line? inside fuel []
            | _ =>
                if state.brackets.isEmpty then
                  let column := if carried = 0 then column else ⟨carried, carried⟩
                  match moveTo? column state.levels with
                  | none => none
                  | some (marks, levels) =>
                      prepend marks (line? { inside with levels := levels } fuel rest)
                else line? inside fuel rest
      else
        match Lexeme.skipGap text with
        | [] => if state.brackets.isEmpty then some ([], state, none) else none
        | '#' :: rest => line? state fuel (rest.dropWhile (· ≠ '\n'))
        | '\n' :: rest =>
            let between : State := { state with atLineStart := true }
            if state.brackets.isEmpty then some ([lineEnd], between, some rest)
            else line? between fuel rest
        | '\\' :: '\n' :: [] => none
        | '\\' :: '\n' :: rest => line? state fuel rest
        | here =>
            match next? state.brackets here with
            | none => none
            | some (token, opened, rest) =>
                prepend [token] (line? { state with brackets := opened } fuel rest)

/-- Read all tokens; the number tells how many levels are still open at the end of the text, which
happens when the last line has no line feed. -/
def read? (state : State) : (fuel : Nat) → List Char → Option (List Token × Nat)
  | 0, _ => none
  | fuel + 1, text =>
      match line? state fuel text with
      | none => none
      | some (tokens, after, none) => some (tokens ++ [finish], after.levels.length - 1)
      | some (tokens, after, some rest) => prepend tokens (read? after fuel rest)

/-- How many steps a text takes at most, whichever of the two readers goes through it. -/
def stepsOf (text : List Char) : Nat :=
  2 * text.length + 4

/-- The tokens of a text whose line ends are line feeds. -/
def ofChars? (text : List Char) : Option (List Token × Nat) :=
  read? .start (stepsOf text) text

/-- The tokens of the first logical line of a text and what is left behind it, if there is one. -/
def firstLine? (text : List Char) : Option (List Token × List Char) :=
  match line? .start (stepsOf text) text with
  | some (tokens, _, some rest) => some (tokens, rest)
  | _ => none

end Token
end Snippet
end AnswerKey
