import AnswerKey.Proofs.Construct.Figure
import AnswerKey.Proofs.Construct.Matching
import AnswerKey.Proofs.Construct.Piece
import AnswerKey.Proofs.Grammar.Statement

namespace AnswerKey
namespace Construct

/-!
How the tokens of a text lie in its outline.

An outline is cut by other rules than the tokens are, but for a text whose tokens can be tallied the
two agree: behind one another, with spacing between them, the tokens stand in the outline as they were
written, and strings as their placeholders (`Lays`).
-/

open Text Pattern Snippet
open Snippet.Token (mayContinueWord numberMayEnd isSpacing)

/-! ### Tokens in an outline -/

/-- Whether a character tells nothing about constructs: it is no bracket, colon or quote. -/
def isTame (c : Char) : Bool :=
  !isBracket c && c != ':' && c != '"'

/-- A text that opens, closes and separates nothing. -/
def Quiet (shown : List Char) : Prop :=
  (∀ c ∈ shown, isTame c = true) ∨ shown = [':', '=']

/-- What stands for a literal. -/
def standIn (literal : Literal) : List Char :=
  if literal.isFormatted && hasField literal.body then fieldPlaceholder else placeholder

/-- Whether the character in front of a place goes on in words. -/
def touches (before : Option Char) : Bool :=
  before.any isWordCharacter

/-- Tokens as they lie in an outline, behind a character that stands in front of them.  A lambda is a
word of its own, and no word goes on into the placeholder of a literal with fields. -/
inductive Lays : (before : Option Char) → List Token → List Char → Prop where
  | done (before : Option Char) : Lays before [] []
  | spacing {before : Option Char} {c : Char} {tokens : List Token} {text : List Char}
      (spaced : isSpacing c = true) (tail : Lays (some c) tokens text) : Lays before tokens (c :: text)
  | quiet {before : Option Char} {token : Token} {shown text : List Char} {tokens : List Token}
      (still : ∀ tally : Tally, ∃ foreign, tally.next? token = some (tally.behind foreign))
      (tame : Quiet shown) (tail : Lays (frontOf before shown) tokens text) :
      Lays before (token :: tokens) (shown ++ text)
  | lambda {before : Option Char} {text : List Char} {tokens : List Token}
      (opened : touches before = false) (closed : touches text.head? = false)
      (tail : Lays (some 'a') tokens text) :
      Lays before (.keyword "lambda" :: tokens) ("lambda".toList ++ text)
  | string {before : Option Char} {literal : Literal} {text : List Char} {tokens : List Token}
      (apart : standIn literal = fieldPlaceholder → touches before = false)
      (tail : Lays (some '"') tokens text) :
      Lays before (.string literal :: tokens) (standIn literal ++ text)
  | symbol {before : Option Char} {c : Char} {text : List Char} {tokens : List Token}
      (counted : isBracket c = true ∨ c = ':') (tail : Lays (some c) tokens text) :
      Lays before (.symbol (.ofList [c]) :: tokens) (c :: text)

/-- Whether a text ends with a line end. -/
def EndsLine (text : List Char) : Prop :=
  text.getLast? = some '\n'

/-- A token with the text up to what is left, as a step of the outline. -/
def Steps (before : Option Char) (inWord : Bool) (text : List Char) (token : Token)
    (rest : List Char) : Prop :=
  ∃ shown onward, scan inWord text = shown ++ scan onward rest ∧ (EndsLine text → EndsLine rest) ∧
    (onward = true ∨ touches (frontOf before shown) = true → numberMayEnd rest = true) ∧
    ∀ tokens, Lays (frontOf before shown) tokens (scan onward rest) →
      Lays before (token :: tokens) (shown ++ scan onward rest)

theorem EndsLine.of_append {first rest : List Char} (ends : EndsLine (first ++ rest))
    (other : first.getLast? ≠ some '\n') : EndsLine rest := by
  rw [EndsLine, List.getLast?_append] at ends
  cases last : rest.getLast? with
  | none =>
      rw [last] at ends
      exact absurd ends other
  | some c =>
      rw [last] at ends
      exact last.trans ends

theorem getLast?_ne {text : List Char} {c : Char} (all : ∀ d ∈ text, d ≠ c) :
    text.getLast? ≠ some c :=
  fun last => all c (List.mem_of_getLast? last) rfl

theorem EndsLine.append {first rest : List Char} (ends : EndsLine rest) : EndsLine (first ++ rest) := by
  rw [EndsLine, List.getLast?_append, ends]
  rfl

/-! ### Characters -/

section Characters

variable {c : Char} {text : List Char}

theorem spacing_spec (spaced : isSpacing c = true) : isInert c = true ∧ isWordCharacter c = false := by
  have all : ∀ c ∈ " \t\x0c\n\\".toList, isInert c = true ∧ isWordCharacter c = false :=
    forall_mem_of_all (by decide)
  exact all c (List.contains_iff_mem.mp spaced)

/-- A character of a word is nothing special, whatever script it belongs to. -/
theorem mayContinueWord_spec (within : mayContinueWord c = true) :
    isTame c = true ∧ isQuote c = false ∧ c ≠ '#' ∧ c ≠ '\n' := by
  cases ascii : isAscii c with
  | true =>
      exact of_ascii (fun c => mayContinueWord c = true → isTame c = true ∧ isQuote c = false ∧
        c ≠ '#' ∧ c ≠ '\n') (by decide) ascii within
  | false =>
      have other (d : Char) (isAscii_d : isAscii d = true) : c ≠ d := by
        rintro rfl
        rw [ascii] at isAscii_d
        cases isAscii_d
      refine ⟨?_, ?_, other '#' rfl, other '\n' rfl⟩
      · simp [isTame, isBracket, other '(' rfl, other ')' rfl, other '[' rfl, other ']' rfl,
          other '\x7b' rfl, other '\x7d' rfl, other ':' rfl, other '"' rfl]
      · simp [isQuote, other '\'' rfl, other '"' rfl]

theorem isFigure_spec (figure : Token.isFigure c = true) : isTame c = true ∧ c ≠ '\n' :=
  of_ascii (fun c => Token.isFigure c = true → isTame c = true ∧ c ≠ '\n') (by decide)
    (Token.isAscii_of_isFigure figure) figure

theorem mayContinueWord_of_isWordCharacter (within : isWordCharacter c = true) :
    mayContinueWord c = true := by
  cases ascii : isAscii c with
  | true =>
      exact of_ascii (fun c => isWordCharacter c = true → mayContinueWord c = true) (by decide)
        ascii within
  | false => simp [mayContinueWord, ascii]

theorem not_isWordCharacter (outside : mayContinueWord c = false) : isWordCharacter c = false := by
  rw [← Bool.not_eq_true]
  intro within
  rw [mayContinueWord_of_isWordCharacter within] at outside
  cases outside

theorem isWordCharacter_of_mayContinueWord (ascii : isAscii c = true)
    (within : mayContinueWord c = true) : isWordCharacter c = true :=
  of_ascii (fun c => mayContinueWord c = true → isWordCharacter c = true) (by decide) ascii within

theorem touches_frontOf {before : Option Char} {shown : List Char} (filled : shown ≠ [])
    (outside : ∀ c ∈ shown, isWordCharacter c = false) : touches (frontOf before shown) = false := by
  rw [frontOf_of_ne_nil before filled, List.getLast?_eq_some_getLast filled]
  exact outside _ (List.getLast_mem filled)

/-- A number may end where no word begins. -/
theorem numberMayEnd_of_head (ends : ∀ c ∈ text.head?, mayContinueWord c = false) :
    numberMayEnd text = true := by
  cases text with
  | nil => rfl
  | cons c rest =>
      have outside := ends c rfl
      unfold numberMayEnd
      split
      · next same =>
          obtain ⟨rfl, rfl⟩ := List.cons.inj same
          exact absurd outside (by decide)
      · next same =>
          obtain ⟨rfl, rfl⟩ := List.cons.inj same
          rw [outside]
          rfl
      · rfl

end Characters

/-! ### Words -/

section Words

variable {before : Option Char} {inWord : Bool} {word rest : List Char}

theorem scan_of_head (inWord : Bool) (ends : ∀ c ∈ rest.head?, mayContinueWord c = false) :
    scan inWord rest = outline rest := by
  cases inWord with
  | false => rfl
  | true =>
      cases rest with
      | nil => rfl
      | cons c rest => exact outlineWord_of_not rest (not_isWordCharacter (ends c rfl))

/-- No word goes on in front of a character that could not be in one. -/
theorem span_of_head (ends : ∀ c ∈ rest.head?, mayContinueWord c = false) :
    rest.takeWhile isWordCharacter = [] ∧ rest.dropWhile isWordCharacter = rest := by
  cases rest with
  | nil => exact ⟨rfl, rfl⟩
  | cons c rest =>
      have outside := not_isWordCharacter (ends c rfl)
      simp [outside]

theorem head_dropWhile_append {p : Char → Bool} {c : Char}
    (head : c ∈ ((word ++ rest).dropWhile p).head?) : c ∈ word ∨ c ∈ (rest.dropWhile p).head? := by
  induction word with
  | nil => exact .inr head
  | cons d word ih =>
      rw [List.cons_append, List.dropWhile_cons] at head
      split at head
      · exact (ih head).imp_left (List.mem_cons_of_mem d)
      · cases head
        exact .inl List.mem_cons_self

/-- Text of words is kept, whether it begins a word or goes on in one, if no string follows. -/
theorem scan_words (within : ∀ c ∈ word, mayContinueWord c = true)
    (ends : ∀ c ∈ rest.head?, mayContinueWord c = false ∧ isQuote c = false) (inWord : Bool) :
    scan inWord (word ++ rest) = word ++ outline rest := by
  have stops : ∀ c ∈ rest.head?, mayContinueWord c = false := fun c head => (ends c head).1
  induction word generalizing inWord with
  | nil => exact scan_of_head inWord stops
  | cons c word ih =>
      rw [List.forall_mem_cons] at within
      obtain ⟨-, noQuote, noComment, -⟩ := mayContinueWord_spec within.1
      have fresh : outline (c :: (word ++ rest)) = c :: (word ++ outline rest) := by
        cases starts : startsWord c with
        | false =>
            rw [outline_of_plain _ noComment starts noQuote]
            exact congrArg _ (ih within.2 false)
        | true =>
            rw [outline_of_word _ starts]
            · exact congrArg _ (ih within.2 true)
            · -- A quote behind a word would be one of the characters, or the next one behind them.
              intro quote more left isQuote
              have head : quote ∈ ((word ++ rest).dropWhile isWordCharacter).head? := by
                rw [left]
                rfl
              rcases head_dropWhile_append head with member | head
              · rw [(mayContinueWord_spec (within.2 quote member)).2.1] at isQuote
                cases isQuote
              · rw [(span_of_head stops).2] at head
                rw [(ends quote head).2] at isQuote
                cases isQuote
      cases inWord with
      | false => exact fresh
      | true =>
          cases goesOn : isWordCharacter c with
          | false => exact (outlineWord_of_not _ goesOn).trans fresh
          | true => exact (outlineWord_cons _ goesOn).trans (congrArg _ (ih within.2 true))

/-- A word of ASCII characters that opens no string is kept, whatever follows it. -/
theorem scan_plainWord {c : Char} (starts : startsWord c = true)
    (ascii : ∀ d ∈ c :: word, isAscii d = true)
    (within : ∀ d ∈ c :: word, mayContinueWord d = true)
    (ends : ∀ d ∈ rest.head?, mayContinueWord d = false)
    (noString : Lexeme.opening? (c :: word ++ rest) = none) (inWord : Bool) :
    scan inWord (c :: word ++ rest) = c :: word ++ outline rest := by
  have plain : ∀ d ∈ c :: word, isWordCharacter d = true := fun d member =>
    isWordCharacter_of_mayContinueWord (ascii d member) (within d member)
  have onward : outlineWord (word ++ rest) = word ++ outline rest := by
    rw [outlineWord_append fun d member => plain d (List.mem_cons_of_mem c member)]
    exact congrArg _ (scan_of_head true ends)
  rw [List.cons_append, List.cons_append]
  rw [List.cons_append] at noString
  cases inWord with
  | true => exact (outlineWord_cons _ (plain c List.mem_cons_self)).trans (congrArg _ onward)
  | false =>
      refine (outline_of_word _ starts fun quote more left isQuote => ?_).trans (congrArg _ onward)
      have tail : ∀ d ∈ word, isWordCharacter d = true := fun d member =>
        plain d (List.mem_cons_of_mem c member)
      obtain ⟨none, whole⟩ := span_of_head ends
      rw [List.dropWhile_append_of_pos tail, whole] at left
      rw [List.takeWhile_append_of_pos tail, none, List.append_nil, ← Bool.not_eq_true]
      intro isMark
      have opened := Lexeme.opening?_of_isOpening
        (Lexeme.isOpening_of_literalMark isQuote ascii isMark) more
      rw [← left, List.cons_append, noString] at opened
      cases opened

end Words

/-! ### Strings -/

section Strings

variable {quote : Char} {mark seen text body rest : List Char}

theorem shortBody_cons {c : Char} (rest : List Char) (noEscape : c ≠ '\\') :
    shortBody quote (c :: rest) =
      if c = quote then ([], rest)
      else if c = '\n' then ([], c :: rest)
      else (c :: (shortBody quote rest).1, (shortBody quote rest).2) := by
  rw [shortBody.eq_def]
  split
  · next none => cases none
  · next same => exact absurd (List.cons.inj same).1 noEscape
  · next same =>
      cases same
      rfl

theorem shortBody?_spec (noEscape : quote ≠ '\\')
    (found : Token.shortBody? quote seen text = some (body, rest)) :
    ∃ inner, body = seen.reverse ++ inner ∧ text = inner ++ quote :: rest ∧
      shortBody quote text = (inner, rest) := by
  fun_induction Token.shortBody? quote seen text with
  | case1 => cases found
  | case2 seen c text ih =>
      obtain ⟨inner, rfl, rfl, through⟩ := ih found
      exact ⟨'\\' :: c :: inner, by simp, by simp, by rw [shortBody, through]⟩
  | case3 seen text =>
      cases found
      exact ⟨[], by simp, rfl, by rw [shortBody_cons _ noEscape, if_pos rfl]⟩
  | case4 => cases found
  | case5 seen c text _ other plain ih =>
      rw [not_or] at plain
      obtain ⟨inner, rfl, rfl, through⟩ := ih found
      refine ⟨c :: inner, by simp, rfl, ?_⟩
      rw [shortBody_cons _ plain.2, if_neg other, if_neg plain.1, through]

theorem longBody?_spec (noEscape : quote ≠ '\\')
    (found : Token.longBody? quote seen text = some (body, rest)) :
    ∃ inner, body = seen.reverse ++ inner ∧ text = inner ++ quote :: quote :: quote :: rest ∧
      longBody quote text = (inner, rest) := by
  fun_induction Token.longBody? quote seen text with
  | case1 => cases found
  | case2 seen c text ih =>
      obtain ⟨inner, rfl, rfl, through⟩ := ih found
      exact ⟨'\\' :: c :: inner, by simp, by simp, by rw [Lexeme.longBody_escape, through]⟩
  | case3 seen a b c text _ same =>
      obtain ⟨rfl, rfl, rfl⟩ := same
      cases found
      exact ⟨[], by simp, rfl, by rw [Lexeme.longBody_cons _ noEscape, if_pos ⟨rfl, rfl⟩]; rfl⟩
  | case4 seen a b c text plain other ih =>
      obtain ⟨inner, rfl, whole, through⟩ := ih found
      refine ⟨a :: inner, by simp, by rw [whole]; rfl, ?_⟩
      rw [Lexeme.longBody_cons _ plain, if_neg, through]
      rintro ⟨first, behind⟩
      have two := List.cons.inj behind
      exact other ⟨first, two.1, (List.cons.inj two.2).1⟩
  | case5 => cases found

/-- A string is taken by an outline as it is read. -/
theorem string?_spec (opening : Lexeme.IsOpening mark quote) {token : Token}
    (found : Token.string? mark quote text = some (token, rest)) :
    ∃ body, token = .string (.ofMark mark body) ∧ literalBody quote text = (body, rest) ∧
      ∃ front behind, text = front ++ (body ++ (behind ++ quote :: rest)) := by
  have noEscape := opening.quote_spec.2.2.2.1
  unfold Token.string? at found
  obtain ⟨⟨body, behind⟩, read, same⟩ := Option.map_eq_some_iff.mp found
  cases same
  refine ⟨body, rfl, ?_⟩
  have short (single : text.take 2 ≠ [quote, quote])
      (read : Token.shortBody? quote [] text = some (body, rest)) :
      literalBody quote text = (body, rest) ∧
        ∃ front behind, text = front ++ (body ++ (behind ++ quote :: rest)) := by
    obtain ⟨_, rfl, whole, through⟩ := shortBody?_spec noEscape read
    exact ⟨(if_neg single).trans through, [], [], whole⟩
  split at read
  · next a b behind =>
      split at read
      · next same =>
          obtain ⟨rfl, rfl⟩ := same
          obtain ⟨_, rfl, rfl, through⟩ := longBody?_spec noEscape read
          exact ⟨(if_pos rfl).trans through, [b, b], [b, b], by simp⟩
      · next other =>
          refine short (fun same => other ?_) read
          have two := List.cons.inj same
          exact ⟨two.1, (List.cons.inj two.2).1⟩
  · next few =>
      refine short (fun same => ?_) read
      cases text with
      | nil => cases same
      | cons a text =>
          cases text with
          | nil => cases same
          | cons b text => exact few a b text rfl

theorem standIn_ofMark (opening : Lexeme.IsOpening mark quote) :
    standIn (.ofMark mark body) = placeholderOf (lower (.ofList mark)) body :=
  (opening.placeholderOf_mark body).symm

/-- A mark is no word that may follow a number. -/
theorem numberMayEnd_of_mark (opening : Lexeme.IsOpening mark quote) (filled : mark ≠ []) :
    numberMayEnd (mark ++ quote :: text) = false := by
  have letter {c : Char} (member : c ∈ mark) : c ∈ "rubfRUBF".toList :=
    of_ascii (fun c => lowerChar c ∈ markLetters → c ∈ "rubfRUBF".toList) (by decide)
      (opening.ascii c member) (opening.letters member)
  cases mark with
  | nil => exact absurd rfl filled
  | cons c mark =>
      obtain ⟨d, more, same, noFor⟩ : ∃ d more, mark ++ quote :: text = d :: more ∧ d ≠ 'o' := by
        cases mark with
        | nil =>
            refine ⟨quote, text, rfl, ?_⟩
            rintro rfl
            cases opening.isQuote
        | cons d mark =>
            refine ⟨d, mark ++ quote :: text, rfl, ?_⟩
            rintro rfl
            exact absurd (letter (List.mem_cons_of_mem c List.mem_cons_self)) (by decide)
      rw [List.cons_append, same]
      have first : c = 'r' ∨ c = 'u' ∨ c = 'b' ∨ c = 'f' ∨ c = 'R' ∨ c = 'U' ∨ c = 'B' ∨ c = 'F' := by
        simpa using letter List.mem_cons_self
      rcases first with rfl | rfl | rfl | rfl | rfl | rfl | rfl | rfl <;>
        simp [numberMayEnd, Token.startsWithWord, noFor] <;> rfl

theorem steps_string {before : Option Char} {inWord : Bool} {token : Token}
    (ready : inWord = true ∨ touches before = true → numberMayEnd (mark ++ quote :: text) = true)
    (opening : Lexeme.IsOpening mark quote)
    (found : Token.string? mark quote text = some (token, rest)) :
    Steps before inWord (mark ++ quote :: text) token rest := by
  obtain ⟨body, rfl, taken, front, behind, rfl⟩ := string?_spec opening found
  have apart (filled : mark ≠ []) : ¬ (inWord = true ∨ touches before = true) := by
    intro touching
    rw [numberMayEnd_of_mark opening filled] at ready
    cases ready touching
  have taken_eq : outline (mark ++ quote :: (front ++ (body ++ (behind ++ quote :: rest)))) =
      standIn (.ofMark mark body) ++ outline rest := by
    rw [opening.outline_eq, taken, standIn_ofMark opening]
  have last : frontOf before (standIn (.ofMark mark body)) = some '"' := by
    unfold standIn
    split <;> rfl
  refine ⟨standIn (.ofMark mark body), false, ?_, ?_, ?_, fun tokens laid => ?_⟩
  · cases inWord with
    | false => exact taken_eq
    | true =>
        cases mark with
        | nil => exact (outlineWord_of_not _ opening.quote_spec.1).trans taken_eq
        | cons c mark => exact absurd (.inl rfl) (apart (List.cons_ne_nil c mark))
  · intro ends
    have whole : mark ++ quote :: (front ++ (body ++ (behind ++ quote :: rest))) =
        (mark ++ quote :: (front ++ (body ++ behind)) ++ [quote]) ++ rest := by simp
    rw [whole] at ends
    refine ends.of_append ?_
    rw [List.getLast?_concat]
    rintro ⟨⟩
    cases opening.isQuote
  · rw [last]
    rintro (goesOn | goesOn) <;> cases goesOn
  · rw [last] at laid
    refine .string (fun isField => ?_) laid
    rw [← Bool.not_eq_true]
    intro touching
    refine apart ?_ (.inr touching)
    rintro rfl
    cases isField

end Strings

/-! ### Symbols -/

section Symbols

variable {before : Option Char} {inWord : Bool} {shown text rest : List Char}

/-- A symbol whose token is not counted, as it stands in an outline. -/
def IsQuietSymbol (shown : List Char) : Prop :=
  Quiet shown ∧ Token.isUncounted (.symbol (.ofList shown)) = true

instance : DecidablePred Quiet :=
  fun _ => inferInstanceAs (Decidable (_ ∨ _))

instance : DecidablePred IsQuietSymbol :=
  fun _ => inferInstanceAs (Decidable (_ ∧ _))

/-- A symbol is nothing special for an outline.  It is counted, or quiet. -/
theorem symbol?_spec (found : Token.symbol? text = some (shown, rest)) :
    text = shown ++ rest ∧ shown ≠ [] ∧ (∀ c ∈ shown, isInert c = true ∧ c ≠ '\n') ∧
      ((∃ c, shown = [c] ∧ (isBracket c = true ∨ c = ':')) ∨ IsQuietSymbol shown) := by
  have known (symbols : List String) (count : Nat)
      (all : ∀ symbol ∈ symbols, symbol.toList ≠ [] ∧
        symbol.toList.all (fun c => decide (isInert c = true ∧ c ≠ '\n')) = true ∧
          IsQuietSymbol symbol.toList)
      (member : symbols.contains (.ofList (text.take count)) = true) :
      text = text.take count ++ text.drop count ∧ text.take count ≠ [] ∧
        (∀ c ∈ text.take count, isInert c = true ∧ c ≠ '\n') ∧
        ((∃ c, text.take count = [c] ∧ (isBracket c = true ∨ c = ':')) ∨
          IsQuietSymbol (text.take count)) := by
    have spec := all _ (List.contains_iff_mem.mp member)
    rw [String.toList_ofList] at spec
    exact ⟨(List.take_append_drop _ _).symm, spec.1, forall_mem_of_all spec.2.1, .inr spec.2.2⟩
  have single : ∀ c ∈ Token.symbols1, (isInert c = true ∧ c ≠ '\n') ∧
      ((isBracket c = true ∨ c = ':') ∨ IsQuietSymbol [c]) := forall_mem_of_all (by decide)
  unfold Token.symbol? at found
  split at found
  · next member =>
      cases found
      exact known _ 3 (by decide) member
  · split at found
    · next member =>
        cases found
        exact known _ 2 (by decide) member
    · split at found
      · split at found
        · next c _ _ _ member =>
            cases found
            obtain ⟨inert, kind⟩ := single c (List.contains_iff_mem.mp member)
            refine ⟨rfl, List.cons_ne_nil _ _, List.forall_mem_singleton.mpr inert, ?_⟩
            exact kind.imp_left fun counted => ⟨c, rfl, counted⟩
        · cases found
      · cases found

theorem steps_symbol (found : Token.symbol? text = some (shown, rest)) :
    Steps before inWord text (.symbol (.ofList shown)) rest := by
  obtain ⟨rfl, filled, inert, kind⟩ := symbol?_spec found
  have loose : touches (frontOf before shown) = false := by
    refine touches_frontOf filled fun c member => ?_
    have plain := (inert c member).1
    simp only [isInert, Bool.and_eq_true, Bool.not_eq_true'] at plain
    exact plain.1.1.1
  refine ⟨shown, false, ?_, ?_, ?_, fun tokens laid => ?_⟩
  · cases shown with
    | nil => exact absurd rfl filled
    | cons c shown =>
        rw [List.forall_mem_cons] at inert
        have behind := outline_inert (fun d member => (inert.2 d member).1) rest
        exact (scan_inert inert.1.1 inWord _).trans (congrArg _ behind)
  · exact fun ends => ends.of_append (getLast?_ne fun c member => (inert c member).2)
  · rw [loose]
    rintro (goesOn | goesOn) <;> cases goesOn
  · rcases kind with ⟨c, rfl, counted⟩ | ⟨quiet, uncounted⟩
    · exact .symbol counted laid
    · exact .quiet (fun tally => ⟨false, Tally.next?_of_isUncounted tally uncounted⟩) quiet laid

end Symbols

/-! ### Words and numbers -/

section Words

variable {before : Option Char} {inWord : Bool} {text rest : List Char}

theorem steps_number {value : Constant} (found : Token.number? text = some (value, rest)) :
    Steps before inWord text (.number value) rest := by
  obtain ⟨piece, rfl, ⟨passes, figures⟩, free⟩ := Token.number?_spec found
  obtain ⟨onward, kept⟩ := passes inWord
  refine ⟨piece, onward, kept rest, fun ends => ends.of_append (getLast?_ne fun c member => ?_),
    fun _ => free, fun tokens laid => ?_⟩
  · exact (isFigure_spec (figures c member)).2
  refine .quiet (fun tally => ⟨false, rfl⟩) (.inl fun c member => ?_) laid
  exact (isFigure_spec (figures c member)).1

/-- Behind a place where no word goes on, none does in the outline. -/
theorem touches_head_outline (ends : ∀ c ∈ rest.head?, mayContinueWord c = false) :
    touches (outline rest).head? = false := by
  cases rest with
  | nil => rfl
  | cons c rest =>
      have outside := not_isWordCharacter (ends c rfl)
      have ascii : isAscii c = true := by
        have stops := ends c rfl
        rw [mayContinueWord, Bool.or_eq_false_iff, Bool.not_eq_false'] at stops
        exact stops.2
      rw [outline_cons, nextStretch]
      split
      · have stopped := List.head?_dropWhile_not (fun c => decide (c ≠ '\n')) rest
        cases left : rest.dropWhile (fun c => decide (c ≠ '\n')) with
        | nil => rfl
        | cons d behind =>
            rw [left] at stopped
            obtain rfl : d = '\n' := by simpa using stopped
            rw [List.nil_append, outline_of_plain behind (by decide) (by decide) (by decide)]
            rfl
      · split
        · next starts =>
            rw [isWordCharacter_of_startsWord ascii starts] at outside
            cases outside
        · split
          · rfl
          · exact outside

theorem steps_word {c : Char} {word : List Char} {token : Token}
    (ready : inWord = true ∨ touches before = true → numberMayEnd (c :: word ++ rest) = true)
    (starts : (isAsciiLetter c || c == '_' || !isAscii c) = true)
    (within : ∀ d ∈ c :: word, mayContinueWord d = true)
    (ends : ∀ d ∈ rest.head?, mayContinueWord d = false)
    (noString : Lexeme.opening? (c :: word ++ rest) = none)
    (read : Token.ofWord? (c :: word) = some token)
    (apart : ∀ id, token = .name id false → ∀ d ∈ rest.head?, isQuote d = false) :
    Steps before inWord (c :: word ++ rest) token rest := by
  have free (_ : false = true ∨ touches (frontOf before (c :: word)) = true) :
      numberMayEnd rest = true := numberMayEnd_of_head ends
  have onward (ends : EndsLine (c :: word ++ rest)) : EndsLine rest :=
    ends.of_append (getLast?_ne fun d member => (mayContinueWord_spec (within d member)).2.2.2)
  have quiet : Quiet (c :: word) := .inl fun d member => (mayContinueWord_spec (within d member)).1
  unfold Token.ofWord? at read
  split at read
  · next ascii =>
      cases read
      rw [List.all_eq_true] at ascii
      have isStart : startsWord c = true :=
        of_ascii (fun c => (isAsciiLetter c || c == '_' || !isAscii c) = true → startsWord c = true)
          (by decide) (ascii c List.mem_cons_self) starts
      refine ⟨c :: word, false, scan_plainWord isStart ascii within ends noString inWord, onward, free,
        fun tokens laid => ?_⟩
      by_cases isLambda : c :: word = "lambda".toList
      · rw [isLambda] at laid ready ⊢
        refine .lambda ?_ (touches_head_outline ends) laid
        rw [← Bool.not_eq_true]
        intro touching
        cases ready (.inr touching)
      · refine .quiet (fun tally => ⟨false, Tally.next?_of_isUncounted tally ?_⟩) quiet laid
        split
        · rw [Token.isUncounted, bne_iff_ne]
          intro same
          apply isLambda
          rw [← same, String.toList_ofList]
        · rfl
  · split at read
    · cases read
      refine ⟨c :: word, false, scan_words within (fun d head => ⟨ends d head, ?_⟩) inWord, onward,
        free, fun tokens laid => .quiet (fun tally => ⟨true, rfl⟩) quiet laid⟩
      exact apart _ rfl d head
    · cases read

end Words

/-! ### Whole texts -/

/-- Where a quote comes next, a string does. -/
theorem exists_string_of_cut {quote : Char} {text : List Char} {tokens : List Token}
    (isQuote : isQuote quote = true) (cut : Token.Cut false (quote :: text) tokens) :
    ∃ literal others, tokens = .string literal :: others := by
  have opening : Lexeme.IsOpening [] quote := ⟨isQuote, List.forall_mem_nil _, rfl⟩
  have other (c : Char) (noQuote : Construct.isQuote c = false) : quote ≠ c := by
    rintro rfl
    rw [isQuote] at noQuote
    cases noQuote
  generalize whole : quote :: text = all at cut
  cases cut with
  | finish => cases whole
  | @spacing _ c _ _ spaced _ =>
      obtain ⟨rfl, rfl⟩ := List.cons.inj whole
      have all : ∀ c ∈ " \t\x0c\n\\".toList, Construct.isQuote c = false := forall_mem_of_all (by decide)
      exact absurd rfl (other quote (all quote (List.contains_iff_mem.mp spaced)))
  | lineEnd => exact absurd (List.cons.inj whole).1 (other _ rfl)
  | comment => exact absurd (List.cons.inj whole).1 (other _ rfl)
  | token next _ =>
      have opened : Lexeme.opening? (quote :: text) = some ([], quote, text) :=
        Lexeme.opening?_of_isOpening opening text
      rw [← whole, Token.next?, opened] at next
      obtain ⟨⟨_, _⟩, read, same⟩ := Option.map_eq_some_iff.mp next
      cases same
      obtain ⟨body, rfl, -⟩ := string?_spec opening read
      exact ⟨_, _, rfl⟩

/-- No string stands right behind a name beyond ASCII in a text whose tokens can be tallied. -/
theorem noString_of_run? {id : String} {text : List Char} {tokens : List Token}
    {tally after : Tally} (cut : Token.Cut false text tokens)
    (run : tally.run? (.name id false :: tokens) = some after) :
    ∀ c ∈ text.head?, isQuote c = false := by
  intro c head
  rw [← Bool.not_eq_true]
  intro isQuote
  cases text with
  | nil => cases head
  | cons d text =>
      cases head
      obtain ⟨literal, others, rfl⟩ := exists_string_of_cut isQuote cut
      cases run

/-- The token at the head of a text is a step of the outline. -/
theorem steps_of_next? {before : Option Char} {inWord : Bool}
    {brackets opened text rest : List Char} {token : Token}
    (next : Token.next? brackets text = some (token, opened, rest))
    (ready : inWord = true ∨ touches before = true → numberMayEnd text = true)
    (apart : ∀ id, token = .name id false → ∀ d ∈ rest.head?, isQuote d = false) :
    Steps before inWord text token rest := by
  unfold Token.next? at next
  split at next
  · next mark quote behind opens =>
      obtain ⟨⟨_, _⟩, read, same⟩ := Option.map_eq_some_iff.mp next
      cases same
      obtain ⟨rfl, opening⟩ := Lexeme.opening?_spec opens
      exact steps_string ready opening read
  · next noString =>
      split at next
      · cases next
      · next c behind =>
          split at next
          · next starts =>
              obtain ⟨_, read, same⟩ := Option.map_eq_some_iff.mp next
              cases same
              have within : mayContinueWord c = true := by
                rw [mayContinueWord]
                revert starts
                cases isAsciiLetter c <;> cases c == '_' <;> cases isAscii c <;> simp
              have whole : c :: behind.takeWhile mayContinueWord ++ behind.dropWhile mayContinueWord =
                  c :: behind := congrArg _ List.takeWhile_append_dropWhile
              rw [List.dropWhile_cons_of_pos within] at apart ⊢
              rw [List.takeWhile_cons_of_pos within] at read
              rw [← whole] at ready noString ⊢
              refine steps_word ready starts ?_ ?_ noString read apart
              · rw [List.forall_mem_cons]
                exact ⟨within, fun d member => List.mem_takeWhile_imp member⟩
              · intro d head
                have stopped := List.head?_dropWhile_not mayContinueWord behind
                rw [head] at stopped
                simpa using stopped
          · split at next
            · obtain ⟨⟨_, _⟩, read, same⟩ := Option.map_eq_some_iff.mp next
              cases same
              exact steps_number read
            · split at next
              · cases next
              · next shown left read =>
                  obtain ⟨_, -, same⟩ := Option.map_eq_some_iff.mp next
                  cases same
                  exact steps_symbol read

/-- The tokens of a text lie in its outline. -/
theorem lays_of_cut {fresh : Bool} {text : List Char} {tokens : List Token}
    (cut : Token.Cut fresh text tokens) {tally after : Tally}
    (run : tally.run? tokens = some after) {before : Option Char} {inWord : Bool}
    (ready : inWord = true ∨ touches before = true → numberMayEnd text = true) :
    Lays before tokens (scan inWord text) ∧ (EndsLine text → EndsLine (scan inWord text)) := by
  have still {token : Token} (same : ∀ tally : Tally, tally.next? token = some (tally.behind false))
      {tokens : List Token} {before : Option Char} {text : List Char}
      (laid : Lays before tokens text) : Lays before (token :: tokens) text :=
    .quiet (fun tally => ⟨false, same tally⟩) (.inl (List.forall_mem_nil _)) laid
  have loosely {c : Char} (loose : isWordCharacter c = false) {text : List Char} :
      false = true ∨ touches (some c) = true → numberMayEnd text = true := by
    rintro (goesOn | goesOn)
    · cases goesOn
    · cases loose.symm.trans goesOn
  have endsLine_cons {c : Char} {text : List Char} {inWord : Bool}
      (ends : EndsLine text → EndsLine (scan inWord text)) (closed : EndsLine (c :: text)) :
      EndsLine (c :: scan inWord text) := by
    cases text with
    | nil => rwa [scan_nil]
    | cons d text =>
        rw [EndsLine, List.getLast?_cons_cons] at closed
        exact @EndsLine.append [c] _ (ends closed)
  induction cut generalizing tally before inWord with
  | finish =>
      rw [scan_nil]
      exact ⟨still (fun _ => rfl) (.done before), id⟩
  | mark layout _ ih =>
      obtain ⟨tally', -, onward⟩ := Option.bind_eq_some_iff.mp run
      obtain ⟨laid, ends⟩ := ih onward ready
      refine ⟨still ?_ laid, ends⟩
      rcases layout with rfl | rfl
      · exact fun _ => rfl
      · exact fun _ => rfl
  | @spacing _ c rest _ spaced _ ih =>
      obtain ⟨inert, loose⟩ := spacing_spec spaced
      obtain ⟨laid, ends⟩ := ih run (loosely loose)
      rw [scan_inert inert inWord rest]
      exact ⟨.spacing spaced laid, endsLine_cons ends⟩
  | @lineEnd _ rest _ _ ih =>
      obtain ⟨tally', -, onward⟩ := Option.bind_eq_some_iff.mp run
      obtain ⟨laid, ends⟩ := ih onward (loosely (c := '\n') rfl)
      rw [scan_inert (by decide) inWord rest]
      exact ⟨still (fun _ => rfl) (.spacing rfl laid), endsLine_cons ends⟩
  | @comment _ rest _ _ ih =>
      have stops (c : Char) (head : c ∈ (rest.dropWhile (· ≠ '\n')).head?) :
          mayContinueWord c = false := by
        have stopped := List.head?_dropWhile_not (fun c => decide (c ≠ '\n')) rest
        rw [Option.mem_def.mp head] at stopped
        obtain rfl : c = '\n' := by simpa using stopped
        rfl
      have dropped : scan inWord ('#' :: rest) = scan false (rest.dropWhile (· ≠ '\n')) := by
        cases inWord with
        | false => exact outline_cons '#' rest
        | true => exact (outlineWord_of_not rest (by decide)).trans (outline_cons '#' rest)
      obtain ⟨laid, ends⟩ := ih run fun _ => numberMayEnd_of_head stops
      rw [dropped]
      refine ⟨laid, fun closed => ends ?_⟩
      rw [← List.takeWhile_append_dropWhile (p := (· ≠ '\n')) (l := rest), ← List.cons_append]
        at closed
      refine closed.of_append (getLast?_ne fun c member => ?_)
      rcases List.mem_cons.mp member with rfl | inside
      · decide
      · simpa using List.mem_takeWhile_imp inside
  | @token _ brackets opened text rest token tokens next tail ih =>
      obtain ⟨tally', -, onward⟩ := Option.bind_eq_some_iff.mp run
      obtain ⟨shown, goesOn, whole, last, free, lays⟩ := steps_of_next? next ready (by
        rintro id rfl
        exact noString_of_run? tail run)
      obtain ⟨laid, ends⟩ := ih onward free
      rw [whole]
      exact ⟨lays _ laid, fun closed => (ends (last closed)).append⟩

end Construct
end AnswerKey
