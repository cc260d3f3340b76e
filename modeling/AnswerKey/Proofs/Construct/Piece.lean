import Mathlib.Data.List.TakeWhile
import AnswerKey.Proofs.Construct.Numeral
import AnswerKey.Proofs.Construct.Quotation

namespace AnswerKey
namespace Snippet
namespace Lexeme

/-!
What a place of a line holds.

In a text without carriage returns each piece is told by its first characters, and it is followed
by the rest of the text (`reads_pieceHere`).  A word that would be the mark of a string is a name
only if the quote behind it starts nothing.
-/

open Text Construct

/-! ### Openings again -/

/-- A mark with a quote behind it is the opening of a string. -/
theorem opening?_of_isOpening {mark : List Char} {quote : Char} (opening : IsOpening mark quote)
    (rest : List Char) : opening? (mark ++ quote :: rest) = some (mark, quote, rest) := by
  have short : mark.length ≤ 2 := by
    have all : ∀ mark ∈ stringMarks, mark.toList.length ≤ 2 := by decide
    have isMark := opening.isMark
    rw [isStringMark, Bool.or_eq_true, List.isEmpty_iff, List.contains_iff_mem] at isMark
    rcases isMark with rfl | isMark
    · exact Nat.zero_le 2
    · have few := all _ isMark
      rwa [String.toList_ofList, List.length_map] at few
  have isQuote := opening.isQuote
  have isMark := opening.isMark
  have letters (c : Char) (member : c ∈ mark) :
      isAscii c = true ∧ Lexeme.isQuote c = false :=
    ⟨opening.ascii c member, (opening.mark_spec member).2.2⟩
  rcases mark with _ | ⟨a, _ | ⟨b, _ | ⟨c, mark⟩⟩⟩
  · simp [opening?, isQuote]
  · rcases letters a List.mem_cons_self with ⟨ascii, noQuote⟩
    simp [opening?, isQuote, isMark, ascii, noQuote]
  · rcases letters a List.mem_cons_self with ⟨ascii, noQuote⟩
    rcases letters b (List.mem_cons_of_mem a List.mem_cons_self) with ⟨ascii', noQuote'⟩
    simp [opening?, isQuote, isMark, ascii, noQuote, ascii', noQuote']
  · simp only [List.length_cons] at short
    omega

/-! ### Pieces -/

/-- A piece at the head of a text. -/
inductive Reads : List Char → Piece → Prop where
  | done : Reads [] .done
  | backslash (rest : List Char) : Reads ('\\' :: '\n' :: rest) (.backslash rest)
  | comment (rest : List Char) :
      Reads ('#' :: rest) (.comment (rest.dropWhile (· ≠ '\n')))
  | lineEnd (rest : List Char) : Reads ('\n' :: rest) (.lineEnd rest)
  | short {mark inner rest : List Char} {quote : Char} (opening : IsOpening mark quote)
      (whole : isWhole quote inner = true) (closed : inner = [] → rest.head? ≠ some quote) :
      Reads (mark ++ quote :: (inner ++ quote :: rest))
        (.lexeme .string (mark ++ quote :: (inner ++ [quote])) rest)
  | long {mark inner rest : List Char} {quote : Char} (opening : IsOpening mark quote)
      (through : ∀ more, Construct.longBody quote
        (inner ++ quote :: quote :: quote :: (rest ++ more)) = (inner, rest ++ more)) :
      Reads (mark ++ quote :: quote :: quote :: (inner ++ quote :: quote :: quote :: rest))
        (.lexeme .string
          (mark ++ quote :: quote :: quote :: (inner ++ [quote, quote, quote])) rest)
  | unfinished {text : List Char} {quote : Char} {triple : Bool}
      (opened : IsSingle text → IsEnded text → Opened quote triple text) :
      Reads text (.unfinished quote triple text)
  | number {digits : List Char} (rest : List Char) (filled : digits ≠ [])
      (passes : Passes digits) : Reads (digits ++ rest) (.lexeme .number digits rest)
  | operator {symbol : List Char} (rest : List Char) (filled : symbol ≠ [])
      (inert : ∀ c ∈ symbol, isInert c = true) :
      Reads (symbol ++ rest) (.lexeme .operator symbol rest)
  | name {word rest : List Char} (filled : word ≠ [])
      (starts : ∀ c ∈ word.head?, isIdentifierStart c = true)
      (within : ∀ c ∈ word, isWordCharacter c = true)
      (ends : ∀ c ∈ rest.head?, isWordCharacter c = false)
      (unmarked : ∀ quote more, rest = quote :: more → IsOpening word quote →
        pieceHere rest = .nothing) :
      Reads (word ++ rest) (.lexeme .name word rest)
  /-- A word that begins with a digit of another script. -/
  | foreign {word rest : List Char} (foreign : ∃ c ∈ word, isAscii c = false) :
      Reads (word ++ rest) (.lexeme .operator word rest)
  | nothing (text : List Char) : Reads text .nothing

/-- The characters of operators are nothing special. -/
theorem operator?_spec {text symbol rest : List Char}
    (found : operator? text = some (symbol, rest)) :
    text = symbol ++ rest ∧ symbol ≠ [] ∧ ∀ c ∈ symbol, isInert c = true := by
  have known (operators : List String) (count : Nat)
      (all : ∀ operator ∈ operators, operator.toList ≠ [] ∧
        operator.toList.all (fun c => decide (isInert c = true)) = true)
      (member : operators.contains (.ofList (text.take count)) = true) :
      text = text.take count ++ text.drop count ∧ text.take count ≠ [] ∧
        ∀ c ∈ text.take count, isInert c = true := by
    have spec := all _ (List.contains_iff_mem.mp member)
    rw [String.toList_ofList] at spec
    exact ⟨(List.take_append_drop count text).symm, spec.1, forall_mem_of_all spec.2⟩
  unfold operator? at found
  split at found
  · next three =>
      cases found
      exact known operators3 3 (by decide) three
  · split at found
    · next two =>
        cases found
        exact known operators2 2 (by decide) two
    · split at found
      · next c more _ _ =>
          split at found
          · next one =>
              cases found
              have inert : ∀ c ∈ operators1, isInert c = true := forall_mem_of_all (by decide)
              refine ⟨rfl, List.cons_ne_nil _ _, ?_⟩
              rw [List.forall_mem_singleton]
              exact inert c (List.contains_iff_mem.mp one)
          · cases found
      · cases found

section Pieces

variable {text mark rest : List Char} {quote : Char}

/-- A word at the head of a text that is no string. -/
theorem reads_wordPiece
    (unmarked : ∀ quote more, text.dropWhile isWordCharacter = quote :: more →
      IsOpening (text.takeWhile isWordCharacter) quote →
      pieceHere (text.dropWhile isWordCharacter) = .nothing)
    (noDigit : ∀ c ∈ text.head?, isAsciiDigit c = false) : Reads text (wordPiece text) := by
  unfold wordPiece
  split
  · next c rest =>
      have whole := List.takeWhile_append_dropWhile (p := isWordCharacter) (l := c :: rest)
      split
      · next isWord =>
          have head : (c :: rest).takeWhile isWordCharacter =
              c :: rest.takeWhile isWordCharacter := List.takeWhile_cons_of_pos isWord
          have filled : (c :: rest).takeWhile isWordCharacter ≠ [] := by
            rw [head]
            exact List.cons_ne_nil _ _
          split
          · next starts =>
              have named : Reads ((c :: rest).takeWhile isWordCharacter ++
                  (c :: rest).dropWhile isWordCharacter) _ :=
                .name filled (by simp [head, starts])
                  (fun d member => List.mem_takeWhile_imp member) (fun d behind => ?_) unmarked
              · rwa [whole] at named
              · have stopped := List.head?_dropWhile_not isWordCharacter (c :: rest)
                rwa [behind] at stopped
          · next other =>
              have foreign : Reads ((c :: rest).takeWhile isWordCharacter ++
                  (c :: rest).dropWhile isWordCharacter) _ :=
                .foreign ⟨c, by simp [head], ?_⟩
              · rwa [whole] at foreign
              · rw [← Bool.not_eq_true]
                intro ascii
                have digit := of_ascii (fun c => isWordCharacter c = true →
                  ¬ isIdentifierStart c = true → isAsciiDigit c = true) (by decide) ascii isWord
                  other
                rw [noDigit c rfl] at digit
                cases digit
      · exact .nothing _
  · exact .nothing _

/-- A string begins with a letter of its mark or with its quote. -/
theorem head_of_opening (opening : IsOpening mark quote) {c : Char}
    (head : c ∈ (mark ++ quote :: rest).head?) : startsWord c = true ∨ Lexeme.isQuote c = true := by
  cases mark with
  | nil =>
      cases head
      exact .inr opening.isQuote
  | cons d mark =>
      cases head
      exact .inl (opening.mark_spec List.mem_cons_self).1

/-- An opening is read as such. -/
theorem pieceHere_of_opening (opening : IsOpening mark quote) :
    pieceHere (mark ++ quote :: rest) =
      stringPiece (mark ++ quote :: rest) mark quote rest := by
  have head : ∀ c ∈ (mark ++ quote :: rest).head?, startsWord c = true ∨ Lexeme.isQuote c = true :=
    fun _ => head_of_opening opening
  have opened := opening?_of_isOpening opening rest
  generalize mark ++ quote :: rest = text at head opened
  unfold pieceHere
  split
  case h_7 => rw [opened]
  case h_1 => cases opened
  all_goals exact absurd (head _ rfl) (by decide)

theorem stringPiece_of_single (single : ∀ more, rest ≠ quote :: quote :: more) :
    stringPiece text mark quote rest = stringPiece.short text mark quote rest := by
  unfold stringPiece
  split
  · next a b behind =>
      split
      · next same => exact absurd (by rw [same.1, same.2]) (single behind)
      · rfl
  · rfl

/-- A string in single quotes at the head of a text. -/
theorem reads_short (opening : IsOpening mark quote) (noReturn : '\r' ∉ rest)
    (single : ∀ more, rest ≠ quote :: quote :: more) :
    Reads (mark ++ quote :: rest) (stringPiece.short (mark ++ quote :: rest) mark quote rest) := by
  unfold stringPiece.short
  split
  · next body after closed =>
      rcases shortBody_closed closed with ⟨inner, rfl, rfl, whole⟩
      refine .short opening whole fun none => ?_
      subst none
      intro same
      obtain ⟨more, rfl⟩ : ∃ more, after = quote :: more := List.head?_eq_some_iff.mp same
      exact single more rfl
  · next carried =>
      refine .unfinished fun isSingle _ => .short opening ?_ ?_
      · rintro rfl
        cases carried
      · exact isWhole_of_carried isSingle.of_append.tail noReturn carried
  · next broken =>
      -- The mark is a name then, and the quote starts nothing either.
      have outside := opening.quote_spec.1
      have within : ∀ c ∈ mark, isWordCharacter c = true := fun c member =>
        (opening.mark_spec member).2.1
      have behind : (mark ++ quote :: rest).dropWhile isWordCharacter = quote :: rest := by
        rw [List.dropWhile_append_of_pos within, List.dropWhile_cons_of_neg (by simp [outside])]
      have bare : IsOpening [] quote := ⟨opening.isQuote, List.forall_mem_nil _, rfl⟩
      have nothing : pieceHere (quote :: rest) = .nothing := by
        refine (pieceHere_of_opening bare).trans ?_
        rw [stringPiece_of_single single, stringPiece.short, broken]
        simp [wordPiece, outside]
      refine reads_wordPiece (fun other more _ _ => by rw [behind, nothing]) fun c head => ?_
      rw [← Bool.not_eq_true]
      intro digit
      have spec := digit_spec digit
      have noQuote : Lexeme.isQuote c = false := spec.2.2.1
      have start := head_of_opening opening head
      rw [spec.2.1, noQuote] at start
      rcases start with start | start <;> cases start

theorem reads_stringPiece (opening : IsOpening mark quote) (noReturn : '\r' ∉ rest) :
    Reads (mark ++ quote :: rest) (stringPiece (mark ++ quote :: rest) mark quote rest) := by
  by_cases triple : ∃ more, rest = quote :: quote :: more
  · rcases triple with ⟨behind, rfl⟩
    unfold stringPiece
    simp only [and_self, if_true]
    split
    · next body after closed =>
        rcases tripleBody_some opening.quote_spec.2.2.2.1 closed with ⟨inner, rfl, rfl, through⟩
        refine .long opening fun more => ?_
        simpa using through more
    · next unclosed =>
        refine .unfinished fun isSingle isEnded => .long opening ?_
        exact longBody_of_tripleBody opening.quote_spec.2.2.2.2
          isSingle.of_append.tail.tail.tail isEnded.of_append.tail.tail.tail unclosed
  · have single : ∀ more, rest ≠ quote :: quote :: more := fun more same => triple ⟨more, same⟩
    rw [stringPiece_of_single single]
    exact reads_short opening noReturn single

/-- A digit begins a number. -/
theorem number?_of_digit {c : Char} (digit : isAsciiDigit c = true) :
    number? (c :: rest) ≠ none := by
  have noMark : c ≠ '_' := by
    rintro rfl
    cases digit
  have run : ∃ run behind, decimalRun (c :: rest) = (c :: run, behind) := by
    simp [decimalRun, digitRun, digit, noMark]
  rcases run with ⟨run, behind, run_eq⟩
  unfold number?
  rw [run_eq]
  split
  · next none => cases none
  · exact Option.some_ne_none _
  · split
    · split <;> exact Option.some_ne_none _
    · exact Option.some_ne_none _

/-- Without carriage returns a comment ends at the next line feed. -/
theorem dropWhile_comment (noReturn : '\r' ∉ rest) :
    rest.dropWhile (fun c => c != '\r' && c != '\n') = rest.dropWhile (· ≠ '\n') := by
  induction rest with
  | nil => rfl
  | cons c rest ih =>
      have other : c ≠ '\r' := fun same => noReturn (same ▸ List.mem_cons_self)
      have tail := ih fun member => noReturn (List.mem_cons_of_mem c member)
      by_cases last : c = '\n'
      · simp [last]
      · simp [other, last, tail]

theorem reads_pieceHere (noReturn : '\r' ∉ text) : Reads text (pieceHere text) := by
  unfold pieceHere
  split
  · exact .done
  · exact .backslash _
  · simp at noReturn
  · next rest =>
      have same := dropWhile_comment noReturn
      rw [same, List.dropWhile_cons_of_pos (by decide)]
      exact .comment rest
  · exact .lineEnd _
  · simp at noReturn
  · split
    · next mark quote rest opened =>
        rcases opening?_spec opened with ⟨rfl, opening⟩
        exact reads_stringPiece opening fun member => noReturn (by simp [member])
    · next unopened =>
        split
        · next digits rest found =>
            rcases number?_spec found with ⟨rfl, filled, passes⟩
            exact .number rest filled passes
        · next noNumber =>
            split
            · next symbol rest found =>
                rcases operator?_spec found with ⟨rfl, filled, inert⟩
                exact .operator rest filled inert
            · refine reads_wordPiece (fun quote more behind opening => ?_) fun c head => ?_
              · have whole := List.takeWhile_append_dropWhile (p := isWordCharacter) (l := text)
                have opened := opening?_of_isOpening opening more
                rw [← behind, whole, unopened] at opened
                cases opened
              · rw [← Bool.not_eq_true]
                intro digit
                obtain ⟨rest, rfl⟩ : ∃ rest, text = c :: rest := List.head?_eq_some_iff.mp head
                exact number?_of_digit digit noNumber

end Pieces

end Lexeme
end Snippet
end AnswerKey
