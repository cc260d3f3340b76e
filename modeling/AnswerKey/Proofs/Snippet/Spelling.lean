import AnswerKey.Proofs.Answer.CodeLine
import AnswerKey.Proofs.Snippet.Renumber

namespace AnswerKey
namespace Snippet
namespace Token

/-!
The texts of tokens.

What is read as a token has a text of its own, and is read again from this text in front of many
others (`Spelling`): a word where no word goes on, a number where it may end, a symbol in front of
what is not read as one with it, and a string in any quotes that its body does not hold.
-/

open Text Construct Lexeme

/-! ### Strings -/

section Strings

variable {quote : Char} {mark seen text body rest : List Char}

/-- A body that may stand between two quotes of a kind as it is. -/
def Enclosable (quote : Char) (body : List Char) : Prop :=
  shortBody? quote [] (body ++ [quote]) = some (body, [])

instance (quote : Char) (body : List Char) : Decidable (Enclosable quote body) :=
  inferInstanceAs (Decidable (shortBody? quote [] (body ++ [quote]) = some (body, [])))

theorem shortBody?_cons {c : Char} (noEscape : c ≠ '\\') (rest : List Char) :
    shortBody? quote seen (c :: rest) =
      if c = quote then some (seen.reverse, rest)
      else if c = '\n' then none
      else shortBody? quote (c :: seen) rest := by
  rw [shortBody?.eq_def]
  split
  · next none => cases none
  · next same => exact absurd (List.cons.inj same).1 noEscape
  · next same =>
      cases same
      simp [noEscape]

/-- What stands behind a closed string is left. -/
theorem shortBody?_append (noEscape : quote ≠ '\\') (more : List Char)
    (read : shortBody? quote seen text = some (body, rest)) :
    shortBody? quote seen (text ++ more) = some (body, rest ++ more) := by
  fun_induction shortBody? quote seen text with
  | case1 => cases read
  | case2 seen c text ih => exact ih read
  | case3 seen text =>
      cases read
      rw [List.cons_append, shortBody?_cons noEscape, if_pos rfl]
  | case4 => cases read
  | case5 seen c text _ other plain ih =>
      rw [not_or] at plain
      rw [List.cons_append, shortBody?_cons plain.2, if_neg other, if_neg plain.1]
      exact ih read

/-- A string in single quotes may be read again in front of another text, in quotes of any kind. -/
theorem string?_of_short (noEscape : quote ≠ '\\') (enclosable : Enclosable quote body)
    (apart : body = [] → ∀ c ∈ rest.head?, c ≠ quote) (mark : List Char) :
    string? mark quote (body ++ quote :: rest) = some (.string (.ofMark mark body), rest) := by
  have read := shortBody?_append noEscape rest enclosable
  rw [List.append_assoc, List.singleton_append, List.nil_append] at read
  have single : ∀ a b behind, body ++ quote :: rest = a :: b :: behind → ¬ (a = quote ∧ b = quote) := by
    rintro a b behind whole ⟨first, second⟩
    cases body with
    | nil =>
        obtain ⟨-, same⟩ := List.cons.inj whole
        exact apart rfl b (congrArg List.head? same) second
    | cons c body =>
        obtain ⟨rfl, -⟩ := List.cons.inj whole
        subst first
        rw [Enclosable, List.cons_append, shortBody?_cons noEscape, if_pos rfl] at enclosable
        cases enclosable
  unfold string?
  split
  · next a b behind same => rw [if_neg (single a b behind same), read]; rfl
  · rw [read]; rfl

/-- A string is its body with one quote or three on either side. -/
theorem exists_body_of_string? (noEscape : quote ≠ '\\') {token : Token}
    (read : string? mark quote text = some (token, rest)) :
    ∃ body, token = .string (.ofMark mark body) ∧
      (text = body ++ quote :: rest ∨
        text = quote :: quote :: (body ++ quote :: quote :: quote :: rest)) := by
  unfold string? at read
  obtain ⟨⟨body, behind⟩, read, same⟩ := Option.map_eq_some_iff.mp read
  cases same
  refine ⟨body, rfl, ?_⟩
  have short (read : shortBody? quote [] text = some (body, rest)) : text = body ++ quote :: rest := by
    obtain ⟨_, rfl, whole, -⟩ := shortBody?_spec noEscape read
    exact whole
  split at read
  · next a b behind =>
      split at read
      · next same =>
          obtain ⟨rfl, rfl⟩ := same
          obtain ⟨_, rfl, whole, -⟩ := longBody?_spec noEscape read
          exact .inr (by rw [whole])
      · exact .inl (short read)
  · exact .inl (short read)

end Strings
/-! ### Symbols -/

section Symbols

variable {shown text rest rest' : List Char}

/-- A symbol and a text that are not read as one symbol, nor as a number, when they meet. -/
structure Unjoined (shown rest : List Char) : Prop where
  pair : ∀ c ∈ shown.getLast?, ∀ d ∈ rest.head?, symbols2.contains (.ofList [c, d]) = false
  dots : shown = ['.'] → rest.take 2 ≠ ['.', '.']
  digit : shown = ['.'] → ∀ d ∈ rest.head?, isAsciiDigit d = false

theorem not_symbol3_of_pair {c d e : Char} (apart : symbols2.contains (.ofList [c, d]) = false)
    (noDots : c = '.' → ¬ (d = '.' ∧ e = '.')) : symbols3.contains (.ofList [c, d, e]) = false := by
  have all : ∀ symbol ∈ symbols3,
      symbol = "..." ∨ symbols2.contains (.ofList (symbol.toList.take 2)) = true := by
    decide
  rw [← Bool.not_eq_true, List.contains_iff_mem]
  intro member
  rcases all _ member with dots | joined
  · have same := congrArg String.toList dots
    rw [String.toList_ofList] at same
    cases same
    exact noDots rfl ⟨rfl, rfl⟩
  · rw [String.toList_ofList] at joined
    rw [show [c, d, e].take 2 = [c, d] from rfl, apart] at joined
    cases joined

theorem not_symbol3_of_last {b c d : Char} (apart : symbols2.contains (.ofList [c, d]) = false)
    (noDots : ¬ (b = '.' ∧ c = '.')) : symbols3.contains (.ofList [b, c, d]) = false := by
  have all : ∀ symbol ∈ symbols3,
      symbol = "..." ∨ symbols2.contains (.ofList (symbol.toList.drop 1)) = true := by
    decide
  rw [← Bool.not_eq_true, List.contains_iff_mem]
  intro member
  rcases all _ member with dots | joined
  · have same := congrArg String.toList dots
    rw [String.toList_ofList] at same
    cases same
    exact noDots ⟨rfl, rfl⟩
  · rw [String.toList_ofList] at joined
    rw [show [b, c, d].drop 1 = [c, d] from rfl, apart] at joined
    cases joined

theorem length_of_symbols3 {word : List Char} (member : symbols3.contains (.ofList word) = true) :
    word.length = 3 := by
  have all : ∀ symbol ∈ symbols3, symbol.toList.length = 3 := by decide
  simpa using all _ (List.contains_iff_mem.mp member)

theorem length_of_symbols2 {word : List Char} (member : symbols2.contains (.ofList word) = true) :
    word.length = 2 ∧ word ≠ ['.', '.'] := by
  have all : ∀ symbol ∈ symbols2, symbol.toList.length = 2 ∧ symbol.toList ≠ ['.', '.'] := by decide
  simpa using all _ (List.contains_iff_mem.mp member)

/-- A symbol may be read again in front of a text with which it is not read as one. -/
theorem symbol?_again (read : symbol? text = some (shown, rest)) (unjoined : Unjoined shown rest') :
    symbol? (shown ++ rest') = some (shown, rest') := by
  unfold symbol? at read
  split at read
  · next long =>
      cases read
      have three := length_of_symbols3 long
      unfold symbol?
      rw [List.take_append_of_le_length three.ge, List.drop_append_of_le_length three.ge,
        List.take_of_length_le three.le, if_pos long, List.drop_of_length_le three.le,
        List.nil_append]
  · split at read
    · next short =>
        cases read
        obtain ⟨two, noDots⟩ := length_of_symbols2 short
        generalize text.take 2 = shown at short two noDots unjoined
        obtain ⟨b, c, rfl⟩ := List.length_eq_two.mp two
        have noLong : symbols3.contains (.ofList (([b, c] ++ rest').take 3)) = false := by
          cases rest' with
          | nil =>
              rw [← Bool.not_eq_true]
              exact fun long => absurd (length_of_symbols3 long) (by simp)
          | cons d rest' =>
              refine not_symbol3_of_last (unjoined.pair c rfl d rfl) ?_
              rintro ⟨rfl, rfl⟩
              exact noDots rfl
        unfold symbol?
        rw [noLong]
        exact if_pos short
    · split at read
      · next c tail _ _ =>
          split at read
          · next single =>
              cases read
              have noLong : symbols3.contains (.ofList (([c] ++ rest').take 3)) = false := by
                rcases rest' with _ | ⟨d, _ | ⟨e, rest'⟩⟩
                · rw [← Bool.not_eq_true]
                  exact fun long => absurd (length_of_symbols3 long) (by simp)
                · rw [← Bool.not_eq_true]
                  exact fun long => absurd (length_of_symbols3 long) (by simp)
                · refine not_symbol3_of_pair (unjoined.pair c rfl d rfl) ?_
                  rintro rfl ⟨rfl, rfl⟩
                  exact unjoined.dots rfl rfl
              have noShort : symbols2.contains (.ofList (([c] ++ rest').take 2)) = false := by
                cases rest' with
                | nil =>
                    rw [← Bool.not_eq_true]
                    exact fun long => absurd (length_of_symbols2 long).1 (by simp)
                | cons d rest' => exact unjoined.pair c rfl d rfl
              unfold symbol?
              rw [noLong, noShort]
              exact if_pos single
          · cases read
      · cases read

theorem punctuation_of_symbol? (read : symbol? text = some (shown, rest)) :
    ∀ c ∈ shown, Answer.isPunctuation c = true := by
  have long : ∀ symbol ∈ symbols3, symbol.toList.all Answer.isPunctuation = true := by decide
  have short : ∀ symbol ∈ symbols2, symbol.toList.all Answer.isPunctuation = true := by decide
  have single : symbols1.all Answer.isPunctuation = true := by decide
  unfold symbol? at read
  split at read
  · next member =>
      cases read
      simpa using long _ (List.contains_iff_mem.mp member)
  · split at read
    · next member =>
        cases read
        simpa using short _ (List.contains_iff_mem.mp member)
    · split at read
      · split at read
        · next member =>
            cases read
            rw [List.forall_mem_singleton]
            exact List.all_eq_true.mp single _ (List.contains_iff_mem.mp member)
        · cases read
      · cases read

end Symbols
/-! ### Tokens -/

/-- A token and its text, and in front of which texts it is read again. -/
inductive Spelling (brackets opened rest : List Char) : Token → List Char → Prop where
  | word {token : Token} {shown : List Char} (filled : shown ≠ [])
      (within : ∀ c ∈ shown, mayContinueWord c = true) (known : ofWord? shown = some token)
      (ends : ∀ c ∈ rest.head?, mayContinueWord c = false)
      (again : ∀ rest', (∀ c ∈ rest'.head?, mayContinueWord c = false ∧
          (Lexeme.isQuote c = true → ∃ d ∈ rest.head?, Lexeme.isQuote d = true)) →
        next? brackets (shown ++ rest') = some (token, opened, rest')) :
      Spelling brackets opened rest token shown
  | number {value : Constant} {shown : List Char} (filled : shown ≠ [])
      (figures : ∀ c ∈ shown, isFigure c = true) (ends : numberMayEnd rest = true)
      (integral : ∀ digits, value = .int digits → ∀ c ∈ shown, mayContinueWord c = true)
      (again : ∀ rest', Continues value rest rest' →
        next? brackets (shown ++ rest') = some (.number value, opened, rest')) :
      Spelling brackets opened rest (.number value) shown
  | symbol {shown : List Char} (filled : shown ≠ [])
      (punctuation : ∀ c ∈ shown, Answer.isPunctuation c = true)
      (again : ∀ rest', Unjoined shown rest' →
        next? brackets (shown ++ rest') = some (.symbol (.ofList shown), opened, rest')) :
      Spelling brackets opened rest (.symbol (.ofList shown)) shown
  | string {mark body shown : List Char} {quote : Char} (same : opened = brackets)
      (opening : IsOpening mark quote)
      (written : shown = mark ++ quote :: (body ++ [quote]) ∨
        shown = mark ++ quote :: quote :: quote :: (body ++ [quote, quote, quote])) :
      Spelling brackets opened rest (.string (.ofMark mark body)) shown

section Spellings

variable {brackets opened text rest : List Char} {token : Token}

/-- No string opens at a character that is neither a quote nor a letter. -/
theorem opening?_of_plain {c : Char} (noWord : startsWord c = false)
    (noQuote : Lexeme.isQuote c = false) (rest : List Char) : opening? (c :: rest) = none := by
  cases opened : opening? (c :: rest) with
  | none => rfl
  | some found =>
      obtain ⟨mark, quote, behind⟩ := found
      obtain ⟨whole, opening⟩ := opening?_spec opened
      cases mark with
      | nil =>
          obtain ⟨rfl, -⟩ := List.cons.inj whole
          simp [opening.isQuote] at noQuote
      | cons d mark =>
          obtain ⟨rfl, -⟩ := List.cons.inj whole
          simp [(opening.mark_spec List.mem_cons_self).1] at noWord

/-- A word is read up to its end. -/
theorem next?_of_word {shown : List Char} (filled : shown ≠ [])
    (starts : ∀ c ∈ shown.head?, (isAsciiLetter c || c == '_' || !isAscii c) = true)
    (within : ∀ c ∈ shown, mayContinueWord c = true) (known : ofWord? shown = some token)
    (ends : ∀ c ∈ rest.head?, mayContinueWord c = false)
    (noString : opening? (shown ++ rest) = none) :
    next? brackets (shown ++ rest) = some (token, brackets, rest) := by
  obtain ⟨c, others, rfl⟩ := List.exists_cons_of_ne_nil filled
  have lead : (c :: others ++ rest).takeWhile mayContinueWord = c :: others :=
    leadOf_append within ends
  have behind : (c :: others ++ rest).dropWhile mayContinueWord = rest := by
    have whole := List.takeWhile_append_dropWhile (p := mayContinueWord) (l := c :: others ++ rest)
    rw [lead] at whole
    exact List.append_cancel_left whole
  rw [List.cons_append] at noString lead behind ⊢
  rw [next?, noString]
  simp only [starts c rfl, if_true, lead, behind, known]
  rfl

theorem mayContinueWord_of_mark {mark : List Char} {quote : Char} (opening : IsOpening mark quote) :
    (∀ c ∈ mark, mayContinueWord c = true) ∧ mayContinueWord quote = false := by
  constructor
  · intro c member
    exact of_ascii (fun c => lowerChar c ∈ markLetters → mayContinueWord c = true) (by decide)
      (opening.ascii c member) (opening.letters member)
  · have isQuote := opening.isQuote
    rw [Lexeme.isQuote, Bool.or_eq_true, beq_iff_eq, beq_iff_eq] at isQuote
    rcases isQuote with rfl | rfl <;> decide

/-- A word is no mark of a string in front of a text, if it is none in front of another that begins
with a quote whenever the one does. -/
theorem opening?_of_word {shown rest' : List Char}
    (within : ∀ c ∈ shown, mayContinueWord c = true) (noString : opening? (shown ++ rest) = none)
    (ends : ∀ c ∈ rest'.head?, mayContinueWord c = false ∧
      (Lexeme.isQuote c = true → ∃ d ∈ rest.head?, Lexeme.isQuote d = true)) :
    opening? (shown ++ rest') = none := by
  cases opened : opening? (shown ++ rest') with
  | none => rfl
  | some found =>
      obtain ⟨mark, quote, behind⟩ := found
      obtain ⟨whole, opening⟩ := opening?_spec opened
      obtain ⟨letters, outside⟩ := mayContinueWord_of_mark opening
      have outer : ∀ c ∈ (quote :: behind).head?, mayContinueWord c = false := by
        rintro _ ⟨⟩
        exact outside
      have lead := leadOf_append letters outer
      rw [← whole, leadOf_append within fun c head => (ends c head).1] at lead
      subst lead
      obtain rfl := List.append_cancel_left whole
      obtain ⟨d, head, isQuote⟩ := (ends quote rfl).2 opening.isQuote
      obtain ⟨tail, rfl⟩ := List.head?_eq_some_iff.mp head
      rw [opening?_of_isOpening ⟨isQuote, opening.ascii, opening.isMark⟩] at noString
      cases noString

theorem spelling_of_word (read : next? brackets text = some (token, opened, rest))
    (noString : opening? text = none)
    (starts : ∀ c ∈ text.head?, (isAsciiLetter c || c == '_' || !isAscii c) = true) :
    ∃ shown, text = shown ++ rest ∧ Spelling brackets opened rest token shown := by
  unfold next? at read
  rw [noString] at read
  cases text with
  | nil => cases read
  | cons c more =>
      simp only [starts c rfl, if_true] at read
      obtain ⟨found, known, same⟩ := Option.map_eq_some_iff.mp read
      cases same
      have whole := List.takeWhile_append_dropWhile (p := mayContinueWord) (l := c :: more)
      have first : mayContinueWord c = true := by
        have letter := starts c rfl
        simp only [Bool.or_eq_true] at letter
        rcases letter with (letter | mark) | foreign
        · simp [mayContinueWord, letter]
        · simp [mayContinueWord, mark]
        · simp [mayContinueWord, foreign]
      have head : ∃ others, (c :: more).takeWhile mayContinueWord = c :: others :=
        ⟨_, List.takeWhile_cons_of_pos first⟩
      have within : ∀ d ∈ (c :: more).takeWhile mayContinueWord, mayContinueWord d = true :=
        fun d member => List.mem_takeWhile_imp member
      have ends : ∀ d ∈ ((c :: more).dropWhile mayContinueWord).head?, mayContinueWord d = false := by
        intro d here
        have stopped := List.head?_dropWhile_not mayContinueWord (c :: more)
        rw [Option.mem_def.mp here] at stopped
        exact stopped
      refine ⟨_, whole.symm, ?_⟩
      rw [← whole] at noString
      generalize (c :: more).takeWhile mayContinueWord = shown at *
      obtain ⟨others, rfl⟩ := head
      refine .word (List.cons_ne_nil c others) within known ends fun rest' ends' => ?_
      refine next?_of_word (List.cons_ne_nil c others) ?_ within known (fun d head => (ends' d head).1)
        (opening?_of_word within noString ends')
      rintro _ ⟨⟩
      exact starts c rfl

/-- Whether a number starts with a character, given what follows it. -/
def startsNumber (c : Char) (rest : List Char) : Bool :=
  isAsciiDigit c || (c == '.' && rest.head?.any isAsciiDigit)

/-- A character that starts neither a string nor a word. -/
def IsPlainHead (c : Char) : Prop :=
  startsWord c = false ∧ Lexeme.isQuote c = false ∧
    (isAsciiLetter c || c == '_' || !isAscii c) = false

instance : DecidablePred IsPlainHead :=
  fun c => inferInstanceAs (Decidable (startsWord c = false ∧ Lexeme.isQuote c = false ∧
    (isAsciiLetter c || c == '_' || !isAscii c) = false))

theorem isPlainHead_of_startsNumber {c : Char} (starts : startsNumber c rest = true) :
    IsPlainHead c := by
  rw [startsNumber, Bool.or_eq_true, Bool.and_eq_true, beq_iff_eq] at starts
  rcases starts with digit | ⟨rfl, -⟩
  · exact of_ascii (fun c => isAsciiDigit c = true → IsPlainHead c) (by decide)
      (isAscii_of_digit digit) digit
  · decide

theorem isPlainHead_of_isPunctuation {c : Char} (mark : Answer.isPunctuation c = true) :
    IsPlainHead c := by
  have all : ∀ c ∈ "()[]\x7b\x7d:,.;=+-*/%<>!&|^~@".toList, IsPlainHead c := by decide
  exact all c (List.contains_iff_mem.mp mark)

theorem next?_of_number {c : Char} {value : Constant} (starts : startsNumber c text = true)
    (read : number? (c :: text) = some (value, rest)) :
    next? brackets (c :: text) = some (.number value, brackets, rest) := by
  obtain ⟨noWord, noQuote, noName⟩ := isPlainHead_of_startsNumber starts
  rw [next?, opening?_of_plain noWord noQuote]
  simp only [noName]
  rw [startsNumber] at starts
  rw [if_neg Bool.false_ne_true, if_pos starts, read]
  rfl

theorem next?_of_symbol {c : Char} {shown : List Char} (plain : IsPlainHead c)
    (noNumber : startsNumber c text = false) (read : symbol? (c :: text) = some (shown, rest))
    (nested : brackets? shown brackets = some opened) :
    next? brackets (c :: text) = some (.symbol (.ofList shown), opened, rest) := by
  obtain ⟨noWord, noQuote, noName⟩ := plain
  rw [next?, opening?_of_plain noWord noQuote]
  simp only [noName]
  rw [startsNumber] at noNumber
  rw [if_neg Bool.false_ne_true, noNumber, if_neg Bool.false_ne_true, read]
  simp only [nested]
  rfl

theorem spelling_of_number {c : Char} {value : Constant} (starts : startsNumber c text = true)
    (read : number? (c :: text) = some (value, rest)) :
    ∃ shown, c :: text = shown ++ rest ∧
      Spelling brackets brackets rest (.number value) shown := by
  have head : ∃ d ∈ (c :: text).head?, isAsciiDigit d = true ∨ d = '.' := by
    refine ⟨c, rfl, ?_⟩
    rw [startsNumber, Bool.or_eq_true, Bool.and_eq_true, beq_iff_eq] at starts
    exact starts.imp_right And.left
  obtain ⟨piece, whole', figures, -⟩ := number?_spec read
  obtain ⟨shown, whole, filled, ends, integral, again⟩ := number?_again head read
  obtain rfl := List.append_cancel_right (whole'.symm.trans whole)
  obtain ⟨d, others, rfl⟩ := List.exists_cons_of_ne_nil filled
  obtain ⟨rfl, behind⟩ := List.cons.inj whole
  refine ⟨c :: others, whole, .number filled figures.2 ends integral fun rest' continues => ?_⟩
  refine next?_of_number ?_ (again rest' continues)
  rw [startsNumber, Bool.or_eq_true, Bool.and_eq_true] at starts ⊢
  refine starts.imp_right (And.imp_right fun digit => ?_)
  cases others with
  | cons d others =>
      rw [behind] at digit
      exact digit
  | nil =>
      -- A point alone is no number, since a digit follows it.
      rw [behind] at digit
      obtain ⟨d, head, digit⟩ := (Option.any_eq_true _ _).mp digit
      rw [(parted_of_numberMayEnd ends d head).1] at digit
      cases digit

theorem spelling_of_symbol {c : Char} {shown : List Char} (plain : IsPlainHead c)
    (noNumber : startsNumber c text = false) (read : symbol? (c :: text) = some (shown, rest))
    (nested : brackets? shown brackets = some opened) :
    c :: text = shown ++ rest ∧ Spelling brackets opened rest (.symbol (.ofList shown)) shown := by
  obtain ⟨whole, filled, -, -⟩ := symbol?_spec read
  obtain ⟨d, others, rfl⟩ := List.exists_cons_of_ne_nil filled
  obtain ⟨rfl, behind⟩ := List.cons.inj whole
  refine ⟨whole, .symbol filled (punctuation_of_symbol? read) fun rest' unjoined => ?_⟩
  refine next?_of_symbol plain ?_ (symbol?_again read unjoined) nested
  rw [← Bool.not_eq_true, startsNumber, Bool.or_eq_true, Bool.and_eq_true, not_or] at noNumber ⊢
  refine ⟨noNumber.1, fun point => noNumber.2 ⟨point.1, ?_⟩⟩
  cases others with
  | cons d others =>
      rw [behind]
      exact point.2
  | nil =>
      obtain rfl := beq_iff_eq.mp point.1
      obtain ⟨d, head, digit⟩ := (Option.any_eq_true _ _).mp point.2
      rw [unjoined.digit rfl d head] at digit
      cases digit

/-- Every token has a text, and may be read again. -/
theorem spelling_of_next? (read : next? brackets text = some (token, opened, rest)) :
    ∃ shown, text = shown ++ rest ∧ Spelling brackets opened rest token shown := by
  have whole := read
  unfold next? at read
  split at read
  · next mark quote behind opens =>
      obtain ⟨⟨_, _⟩, body, same⟩ := Option.map_eq_some_iff.mp read
      cases same
      obtain ⟨rfl, opening⟩ := opening?_spec opens
      obtain ⟨body, rfl, written⟩ := exists_body_of_string? opening.quote_spec.2.2.2.1 body
      rcases written with rfl | rfl
      · exact ⟨_, by simp, .string rfl opening (.inl rfl)⟩
      · exact ⟨_, by simp, .string rfl opening (.inr rfl)⟩
  · next noString =>
      split at read
      · cases read
      · next c more =>
          split at read
          · next starts =>
              refine spelling_of_word whole noString ?_
              rintro _ ⟨⟩
              exact starts
          · next noName =>
              split at read
              · next starts =>
                  obtain ⟨⟨_, _⟩, number, same⟩ := Option.map_eq_some_iff.mp read
                  cases same
                  exact spelling_of_number starts number
              · next noNumber =>
                  split at read
                  · cases read
                  · next shown left symbol =>
                      obtain ⟨_, nested, same⟩ := Option.map_eq_some_iff.mp read
                      cases same
                      have head : c ∈ shown := by
                        obtain ⟨whole, filled, -, -⟩ := symbol?_spec symbol
                        obtain ⟨d, others, rfl⟩ := List.exists_cons_of_ne_nil filled
                        obtain ⟨rfl, -⟩ := List.cons.inj whole
                        exact List.mem_cons_self
                      exact ⟨shown, spelling_of_symbol
                        (isPlainHead_of_isPunctuation (punctuation_of_symbol? symbol c head))
                        (Bool.eq_false_of_not_eq_true noNumber) symbol nested⟩

/-- A string with a body that holds no bare quote may be read again in such quotes. -/
theorem next?_of_short {mark body : List Char} {quote : Char} (opening : IsOpening mark quote)
    (enclosable : Enclosable quote body) (apart : body = [] → ∀ c ∈ rest.head?, c ≠ quote) :
    next? brackets (mark ++ quote :: (body ++ quote :: rest)) =
      some (.string (.ofMark mark body), brackets, rest) := by
  rw [next?.eq_def, opening?_of_isOpening opening]
  simp only [string?_of_short opening.quote_spec.2.2.2.1 enclosable apart mark]
  rfl

end Spellings

namespace Spelling

variable {brackets opened rest shown : List Char} {token : Token}

theorem ne_nil (spelling : Spelling brackets opened rest token shown) : shown ≠ [] := by
  cases spelling with
  | word filled => exact filled
  | number filled => exact filled
  | symbol filled => exact filled
  | string same opening written => rcases written with rfl | rfl <;> simp

end Spelling

/-!
Strings in other quotes.

What ends a string is the first quote that is not escaped.  A body without quotes of another kind ends
at the first of these when it stands between them, so a string may be written in other quotes
(`next?_requoted`).
-/

open Text Construct Lexeme

section Bodies

variable {quote other : Char} {seen text found rest : List Char}

theorem shortBody?_requoted (otherEscape : other ≠ '\\')
    (read : shortBody? quote seen text = some (found, rest)) :
    ∃ body, found = seen.reverse ++ body ∧ text = body ++ quote :: rest ∧
      (other ∉ body → ∀ rest', shortBody? other seen (body ++ other :: rest') = some (found, rest')) := by
  fun_induction shortBody? quote seen text with
  | case1 => cases read
  | case2 seen c text ih =>
      obtain ⟨body, rfl, rfl, again⟩ := ih read
      refine ⟨'\\' :: c :: body, by simp, rfl, fun free rest' => ?_⟩
      rw [List.mem_cons, List.mem_cons, not_or, not_or] at free
      rw [List.cons_append, List.cons_append, shortBody?]
      exact again free.2.2 rest'
  | case3 seen text =>
      cases read
      refine ⟨[], by simp, rfl, fun _ rest' => ?_⟩
      rw [List.nil_append, shortBody?_cons otherEscape, if_pos rfl]
  | case4 => cases read
  | case5 seen c text _ different plain ih =>
      rw [not_or] at plain
      obtain ⟨body, rfl, rfl, again⟩ := ih read
      refine ⟨c :: body, by simp, rfl, fun free rest' => ?_⟩
      rw [List.mem_cons, not_or] at free
      rw [List.cons_append, shortBody?_cons plain.2, if_neg (Ne.symm free.1), if_neg plain.1]
      exact again free.2 rest'

theorem longBody?_requoted (otherEscape : other ≠ '\\')
    (read : longBody? quote seen text = some (found, rest)) :
    ∃ body, found = seen.reverse ++ body ∧ text = body ++ quote :: quote :: quote :: rest ∧
      (other ∉ body → ∀ rest',
        longBody? other seen (body ++ other :: other :: other :: rest') = some (found, rest')) := by
  fun_induction longBody? quote seen text with
  | case1 => cases read
  | case2 seen c text ih =>
      obtain ⟨body, rfl, rfl, again⟩ := ih read
      refine ⟨'\\' :: c :: body, by simp, rfl, fun free rest' => ?_⟩
      rw [List.mem_cons, List.mem_cons, not_or, not_or] at free
      rw [List.cons_append, List.cons_append, longBody?]
      exact again free.2.2 rest'
  | case3 seen a b c text _ same =>
      obtain ⟨rfl, rfl, rfl⟩ := same
      cases read
      refine ⟨[], by simp, rfl, fun _ rest' => ?_⟩
      rw [List.nil_append, longBody?, if_pos ⟨rfl, rfl, rfl⟩]
      exact otherEscape
  | case4 seen a b c text plain different ih =>
      obtain ⟨body, rfl, whole, again⟩ := ih read
      refine ⟨a :: body, by simp, by rw [whole]; rfl, fun free rest' => ?_⟩
      rw [List.mem_cons, not_or] at free
      have onward := again free.2 rest'
      obtain ⟨d, e, others, split⟩ :
          ∃ d e others, body ++ other :: other :: other :: rest' = d :: e :: others := by
        rcases body with _ | ⟨d, _ | ⟨e, body⟩⟩
        · exact ⟨_, _, _, rfl⟩
        · exact ⟨_, _, _, rfl⟩
        · exact ⟨_, _, _, rfl⟩
      rw [List.cons_append]
      rw [split] at onward ⊢
      rw [longBody?, if_neg fun same => free.1 same.1.symm]
      · exact onward
      · exact plain
  | case5 => cases read

end Bodies

variable {brackets opened text rest : List Char} {literal : Literal}

/-- A string is written with one quote or three on either side of its body.  Between double quotes it
is read again in front of any text, unless an empty body would meet a third one. -/
theorem next?_requoted (read : next? brackets text = some (.string literal, opened, rest)) :
    opened = brackets ∧ ∃ mark quote, IsOpening mark quote ∧
      (text = mark ++ quote :: (literal.body ++ quote :: rest) ∧ ('"' ∉ literal.body →
          ∀ rest', (literal.body = [] → ∀ c ∈ rest'.head?, c ≠ '"') →
            next? brackets (mark ++ '"' :: (literal.body ++ '"' :: rest')) =
              some (.string literal, brackets, rest')) ∨
        text = mark ++ quote :: quote :: quote :: (literal.body ++ quote :: quote :: quote :: rest) ∧
          ('"' ∉ literal.body → ∀ rest',
            next? brackets (mark ++ '"' :: '"' :: '"' :: (literal.body ++ '"' :: '"' :: '"' :: rest')) =
              some (.string literal, brackets, rest'))) := by
  unfold next? at read
  split at read
  · next mark quote behind opens =>
      obtain ⟨⟨token, left⟩, found, same⟩ := Option.map_eq_some_iff.mp read
      cases same
      obtain ⟨rfl, opening⟩ := opening?_spec opens
      have double : IsOpening mark '"' := ⟨rfl, opening.ascii, opening.isMark⟩
      unfold string? at found
      obtain ⟨⟨body, left⟩, found, same⟩ := Option.map_eq_some_iff.mp found
      cases same
      refine ⟨rfl, mark, quote, opening, ?_⟩
      have short (found : shortBody? quote [] behind = some (body, rest)) :
          behind = body ++ quote :: rest ∧ ('"' ∉ body → Enclosable '"' body) := by
        obtain ⟨_, rfl, whole, again⟩ := shortBody?_requoted (by decide : '"' ≠ '\\') found
        exact ⟨whole, fun free => again free []⟩
      have one (found : shortBody? quote [] behind = some (body, rest)) :
          mark ++ quote :: behind = mark ++ quote :: (body ++ quote :: rest) ∧ ('"' ∉ body →
            ∀ rest', (body = [] → ∀ c ∈ rest'.head?, c ≠ '"') →
              next? brackets (mark ++ '"' :: (body ++ '"' :: rest')) =
                some (.string (.ofMark mark body), brackets, rest')) := by
        obtain ⟨rfl, enclosable⟩ := short found
        exact ⟨rfl, fun free rest' apart => next?_of_short double (enclosable free) apart⟩
      split at found
      · next a b behind =>
          split at found
          · next quotes =>
              obtain ⟨rfl, rfl⟩ := quotes
              obtain ⟨_, rfl, rfl, again⟩ := longBody?_requoted (by decide : '"' ≠ '\\') found
              refine .inr ⟨rfl, fun free rest' => ?_⟩
              rw [next?.eq_def, opening?_of_isOpening double]
              simp only [string?, and_self, if_true]
              exact congrArg (fun found => Option.map _ (Option.map _ found)) (again free rest')
          · exact .inl (one found)
      · exact .inl (one found)
  · exfalso
    split at read
    · cases read
    · split at read
      · obtain ⟨found, word, same⟩ := Option.map_eq_some_iff.mp read
        cases same
        unfold ofWord? at word
        split at word
        · obtain same := Option.some.inj word
          split at same <;> cases same
        · split at word <;> cases word
      · split at read
        · obtain ⟨_, -, same⟩ := Option.map_eq_some_iff.mp read
          cases same
        · split at read
          · cases read
          · obtain ⟨_, -, same⟩ := Option.map_eq_some_iff.mp read
            cases same

end Token
end Snippet
end AnswerKey
