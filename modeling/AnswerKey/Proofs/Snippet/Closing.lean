import AnswerKey.Proofs.Snippet.Step

namespace AnswerKey
namespace Snippet
namespace Token

/-!
Tokens in front of a closing bracket.

A closing round bracket goes into no token but its own.  So a token that is read at the head of a
text is read there as well when such a bracket follows the text (`next?_closed`).
-/

open Text Construct Lexeme

section Closed

variable {text rest : List Char}

/-! ### Strings -/

section Strings

variable {quote : Char} {mark seen body : List Char}

/-- What stands behind a string in triple quotes is left. -/
theorem longBody?_append (more : List Char)
    (read : longBody? quote seen text = some (body, rest)) :
    longBody? quote seen (text ++ more) = some (body, rest ++ more) := by
  fun_induction longBody? quote seen text with
  | case1 => cases read
  | case2 seen c text ih => exact ih read
  | case3 seen a b c text plain closes =>
      cases read
      simp only [List.cons_append]
      rw [longBody?, if_pos closes]
      exact plain
  | case4 seen a b c text plain other ih =>
      simp only [List.cons_append] at ih ⊢
      rw [longBody?, if_neg other]
      · exact ih read
      · exact plain
  | case5 => cases read

/-- A string may be read again in front of a text that no quote of its kind begins. -/
theorem string?_append (noEscape : quote ≠ '\\') {token : Token}
    (read : string? mark quote text = some (token, rest)) {more : List Char}
    (apart : more.head? ≠ some quote) : string? mark quote (text ++ more) = some (token, rest ++ more) := by
  unfold string? at read
  obtain ⟨⟨body, behind⟩, read, same⟩ := Option.map_eq_some_iff.mp read
  cases same
  have short (read : shortBody? quote [] text = some (body, rest))
      (single : ∀ a b behind, text ++ more = a :: b :: behind → ¬ (a = quote ∧ b = quote)) :
      string? mark quote (text ++ more) = some (.string (.ofMark mark body), rest ++ more) := by
    have onward := shortBody?_append noEscape more read
    unfold string?
    split
    · next a b behind same => rw [if_neg (single a b behind same), onward]; rfl
    · rw [onward]; rfl
  split at read
  · next a b behind =>
      split at read
      · next closes =>
          have onward := longBody?_append more read
          simp only [List.cons_append, string?, if_pos closes, onward]
          rfl
      · next other =>
          refine short read ?_
          rintro a b behind ⟨⟩
          exact other
  · next few =>
      refine short read ?_
      rintro a b behind same ⟨rfl, rfl⟩
      rcases text with _ | ⟨c, _ | ⟨d, text⟩⟩
      · cases read
      · exact apart (congrArg List.head? (List.cons.inj same).2)
      · exact few c d text rfl

end Strings

/-! ### Symbols -/

/-- What holds no bracket and stands at the head of a text with a bracket behind it stands at the
head of the text. -/
theorem take_closed {count : Nat} {more : List Char}
    (noBracket : ')' ∉ (text ++ ')' :: more).take count) : count ≤ text.length := by
  by_contra fewer
  refine noBracket (List.mem_take_iff_getElem.mpr ⟨text.length, by simp; omega, ?_⟩)
  simp

theorem symbol?_closed {shown : List Char} (read : symbol? text = some (shown, rest))
    (more : List Char) : symbol? (text ++ ')' :: more) = some (shown, rest ++ ')' :: more) := by
  have long : ∀ symbol ∈ symbols3, ')' ∉ symbol.toList := by decide
  have short : ∀ symbol ∈ symbols2, ')' ∉ symbol.toList := by decide
  have fits3 : symbols3.contains (.ofList ((text ++ ')' :: more).take 3)) = true → 3 ≤ text.length :=
    fun member => take_closed (by simpa using long _ (List.contains_iff_mem.mp member))
  have fits2 : symbols2.contains (.ofList ((text ++ ')' :: more).take 2)) = true → 2 ≤ text.length :=
    fun member => take_closed (by simpa using short _ (List.contains_iff_mem.mp member))
  unfold symbol? at read
  split at read
  · next member =>
      cases read
      have three := length_of_symbols3 member
      have enough : 3 ≤ text.length := by
        rw [List.length_take] at three
        omega
      unfold symbol?
      rw [List.take_append_of_le_length enough, List.drop_append_of_le_length enough, if_pos member]
  · next noLong =>
      have noLong' : ¬ symbols3.contains (.ofList ((text ++ ')' :: more).take 3)) = true := by
        intro member
        rw [List.take_append_of_le_length (fits3 member)] at member
        exact noLong member
      split at read
      · next member =>
          cases read
          have two := (length_of_symbols2 member).1
          have enough : 2 ≤ text.length := by
            rw [List.length_take] at two
            omega
          unfold symbol?
          rw [if_neg noLong', List.take_append_of_le_length enough,
            List.drop_append_of_le_length enough, if_pos member]
      · next noShort =>
          have noShort' : ¬ symbols2.contains (.ofList ((text ++ ')' :: more).take 2)) = true := by
            intro member
            rw [List.take_append_of_le_length (fits2 member)] at member
            exact noShort member
          split at read
          · next c tail _ =>
              split at read
              · next member =>
                  cases read
                  unfold symbol?
                  rw [if_neg noLong', if_neg noShort', List.cons_append]
                  exact if_pos member
              · cases read
          · cases read

/-! ### Numbers -/

theorem digitRun_closed {p : Char → Bool} (plain : p '_' = false) (noBracket : p ')' = false)
    (text more : List Char) : digitRun p (text ++ ')' :: more) =
      ((digitRun p text).1, (digitRun p text).2 ++ ')' :: more) := by
  fun_induction digitRun p text with
  | case1 c text digit ih => simp [digitRun, digit, ih]
  | case2 c text other => simp [digitRun, other]
  | case3 c text _ digit ih =>
      have noMark : ∀ d left, c = '_' → text ++ ')' :: more = d :: left → False := by
        rintro _ _ rfl
        simp [plain] at digit
      rw [List.cons_append, digitRun, if_pos digit, ih]
      exact noMark
  | case4 c text alone other =>
      by_cases mark : c = '_'
      · subst mark
        obtain rfl : text = [] := by
          cases text with
          | nil => rfl
          | cons d text => exact (alone d text rfl rfl).elim
        simp [digitRun, noBracket]
      · rw [List.cons_append, digitRun, if_neg other]
        exact fun _ _ same => absurd same mark
  | case5 => simp [digitRun, noBracket]

theorem decimalRun_closed (text more : List Char) : decimalRun (text ++ ')' :: more) =
    ((decimalRun text).1, (decimalRun text).2 ++ ')' :: more) := by
  cases text with
  | nil => rfl
  | cons c text =>
      have run : digitRun isAsciiDigit (c :: text ++ ')' :: more) = _ :=
        digitRun_closed rfl rfl (c :: text) more
      rw [List.cons_append] at run ⊢
      by_cases digit : isAsciiDigit c = true
      · simpa only [decimalRun, if_pos digit] using run
      · simp only [decimalRun, if_neg digit, List.cons_append]

theorem leadOf_closed (text more : List Char) : leadOf (text ++ ')' :: more) = leadOf text := by
  induction text with
  | nil => rfl
  | cons c text ih =>
      simp only [leadOf, List.cons_append, List.takeWhile_cons] at ih ⊢
      rw [ih]

theorem numberMayEnd_closed (ends : numberMayEnd text = true) (more : List Char) :
    numberMayEnd (text ++ ')' :: more) = true := by
  rw [numberMayEnd_eq, leadOf_closed, ← numberMayEnd_eq]
  exact ends

theorem numberFrom?_closed {whole : List Char} {fraction : Option (List Char)} {value : Constant}
    (read : numberFrom? whole fraction text = some (value, rest)) (more : List Char) :
    numberFrom? whole fraction (text ++ ')' :: more) = some (value, rest ++ ')' :: more) := by
  obtain ⟨shown, rfl, ends, -, -, again⟩ := numberFrom?_again read
  rw [List.append_assoc]
  exact again _ (numberMayEnd_closed ends more)

theorem basedInteger?_closed {base : Nat} {p : Char → Bool} {value : Constant}
    (plain : p '_' = false) (noBracket : p ')' = false)
    (read : basedInteger? base p text = some (value, rest)) (more : List Char) :
    basedInteger? base p (text ++ ')' :: more) = some (value, rest ++ ')' :: more) := by
  obtain ⟨shown, rfl, ends, -, -, stops, again⟩ := basedInteger?_again plain read
  rw [List.append_assoc]
  refine again _ (numberMayEnd_closed ends more) fun c head => ?_
  cases rest with
  | nil =>
      cases head
      exact noBracket
  | cons d rest => exact stops c head

theorem number?_closed {value : Constant} (read : number? text = some (value, rest))
    (more : List Char) : number? (text ++ ')' :: more) = some (value, rest ++ ')' :: more) := by
  by_cases unbased : Unbased text
  · have unbased' : Unbased (text ++ ')' :: more) := by
      rintro mark left same
      rcases text with _ | ⟨c, _ | ⟨d, text⟩⟩
      · cases same
      · cases same
        decide
      · cases same
        exact unbased mark text rfl
    have run' := decimalRun_closed text more
    rcases run : decimalRun text with ⟨whole, left⟩
    rw [run] at run'
    by_cases point : ∃ behind, left = '.' :: behind
    · obtain ⟨behind, rfl⟩ := point
      rw [number?_of_point unbased run] at read
      rw [number?_of_point unbased' run', List.append_eq, decimalRun_closed]
      exact numberFrom?_closed read more
    · have noPoint : ∀ c ∈ left.head?, c ≠ '.' := by
        rintro c head rfl
        exact point (List.head?_eq_some_iff.mp head)
      rw [number?_of_noPoint unbased run noPoint] at read
      rw [number?_of_noPoint unbased' run' ?_]
      · exact numberFrom?_closed read more
      · cases left with
        | nil =>
            rintro c ⟨⟩
            decide
        | cons d left => exact noPoint
  · simp only [Unbased, not_forall, not_not] at unbased
    obtain ⟨mark, digits, rfl, inBase⟩ := unbased
    have based (base : Nat) (p : Char → Bool) (plain : p '_' = false) (noBracket : p ')' = false)
        (branch : ∀ digits, number? ('0' :: mark :: digits) = basedInteger? base p digits) :
        number? ('0' :: mark :: digits ++ ')' :: more) = some (value, rest ++ ')' :: more) := by
      rw [branch] at read
      exact (branch _).trans (basedInteger?_closed plain noBracket read more)
    fin_cases inBase
    · exact based 16 isHexDigit rfl rfl fun _ => rfl
    · exact based 16 isHexDigit rfl rfl fun _ => rfl
    · exact based 8 Literal.isOctal rfl rfl fun _ => rfl
    · exact based 8 Literal.isOctal rfl rfl fun _ => rfl
    · exact based 2 _ rfl rfl fun _ => rfl
    · exact based 2 _ rfl rfl fun _ => rfl

/-! ### Tokens -/

theorem startsNumber_closed {c : Char} {more : List Char} :
    startsNumber c (text ++ ')' :: more) = startsNumber c text := by
  cases text with
  | nil => rfl
  | cons d text => rfl

theorem word_closed {brackets : List Char} {token : Token} {c : Char}
    (noString : opening? (c :: text) = none)
    (starts : (isAsciiLetter c || c == '_' || !isAscii c) = true)
    (known : ofWord? ((c :: text).takeWhile mayContinueWord) = some token) (more : List Char) :
    next? brackets (c :: text ++ ')' :: more) =
      some (token, brackets, (c :: text).dropWhile mayContinueWord ++ ')' :: more) := by
  have within : mayContinueWord c = true := by
    rw [Bool.or_assoc, Bool.or_left_comm] at starts
    simp only [mayContinueWord, Bool.or_eq_true] at starts ⊢
    tauto
  have whole := List.takeWhile_append_dropWhile (p := mayContinueWord) (l := c :: text)
  have all : ∀ d ∈ (c :: text).takeWhile mayContinueWord, mayContinueWord d = true :=
    fun d member => List.mem_takeWhile_imp member
  have stops := List.head?_dropWhile_not mayContinueWord (c :: text)
  obtain ⟨rest, left⟩ : ∃ rest, (c :: text).dropWhile mayContinueWord = rest := ⟨_, rfl⟩
  rw [left] at whole stops ⊢
  rw [List.takeWhile_cons_of_pos within] at known whole all
  rw [← whole] at noString ⊢
  rw [List.append_assoc]
  have ends : ∀ d ∈ (rest ++ ')' :: more).head?, mayContinueWord d = false ∧
      (Lexeme.isQuote d = true → ∃ e ∈ rest.head?, Lexeme.isQuote e = true) := by
    cases rest with
    | nil =>
        rintro d ⟨⟩
        exact ⟨rfl, fun isQuote => absurd isQuote (by decide)⟩
    | cons d rest =>
        rintro d ⟨⟩
        exact ⟨stops, fun isQuote => ⟨d, rfl, isQuote⟩⟩
  refine next?_of_word (List.cons_ne_nil _ _) ?_ all known (fun d head => (ends d head).1)
    (opening?_of_word all noString ends)
  rintro d ⟨⟩
  exact starts

theorem isPlainHead_of_symbol? {c : Char} {shown : List Char}
    (read : symbol? (c :: text) = some (shown, rest)) : IsPlainHead c := by
  obtain ⟨whole, filled, -, -⟩ := symbol?_spec read
  obtain ⟨d, others, rfl⟩ := List.exists_cons_of_ne_nil filled
  obtain ⟨rfl, -⟩ := List.cons.inj whole
  exact isPlainHead_of_isPunctuation (punctuation_of_symbol? read c List.mem_cons_self)

/-- A token is read as well when a round bracket follows the text. -/
theorem next?_closed {brackets opened : List Char} {token : Token}
    (read : next? brackets text = some (token, opened, rest)) (more : List Char) :
    next? brackets (text ++ ')' :: more) = some (token, opened, rest ++ ')' :: more) := by
  have whole := read
  unfold next? at read
  split at read
  · next mark quote behind opens =>
      obtain ⟨⟨_, _⟩, body, same⟩ := Option.map_eq_some_iff.mp read
      cases same
      obtain ⟨rfl, opening⟩ := opening?_spec opens
      have noBracket : quote ≠ ')' := by
        rintro rfl
        exact absurd opening.isQuote (by decide)
      have apart : (')' :: more).head? ≠ some quote := fun head => noBracket (Option.some.inj head).symm
      have onward := string?_append opening.quote_spec.2.2.2.1 body apart
      rw [List.append_assoc, List.cons_append, next?.eq_def, opening?_of_isOpening opening]
      simp only [onward]
      rfl
  · next noString =>
      split at read
      · cases read
      · next c tail =>
          split at read
          · next starts =>
              obtain ⟨found, known, same⟩ := Option.map_eq_some_iff.mp read
              cases same
              exact word_closed noString starts known more
          · next noName =>
              rw [Bool.not_eq_true] at noName
              split at read
              · next starts =>
                  obtain ⟨⟨_, _⟩, number, same⟩ := Option.map_eq_some_iff.mp read
                  cases same
                  refine next?_of_number ?_ (number?_closed number more)
                  exact startsNumber_closed.trans starts
              · next noNumber =>
                  split at read
                  · cases read
                  · next shown left symbol =>
                      obtain ⟨_, nested, same⟩ := Option.map_eq_some_iff.mp read
                      cases same
                      refine next?_of_symbol (isPlainHead_of_symbol? symbol) ?_
                        (symbol?_closed symbol more) nested
                      exact startsNumber_closed.trans (Bool.eq_false_of_not_eq_true noNumber)

end Closed
end Token
end Snippet
end AnswerKey
