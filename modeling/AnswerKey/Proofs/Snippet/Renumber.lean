import Mathlib.Tactic.FinCases
import AnswerKey.Proofs.Construct.Layout

namespace AnswerKey
namespace Snippet
namespace Token

/-!
Numbers in front of other texts.

A number is read up to where it may end.  It is read again, with the same value, in front of every
other text in which no word begins but one that may follow a number (`number?_again`); behind an
integer moreover no point may stand, and a word only if it stood there before.
-/

open Text Construct Lexeme

/-! ### Words behind numbers -/

/-- The word that a text starts with, if any. -/
def leadOf (text : List Char) : List Char :=
  text.takeWhile mayContinueWord

/-- Whether a number may end in front of a word. -/
def mayFollowNumber : List Char → Bool
  | [] => true
  | 'i' :: c :: _ => c == 'f' || c == 'n' || c == 's'
  | word => ["and", "else", "for", "or", "not"].any fun other => word == other.toList

section Leads

variable {word text text' rest : List Char}

theorem leadOf_append (within : ∀ c ∈ word, mayContinueWord c = true)
    (ends : ∀ c ∈ rest.head?, mayContinueWord c = false) : leadOf (word ++ rest) = word := by
  rw [leadOf, List.takeWhile_append_of_pos within]
  cases rest with
  | nil => simp
  | cons c rest => simp [ends c rfl]

theorem leadOf_of_head (ends : ∀ c ∈ text.head?, mayContinueWord c = false) : leadOf text = [] :=
  leadOf_append (List.forall_mem_nil _) ends

theorem startsWithWord_iff (within : ∀ c ∈ word, mayContinueWord c = true) :
    startsWithWord word text = true ↔ leadOf text = word := by
  rw [startsWithWord, Bool.and_eq_true, beq_iff_eq]
  constructor
  · rintro ⟨here, ends⟩
    have whole := List.take_append_drop word.length text
    rw [here] at whole
    rw [← whole]
    refine leadOf_append within fun c head => ?_
    split at ends
    · next none =>
        rw [none] at head
        cases head
    · next d rest same =>
        rw [same] at head
        cases head
        simpa using ends
  · intro same
    have whole := List.takeWhile_append_dropWhile (p := mayContinueWord) (l := text)
    rw [← leadOf, same] at whole
    rw [← whole]
    refine ⟨List.take_left, ?_⟩
    rw [List.drop_left]
    split
    · rfl
    · next c rest same =>
        have stopped := List.head?_dropWhile_not mayContinueWord text
        rw [same] at stopped
        simpa using stopped

/-- Whether a number may end in front of a text depends on the word there. -/
theorem numberMayEnd_eq (text : List Char) : numberMayEnd text = mayFollowNumber (leadOf text) := by
  have words : (["and", "else", "for", "or", "not"].any fun word =>
      startsWithWord word.toList text) =
        ["and", "else", "for", "or", "not"].any fun other => leadOf text == other.toList := by
    rw [Bool.eq_iff_iff, List.any_eq_true, List.any_eq_true]
    refine exists_congr fun word => and_congr_right fun member => ?_
    rw [beq_iff_eq]
    refine startsWithWord_iff (forall_mem_of_all ?_)
    revert word
    decide
  cases text with
  | nil => rfl
  | cons c rest =>
      cases inWord : mayContinueWord c with
      | false =>
          have ends : ∀ d ∈ (c :: rest).head?, mayContinueWord d = false := by
            rintro _ ⟨⟩
            exact inWord
          rw [numberMayEnd_of_head ends, leadOf_of_head ends]
          rfl
      | true =>
          have lead : leadOf (c :: rest) = c :: leadOf rest := List.takeWhile_cons_of_pos inWord
          rw [lead] at words ⊢
          unfold numberMayEnd
          split
          · next d more same =>
              cases same
              cases goesOn : mayContinueWord d with
              | true =>
                  rw [leadOf, List.takeWhile_cons_of_pos goesOn]
                  rfl
              | false =>
                  rw [leadOf, List.takeWhile_cons_of_neg (by simp [goesOn])]
                  have none (letter : Char) (within : mayContinueWord letter = true) :
                      (d == letter) = false := by
                    rw [beq_eq_false_iff_ne]
                    rintro rfl
                    simp [within] at goesOn
                  rw [none 'f' (by decide), none 'n' (by decide), none 's' (by decide)]
                  rfl
          · next d more other same =>
              cases same
              rw [inWord, Bool.not_true, Bool.false_or, words]
              unfold mayFollowNumber
              split
              · next none => cases none
              · next e more same =>
                  obtain ⟨rfl, behind⟩ := List.cons.inj same
                  cases rest with
                  | nil => cases behind
                  | cons d rest => exact (other _ _ rfl rfl).elim
              · rfl
          · next same => cases same

/-- The words that may follow a number, by their first letters. -/
theorem head_of_numberMayEnd (ends : numberMayEnd rest = true) :
    ∀ c ∈ rest.head?, mayContinueWord c = false ∨ c ∈ ['a', 'e', 'f', 'i', 'n', 'o'] := by
  intro c head
  obtain ⟨more, rfl⟩ := List.head?_eq_some_iff.mp head
  rw [numberMayEnd_eq] at ends
  cases inWord : mayContinueWord c with
  | false => exact .inl rfl
  | true =>
      rw [leadOf, List.takeWhile_cons_of_pos inWord] at ends
      refine .inr ?_
      unfold mayFollowNumber at ends
      split at ends
      · next none => cases none
      · next same =>
          obtain ⟨rfl, -⟩ := List.cons.inj same
          decide
      · obtain ⟨word, member, same⟩ := List.any_eq_true.mp ends
        have all : ∀ word ∈ ["and", "else", "for", "or", "not"],
            ∀ c ∈ word.toList.head?, c ∈ ['a', 'e', 'f', 'i', 'n', 'o'] := by
          intro word member
          fin_cases member <;> rintro c ⟨⟩ <;> decide
        refine all word member c ?_
        rw [← beq_iff_eq.mp same]
        rfl

/-- Digits do not go on in front of a text. -/
def Parted (rest : List Char) : Prop :=
  ∀ c ∈ rest.head?, isAsciiDigit c = false ∧ c ≠ '_'

theorem parted_of_numberMayEnd (ends : numberMayEnd rest = true) : Parted rest := by
  intro c head
  rcases head_of_numberMayEnd ends c head with outside | first
  · constructor
    · cases digit : isAsciiDigit c with
      | false => rfl
      | true => simp [mayContinueWord, digit] at outside
    · rintro rfl
      cases outside
  · fin_cases first <;> decide

/-- No exponent begins where a number may end. -/
theorem exponent?_of_numberMayEnd (ends : numberMayEnd rest = true) :
    exponent? rest = some (none, rest) := by
  cases rest with
  | nil => rfl
  | cons c more =>
      by_cases letter : c = 'e' ∨ c = 'E'
      · obtain rfl : c = 'e' := by
          refine letter.resolve_right ?_
          rintro rfl
          exact absurd (head_of_numberMayEnd ends 'E' rfl) (by decide)
        -- Of the words that may follow a number, one begins with this letter.
        have lead : leadOf ('e' :: more) = 'e' :: leadOf more := List.takeWhile_cons_of_pos rfl
        rw [numberMayEnd_eq, lead] at ends
        have onward : leadOf more = "lse".toList := by
          simpa [mayFollowNumber] using ends
        cases more with
        | nil => cases onward
        | cons d more =>
            rw [leadOf, List.takeWhile_cons] at onward
            split at onward
            · obtain ⟨rfl, -⟩ := List.cons.inj onward
              rfl
            · cases onward
      · simp only [exponent?, if_neg letter]

end Leads

/-! ### Runs of digits -/

section Runs

variable {p : Char → Bool} {text rest : List Char}

/-- A run of digits may be read again in front of another text. -/
theorem digitRun_again (plain : p '_' = false) (text rest : List Char) :
    digitRun p ((digitRun p text).1 ++ rest) =
      ((digitRun p text).1 ++ (digitRun p rest).1, (digitRun p rest).2) := by
  fun_induction digitRun p text with
  | case1 c text digit ih =>
      rw [List.cons_append, List.cons_append, digitRun, if_pos digit, ih]
      rfl
  | case2 c text other => rfl
  | case3 c text _ digit ih =>
      have noMark : c ≠ '_' := by
        rintro rfl
        simp [plain] at digit
      rw [List.cons_append, digitRun, if_pos digit, ih]
      · rfl
      · rintro _ _ rfl
        exact absurd rfl noMark
  | case4 => rfl
  | case5 => rfl

theorem digitRun_of_head (ends : ∀ c ∈ rest.head?, p c = false ∧ c ≠ '_') :
    digitRun p rest = ([], rest) := by
  cases rest with
  | nil => rfl
  | cons c rest =>
      obtain ⟨noDigit, noMark⟩ := ends c rfl
      rw [digitRun, if_neg (by simp [noDigit])]
      rintro _ _ rfl
      exact absurd rfl noMark

/-- Behind a run of digits no digit follows. -/
theorem head_behind_digitRun (plain : p '_' = false) (text : List Char) :
    ∀ c ∈ (digitRun p text).2.head?, p c = false := by
  intro c head
  obtain ⟨more, left⟩ := List.head?_eq_some_iff.mp head
  have again := digitRun_again plain text (digitRun p text).2
  rw [digitRun_append] at again
  have none : (digitRun p (digitRun p text).2).1 = [] := by
    simpa using (congrArg Prod.fst again).symm
  rw [left] at none
  cases digit : p c with
  | false => rfl
  | true =>
      rw [digitRun, if_pos digit] at none
      · cases none
      · rintro _ _ rfl
        simp [plain] at digit

theorem decimalRun_cons {c : Char} (digit : isAsciiDigit c = true) (text : List Char) :
    ∃ others, (decimalRun (c :: text)).1 = c :: others := by
  have starts : decimalRun (c :: text) = digitRun isAsciiDigit (c :: text) := if_pos digit
  rw [starts, digitRun, if_pos digit]
  · exact ⟨_, rfl⟩
  · rintro _ _ rfl
    cases digit

theorem decimalRun_again (text : List Char) (ends : Parted rest) :
    decimalRun ((decimalRun text).1 ++ rest) = ((decimalRun text).1, rest) := by
  have none : decimalRun rest = ([], rest) := by
    cases rest with
    | nil => rfl
    | cons c rest => exact if_neg (by simp [(ends c rfl).1])
  cases text with
  | nil => exact none
  | cons c text =>
      cases digit : isAsciiDigit c with
      | false =>
          have stops : decimalRun (c :: text) = ([], c :: text) := if_neg (by simp [digit])
          rw [stops]
          exact none
      | true =>
          have starts (more : List Char) :
              decimalRun (c :: more) = digitRun isAsciiDigit (c :: more) := if_pos digit
          have again := digitRun_again (p := isAsciiDigit) rfl (c :: text) rest
          rw [digitRun_of_head ends, List.append_nil] at again
          obtain ⟨others, whole⟩ := decimalRun_cons digit text
          rw [starts] at whole
          rw [starts, whole, List.cons_append, starts, ← List.cons_append, ← whole, again]

/-- An exponent may be read again in front of another text. -/
theorem exponent?_again {power : Option Int} (read : exponent? text = some (power, rest)) :
    ∃ shown, text = shown ++ rest ∧ (∀ c ∈ shown.head?, c = 'e' ∨ c = 'E') ∧
      (power = none ↔ shown = []) ∧
      ∀ rest', Parted rest' → (power = none → exponent? rest' = some (none, rest')) →
        exponent? (shown ++ rest') = some (power, rest') := by
  have nothing : ∃ shown, text = shown ++ text ∧ (∀ c ∈ shown.head?, c = 'e' ∨ c = 'E') ∧
      ((none : Option Int) = none ↔ shown = []) ∧
      ∀ rest', Parted rest' → ((none : Option Int) = none → exponent? rest' = some (none, rest')) →
        exponent? (shown ++ rest') = some (none, rest') :=
    ⟨[], rfl, nofun, by simp, fun _ _ onward => onward rfl⟩
  unfold exponent? at read
  split at read
  · next c behind =>
      split at read
      · next letter =>
          split at read
          · next digits =>
              have whole := decimalRun_append digits
              split at read
              · cases read
              · next shown left filled same =>
                  cases read
                  rw [same] at whole
                  refine ⟨c :: '-' :: shown, by rw [← whole]; rfl, ?_, by simp, ?_⟩
                  · rintro _ ⟨⟩
                    exact letter
                  · intro rest' parted _
                    have again := decimalRun_again digits parted
                    rw [same] at again
                    simp only [exponent?, if_pos letter, List.cons_append, again]
          · next digits =>
              have whole := decimalRun_append digits
              split at read
              · cases read
              · next shown left filled same =>
                  cases read
                  rw [same] at whole
                  refine ⟨c :: '+' :: shown, by rw [← whole]; rfl, ?_, by simp, ?_⟩
                  · rintro _ ⟨⟩
                    exact letter
                  · intro rest' parted _
                    have again := decimalRun_again digits parted
                    rw [same] at again
                    simp only [exponent?, if_pos letter, List.cons_append, again]
          · next noMinus noPlus =>
              have whole := decimalRun_append behind
              split at read
              · cases read
                exact nothing
              · next shown left filled same =>
                  cases read
                  rw [same] at whole
                  refine ⟨c :: shown, by rw [← whole]; rfl, ?_, by simp, ?_⟩
                  · rintro _ ⟨⟩
                    exact letter
                  · intro rest' parted _
                    have again := decimalRun_again behind parted
                    have digits := decimalRun_all behind
                    rw [same] at again digits
                    obtain ⟨d, others, rfl⟩ := List.exists_cons_of_ne_nil filled
                    have noSign (sign : Char) (isSign : isAsciiDigit sign = false ∧ sign ≠ '_')
                        (more : List Char) : d :: others ++ rest' ≠ sign :: more := by
                      intro starts
                      obtain ⟨rfl, -⟩ := List.cons.inj starts
                      rcases digits d List.mem_cons_self with digit | mark
                      · rw [isSign.1] at digit
                        cases digit
                      · exact isSign.2 mark
                    change decimalRun (d :: (others ++ rest')) = (d :: others, rest') at again
                    simp only [exponent?, if_pos letter, List.cons_append]
                    split
                    · next starts => exact (noSign '-' (by decide) _ starts).elim
                    · next starts => exact (noSign '+' (by decide) _ starts).elim
                    · rw [again]
      · cases read
        exact nothing
  · cases read
    exact nothing

theorem ended_of_numberMayEnd (value : Constant) (ends : numberMayEnd rest = true) :
    ended value rest = some (value, rest) :=
  if_pos ends

theorem ended_eq {given value : Constant} (read : ended given text = some (value, rest)) :
    text = rest ∧ value = given ∧ numberMayEnd rest = true := by
  unfold ended at read
  split at read
  · next ends =>
      cases read
      exact ⟨rfl, rfl, ends⟩
  · cases read

theorem unmarked_of_numberMayEnd (ends : numberMayEnd rest = true) :
    (∀ more, rest ≠ 'j' :: more) ∧ ∀ more, rest ≠ 'J' :: more := by
  constructor <;> rintro more rfl <;>
    exact absurd (head_of_numberMayEnd ends _ rfl) (by decide)

/-- What follows the digits of a number may be read again in front of another text. -/
theorem numberFrom?_again {whole : List Char} {fraction : Option (List Char)} {value : Constant}
    (read : numberFrom? whole fraction text = some (value, rest)) :
    ∃ shown, text = shown ++ rest ∧ numberMayEnd rest = true ∧
      (∀ c ∈ shown.head?, c ∈ ['e', 'E', 'j', 'J']) ∧
      ((∃ digits, value = .int digits) ↔ shown = [] ∧ fraction = none) ∧
      ∀ rest', numberMayEnd rest' = true →
        numberFrom? whole fraction (shown ++ rest') = some (value, rest') := by
  unfold numberFrom? at read
  split at read
  · cases read
  · next power behind scaled =>
      obtain ⟨shown, rfl, letter, plain, again⟩ := exponent?_again scaled
      simp only [] at read
      have imaginary (mark : Char) (isMark : mark = 'j' ∨ mark = 'J') (after : List Char)
          (left : behind = mark :: after)
          (read : ended (.imaginary (doubleOf whole (fraction.getD []) (power.getD 0))) after =
            some (value, rest)) :
          ∃ shown', shown ++ behind = shown' ++ rest ∧ numberMayEnd rest = true ∧
            (∀ c ∈ shown'.head?, c ∈ ['e', 'E', 'j', 'J']) ∧
            ((∃ digits, value = .int digits) ↔ shown' = [] ∧ fraction = none) ∧
            ∀ rest', numberMayEnd rest' = true →
              numberFrom? whole fraction (shown' ++ rest') = some (value, rest') := by
        obtain ⟨rfl, rfl, ends⟩ := ended_eq read
        refine ⟨shown ++ [mark], by simp [left], ends, ?_, by simp, ?_⟩
        · intro c head
          cases shown with
          | nil =>
              cases head
              rcases isMark with rfl | rfl <;> decide
          | cons d others => rcases letter c head with rfl | rfl <;> decide
        · intro rest' ends'
          have parted : Parted (mark :: rest') := by
            rintro _ ⟨⟩
            rcases isMark with rfl | rfl <;> decide
          have noPower : exponent? (mark :: rest') = some (none, mark :: rest') := by
            rcases isMark with rfl | rfl <;> rfl
          have onward := again (mark :: rest') parted fun _ => noPower
          rw [List.append_assoc, List.singleton_append, numberFrom?, onward]
          rcases isMark with rfl | rfl <;> exact ended_of_numberMayEnd _ ends'
      split at read
      · exact imaginary 'j' (.inl rfl) _ rfl read
      · exact imaginary 'J' (.inr rfl) _ rfl read
      · have among : ∀ c ∈ shown.head?, c ∈ ['e', 'E', 'j', 'J'] := fun c head => by
          rcases letter c head with rfl | rfl <;> decide
        have onward (rest' : List Char) (ends' : numberMayEnd rest' = true) :
            exponent? (shown ++ rest') = some (power, rest') :=
          again rest' (parted_of_numberMayEnd ends') fun _ => exponent?_of_numberMayEnd ends'
        split at read
        · next isPlain =>
            split at read
            · cases read
            · next plainZero =>
                split at read
                · cases read
                · next notLong =>
                    obtain ⟨rfl, rfl, ends⟩ := ended_eq read
                    simp only [Bool.and_eq_true, Option.isNone_iff_eq_none] at isPlain
                    refine ⟨shown, rfl, ends, among,
                      ⟨fun _ => ⟨plain.mp isPlain.2, isPlain.1⟩, fun _ => ⟨_, rfl⟩⟩, ?_⟩
                    intro rest' ends'
                    obtain ⟨noSmall, noCapital⟩ := unmarked_of_numberMayEnd ends'
                    simp only [numberFrom?, onward rest' ends', isPlain, Option.isNone_none,
                      Bool.and_self, if_true, if_neg plainZero, if_neg notLong]
                    exact ended_of_numberMayEnd _ ends'
        · next isScaled =>
            obtain ⟨rfl, rfl, ends⟩ := ended_eq read
            refine ⟨shown, rfl, ends, among, ⟨nofun, ?_⟩, ?_⟩
            · rintro ⟨none, unpointed⟩
              rw [plain.mpr none, unpointed] at isScaled
              exact absurd rfl isScaled
            · intro rest' ends'
              obtain ⟨noSmall, noCapital⟩ := unmarked_of_numberMayEnd ends'
              simp only [numberFrom?, onward rest' ends', if_neg isScaled]
              exact ended_of_numberMayEnd _ ends'

/-! ### Numbers -/

/-- An integer in a base may be read again in front of a text that no digit begins. -/
theorem basedInteger?_again {base : Nat} {value : Constant} (plain : p '_' = false)
    (read : basedInteger? base p text = some (value, rest)) :
    ∃ shown, text = shown ++ rest ∧ numberMayEnd rest = true ∧ (∃ digits, value = .int digits) ∧
      (∀ c ∈ shown, p c = true ∨ c = '_') ∧ (∀ c ∈ rest.head?, p c = false) ∧ 
      ∀ rest', numberMayEnd rest' = true → (∀ c ∈ rest'.head?, p c = false) →
        basedInteger? base p (shown ++ rest') = some (value, rest') := by
  have whole := digitRun_append p text
  have all := digitRun_all p text
  have again := digitRun_again (p := p) plain text
  unfold basedInteger? at read
  split at read
  · cases read
  · next shown left filled same =>
      rw [same] at whole all again
      have ends := head_behind_digitRun plain text
      rw [same] at ends
      have found : left = rest ∧ numberMayEnd rest = true ∧ value = .int ((digitsOnly shown).foldl
          (fun value c => value * base + (hexDigitValue? c).getD 0) 0) := by
        simp only [] at read
        split at read
        · split at read
          · cases read
          · obtain ⟨rfl, rfl, ends⟩ := ended_eq read
            exact ⟨rfl, ends, rfl⟩
        · cases read
          exact ⟨rfl, rfl, rfl⟩
      obtain ⟨rfl, ends', rfl⟩ := found
      refine ⟨shown, whole.symm, ends', ⟨_, rfl⟩, all, ends, ?_⟩
      intro rest' free noDigit
      have parted := parted_of_numberMayEnd free
      have stops := digitRun_of_head fun c head => ⟨noDigit c head, (parted c head).2⟩
      have onward := again rest'
      rw [stops, List.append_nil] at onward
      obtain ⟨d, others, rfl⟩ := List.exists_cons_of_ne_nil filled
      change digitRun p (d :: others ++ rest') = (d :: others, rest') at onward
      simp only [basedInteger?, onward]
      cases rest' with
      | nil => rfl
      | cons c more =>
          simp only [(parted c rfl).1]
          exact ended_of_numberMayEnd _ free

/-- What decides whether a number is read alike in front of another text.  An integer could go on
where a fraction begins, or in the letters of a word. -/
structure Continues (value : Constant) (rest rest' : List Char) : Prop where
  ends : numberMayEnd rest' = true
  apart : ∀ digits, value = .int digits → (∀ c ∈ rest'.head?, c ≠ '.') ∧
    (leadOf rest' = [] ∨ leadOf rest' = leadOf rest)

/-- A text whose number, if it starts with one, is written in base ten. -/
def Unbased (text : List Char) : Prop :=
  ∀ mark more, text = '0' :: mark :: more → mark ∉ ['x', 'X', 'o', 'O', 'b', 'B']

theorem number?_of_point {whole behind : List Char} (unbased : Unbased text)
    (run : decimalRun text = (whole, '.' :: behind)) :
    number? text = numberFrom? whole (some (decimalRun behind).1) (decimalRun behind).2 := by
  unfold number?
  simp only [run]
  split
  · next mark more =>
      have other := unbased mark more rfl
      simp only [List.mem_cons, List.not_mem_nil, or_false, not_or] at other
      rw [if_neg (by simp [other]), if_neg (by simp [other]), if_neg (by simp [other])]
  · rfl

theorem number?_of_noPoint {whole left : List Char} (unbased : Unbased text)
    (run : decimalRun text = (whole, left)) (noPoint : ∀ c ∈ left.head?, c ≠ '.') :
    number? text = numberFrom? whole none left := by
  have plain : ∀ behind, left = '.' :: behind → False := by
    rintro behind rfl
    exact noPoint '.' rfl rfl
  unfold number?
  simp only [run]
  split
  · next mark more =>
      have other := unbased mark more rfl
      simp only [List.mem_cons, List.not_mem_nil, or_false, not_or] at other
      rw [if_neg (by simp [other]), if_neg (by simp [other]), if_neg (by simp [other])]
  · rfl

theorem mayContinueWord_of_digit {c : Char} (digit : isAsciiDigit c = true ∨ c = '_') :
    mayContinueWord c = true := by
  rcases digit with digit | rfl
  · simp [mayContinueWord, digit]
  · rfl

theorem mayContinueWord_of_hexDigit {c : Char} (digit : isHexDigit c = true) :
    mayContinueWord c = true :=
  of_ascii (fun c => isHexDigit c = true → mayContinueWord c = true) (by decide)
    (isAscii_of_hexDigit digit) digit

/-- What a word behind an integer starts with stood behind it before. -/
theorem Continues.head {digits : Nat} (continues : Continues (.int digits) rest rest') :
    ∀ c ∈ rest'.head?, mayContinueWord c = true → c ∈ rest.head? := by
  intro c head inWord
  obtain ⟨more, rfl⟩ := List.head?_eq_some_iff.mp head
  have lead : leadOf (c :: more) = c :: leadOf more := List.takeWhile_cons_of_pos inWord
  rcases (continues.apart digits rfl).2 with none | same
  · rw [lead] at none
    cases none
  · rw [lead] at same
    cases rest with
    | nil => cases same
    | cons d rest =>
        cases goesOn : mayContinueWord d with
        | false => simp [leadOf, goesOn] at same
        | true =>
            simp only [leadOf, List.takeWhile_cons_of_pos goesOn] at same
            obtain ⟨rfl, -⟩ := List.cons.inj same
            rfl

/-- A number in base ten may be read again in front of another text. -/
theorem unbased_again {value : Constant} (unbased : Unbased text)
    (starts : ∃ c ∈ text.head?, isAsciiDigit c = true ∨ c = '.')
    (read : number? text = some (value, rest)) :
    ∃ shown, text = shown ++ rest ∧ shown ≠ [] ∧ numberMayEnd rest = true ∧
      (∀ digits, value = .int digits → ∀ c ∈ shown, mayContinueWord c = true) ∧
      ∀ rest', Continues value rest rest' → number? (shown ++ rest') = some (value, rest') := by
  have whole := decimalRun_append text
  have all := decimalRun_all text
  obtain ⟨run, left, same⟩ : ∃ run left, decimalRun text = (run, left) := ⟨_, _, rfl⟩
  rw [same] at whole all
  have partedBehind {shown rest' : List Char} (ends : numberMayEnd rest' = true)
      (letter : ∀ c ∈ shown.head?, c ∈ ['e', 'E', 'j', 'J']) : Parted (shown ++ rest') := by
    cases shown with
    | nil => exact parted_of_numberMayEnd ends
    | cons d others =>
        rintro _ ⟨⟩
        have among := letter d rfl
        fin_cases among <;> decide
  have unbasedAgain (shown rest' : List Char) (other : text = shown ++ rest)
      (single : shown = ['0'] → ∀ d ∈ rest'.head?, mayContinueWord d = true → d ∈ rest.head?)
      (filled : shown ≠ []) : Unbased (shown ++ rest') := by
    intro mark more starts inBase
    obtain ⟨c, others, rfl⟩ := List.exists_cons_of_ne_nil filled
    obtain ⟨rfl, behind⟩ := List.cons.inj starts
    cases others with
    | cons d others =>
        obtain ⟨rfl, -⟩ := List.cons.inj behind
        exact unbased d (others ++ rest) other inBase
    | nil =>
        have inWord : mayContinueWord mark = true := by
          fin_cases inBase <;> decide
        have here := single rfl mark (congrArg List.head? behind) inWord
        obtain ⟨tail, rfl⟩ := List.head?_eq_some_iff.mp here
        exact unbased mark tail other inBase
  by_cases point : left.head? = some '.'
  · -- With a point, its fraction stands between the two.
    obtain ⟨behind, rfl⟩ := List.head?_eq_some_iff.mp point
    rw [number?_of_point unbased same] at read
    have fraction := decimalRun_append behind
    obtain ⟨shown, left, ends, letter, isInt, again⟩ := numberFrom?_again read
    rw [left] at fraction
    refine ⟨run ++ '.' :: ((decimalRun behind).1 ++ shown), ?_, by simp, ends, ?_, ?_⟩
    · rw [← whole]
      simp [fraction]
    · intro digits int
      cases (isInt.mp ⟨digits, int⟩).2
    · intro rest' continues
      have digits := decimalRun_again behind (partedBehind continues.ends letter)
      have pointParted : Parted ('.' :: ((decimalRun behind).1 ++ (shown ++ rest'))) := by
        rintro _ ⟨⟩
        decide
      have front := decimalRun_again text pointParted
      rw [same] at front
      have single : run ++ '.' :: ((decimalRun behind).1 ++ shown) ≠ ['0'] := by
        intro alone
        rcases List.append_eq_singleton_iff.mp alone with ⟨-, point⟩ | ⟨-, none⟩
        · cases point
        · cases none
      have unbased' := unbasedAgain _ rest' (by rw [← whole]; simp [fraction])
        (absurd · single) (by simp)
      simp only [List.append_assoc, List.cons_append] at unbased' ⊢
      rw [number?_of_point unbased' front, digits]
      exact again rest' continues.ends
  · -- Without a point, the number is its digits and an exponent or a mark.
    have noPoint : ∀ c ∈ left.head?, c ≠ '.' := by
      rintro _ head rfl
      exact point head
    rw [number?_of_noPoint unbased same noPoint] at read
    obtain ⟨shown, rfl, ends, letter, isInt, again⟩ := numberFrom?_again read
    have filled : run ≠ [] := by
      rintro rfl
      obtain ⟨c, head, digit | isPoint⟩ := starts
      · obtain ⟨more, rfl⟩ := List.head?_eq_some_iff.mp head
        obtain ⟨others, first⟩ := decimalRun_cons digit more
        rw [same] at first
        cases first
      · rw [← whole] at head
        exact noPoint c head isPoint
    refine ⟨run ++ shown, by rw [← whole, List.append_assoc], by simp [filled], ends, ?_, ?_⟩
    · intro digits int c member
      rw [(isInt.mp ⟨digits, int⟩).1, List.append_nil] at member
      exact mayContinueWord_of_digit (all c member)
    · intro rest' continues
      have digits := decimalRun_again text (partedBehind continues.ends letter)
      rw [same] at digits
      have noPoint' : ∀ c ∈ (shown ++ rest').head?, c ≠ '.' := by
        cases shown with
        | nil =>
            obtain ⟨digits, rfl⟩ := isInt.mpr ⟨rfl, rfl⟩
            exact (continues.apart digits rfl).1
        | cons d others =>
            rintro _ ⟨⟩
            have among := letter d rfl
            fin_cases among <;> decide
      have single : run ++ shown = ['0'] →
          ∀ d ∈ rest'.head?, mayContinueWord d = true → d ∈ rest.head? := by
        intro alone
        obtain ⟨d, others, rfl⟩ := List.exists_cons_of_ne_nil filled
        have none : shown = [] := (List.append_eq_nil_iff.mp (List.cons.inj alone).2).2
        obtain ⟨digits, rfl⟩ := isInt.mpr ⟨none, rfl⟩
        exact continues.head
      have unbased' :=
        unbasedAgain _ rest' (by rw [← whole, List.append_assoc]) single (by simp [filled])
      rw [List.append_assoc] at unbased' ⊢
      rw [number?_of_noPoint unbased' digits noPoint']
      exact again rest' continues.ends

/-- A number may be read again in front of another text. -/
theorem number?_again {value : Constant}
    (starts : ∃ c ∈ text.head?, isAsciiDigit c = true ∨ c = '.')
    (read : number? text = some (value, rest)) :
    ∃ shown, text = shown ++ rest ∧ shown ≠ [] ∧ numberMayEnd rest = true ∧
      (∀ digits, value = .int digits → ∀ c ∈ shown, mayContinueWord c = true) ∧
      ∀ rest', Continues value rest rest' → number? (shown ++ rest') = some (value, rest') := by
  by_cases unbased : Unbased text
  · exact unbased_again unbased starts read
  · simp only [Unbased, not_forall, not_not] at unbased
    obtain ⟨mark, more, rfl, inBase⟩ := unbased
    have based (base : Nat) (p : Char → Bool) (plain : p '_' = false)
        (digit : ∀ c, p c = true → isHexDigit c = true)
        (branch : ∀ more, number? ('0' :: mark :: more) = basedInteger? base p more) :
        ∃ shown, '0' :: mark :: more = shown ++ rest ∧ shown ≠ [] ∧ numberMayEnd rest = true ∧
          (∀ digits, value = .int digits → ∀ c ∈ shown, mayContinueWord c = true) ∧
          ∀ rest', Continues value rest rest' → number? (shown ++ rest') = some (value, rest') := by
      rw [branch] at read
      obtain ⟨shown, rfl, ends, ⟨digits, rfl⟩, all, noDigit, again⟩ := basedInteger?_again plain read
      refine ⟨'0' :: mark :: shown, rfl, List.cons_ne_nil _ _, ends, ?_, ?_⟩
      · intro _ _ c member
        rcases List.mem_cons.mp member with rfl | member
        · rfl
        · rcases List.mem_cons.mp member with rfl | member
          · fin_cases inBase <;> decide
          · rcases all c member with within | rfl
            · exact mayContinueWord_of_hexDigit (digit c within)
            · rfl
      · intro rest' continues
        refine (branch _).trans (again rest' continues.ends fun c head => ?_)
        cases within : p c with
        | false => rfl
        | true =>
            have before := continues.head c head (mayContinueWord_of_hexDigit (digit c within))
            exact within.symm.trans (noDigit c before)
    have octal (c : Char) (within : Literal.isOctal c = true) : isHexDigit c = true := by
      rw [Literal.isOctal, Bool.and_eq_true, decide_eq_true_eq, decide_eq_true_eq] at within
      exact of_ascii (fun c => '0' ≤ c ∧ c ≤ '7' → isHexDigit c = true) (by decide)
        (isAscii_of_le within.2 rfl) within
    have binary (c : Char) (within : (c == '0' || c == '1') = true) : isHexDigit c = true := by
      rw [Bool.or_eq_true, beq_iff_eq, beq_iff_eq] at within
      rcases within with rfl | rfl <;> rfl
    fin_cases inBase
    · exact based 16 isHexDigit rfl (fun _ => id) fun _ => rfl
    · exact based 16 isHexDigit rfl (fun _ => id) fun _ => rfl
    · exact based 8 Literal.isOctal rfl octal fun _ => rfl
    · exact based 8 Literal.isOctal rfl octal fun _ => rfl
    · exact based 2 _ rfl binary fun _ => rfl
    · exact based 2 _ rfl binary fun _ => rfl

end Runs
end Token
end Snippet
end AnswerKey
