import AnswerKey.Proofs.Construct.Scan
import AnswerKey.Snippet.Lexeme

namespace AnswerKey
namespace Snippet
namespace Lexeme

/-!
Numbers in an outline.

A number is read off the head of a text in pieces: runs of digits, a point, an exponent, the mark of
a base or of an imaginary number.  An outline cuts it differently, since a letter in it begins a
word for an outline, but no such word is the mark of a literal, so that the number is kept as it is
(`passes_number?`).
-/

open Text Construct

/-! ### Runs of digits -/

section Run

variable (p : Char → Bool) (text : List Char)

/-- A run and what follows it are the text. -/
theorem digitRun_append : (digitRun p text).1 ++ (digitRun p text).2 = text := by
  fun_induction digitRun p text <;> simp_all

/-- A run holds digits of its class and underscores. -/
theorem digitRun_all : ∀ c ∈ (digitRun p text).1, p c = true ∨ c = '_' := by
  fun_induction digitRun p text <;> simp_all

theorem decimalRun_append : (decimalRun text).1 ++ (decimalRun text).2 = text := by
  unfold decimalRun
  split
  · split
    · exact digitRun_append _ _
    · rfl
  · rfl

theorem decimalRun_all : ∀ c ∈ (decimalRun text).1, isAsciiDigit c = true ∨ c = '_' := by
  unfold decimalRun
  split
  · split
    · exact digitRun_all _ _
    · exact List.forall_mem_nil _
  · exact List.forall_mem_nil _

end Run

/-! ### Pieces of numbers -/

section Pieces

variable {run : List Char}

/-- An underscore begins a word that is no mark. -/
theorem passes_underscore : Passes ['_'] :=
  .word (forall_mem_of_all (by decide)) (by decide) (List.forall_mem_nil _)
    ⟨'_', List.mem_cons_self, by decide⟩

theorem passes_digits (all : ∀ c ∈ run, isAsciiDigit c = true ∨ c = '_') : Passes run := by
  induction run with
  | nil => exact .nil
  | cons c run ih =>
      have others := ih fun other member => all other (List.mem_cons_of_mem c member)
      have head : Passes [c] := by
        rcases all c List.mem_cons_self with digit | rfl
        · exact .digit digit
        · exact passes_underscore
      exact head.append others

theorem passes_decimalRun (text : List Char) : Passes (decimalRun text).1 :=
  passes_digits (decimalRun_all text)

/-- The letter of an exponent or of an imaginary number begins a word that is no mark. -/
theorem passes_letter {c : Char} (letter : c = 'e' ∨ c = 'E' ∨ c = 'j' ∨ c = 'J') : Passes [c] := by
  rcases letter with rfl | rfl | rfl | rfl <;>
    exact .word (forall_mem_of_all (by decide)) (by decide) (List.forall_mem_nil _)
      ⟨_, List.mem_cons_self, by decide⟩

end Pieces

/-! ### Exponents and imaginary numbers -/

/-- An exponent and what follows it are the text. -/
theorem exponentRun_spec (text : List Char) :
    (exponentRun text).1 ++ (exponentRun text).2 = text ∧ Passes (exponentRun text).1 := by
  unfold exponentRun
  split
  · next c rest =>
      split
      · next letter =>
          have head : Passes [c] := passes_letter (letter.imp_right .inl)
          split
          next sign digits signed =>
            have whole : sign ++ digits = rest ∧ Passes sign := by
              split at signed
              · cases signed
                exact ⟨rfl, .inert (by decide)⟩
              · cases signed
                exact ⟨rfl, .inert (by decide)⟩
              · cases signed
                exact ⟨rfl, .nil⟩
            have run := decimalRun_append digits
            have kept := passes_decimalRun digits
            split
            · exact ⟨rfl, .nil⟩
            · next shown behind filled equal =>
                rw [equal] at run kept
                refine ⟨?_, (head.append whole.2).append kept⟩
                rw [← whole.1, ← run]
                simp
      · exact ⟨rfl, .nil⟩
  · exact ⟨rfl, .nil⟩

theorem withImaginary_spec {number : List Char} (rest : List Char) (passes : Passes number) :
    (withImaginary number rest).1 ++ (withImaginary number rest).2 = number ++ rest ∧
      Passes (withImaginary number rest).1 ∧
      (number ≠ [] → (withImaginary number rest).1 ≠ []) := by
  unfold withImaginary
  split
  · next c behind =>
      split
      · next letter =>
          exact ⟨by simp, passes.append (passes_letter (.inr (.inr letter))), by simp⟩
      · exact ⟨rfl, passes, id⟩
  · exact ⟨rfl, passes, id⟩

/-- What may follow the digits of a number: an exponent, and the mark of an imaginary number. -/
theorem scaled_spec {front : List Char} (behind : List Char) (passes : Passes front)
    (filled : front ≠ []) {digits rest : List Char}
    (found : withImaginary (front ++ (exponentRun behind).1) (exponentRun behind).2 =
      (digits, rest)) :
    digits ++ rest = front ++ behind ∧ digits ≠ [] ∧ Passes digits := by
  rcases exponentRun_spec behind with ⟨whole, power⟩
  rcases withImaginary_spec (exponentRun behind).2 (passes.append power) with ⟨text, kept, long⟩
  rw [found] at text kept long
  rw [List.append_assoc, whole] at text
  exact ⟨text, long (List.append_ne_nil_of_left_ne_nil filled _), kept⟩

/-! ### Integers -/

theorem isAscii_of_hexDigit {c : Char} (digit : isHexDigit c = true) : isAscii c = true := by
  unfold isHexDigit hexDigitValue? at digit
  split at digit
  · next range => exact isAscii_of_le range.2 rfl
  · split at digit
    · next range => exact isAscii_of_le range.2 rfl
    · split at digit
      · next range => exact isAscii_of_le range.2 rfl
      · cases digit

theorem isWordCharacter_of_hexDigit {c : Char} (digit : isHexDigit c = true) :
    isWordCharacter c = true :=
  of_ascii (fun c => isHexDigit c = true → isWordCharacter c = true) (by decide)
    (isAscii_of_hexDigit digit) digit

/-- An integer behind the letter of its base.  The letter begins a word that is no mark of a
literal; a small or capital b is told from one by the digit that follows it. -/
theorem passes_based {letter : Char} {run : List Char}
    (base : letter ∈ ['x', 'X', 'b', 'B', 'o', 'O'])
    (all : ∀ c ∈ run, isHexDigit c = true ∨ c = '_')
    (binary : letter = 'b' ∨ letter = 'B' → ∀ c ∈ run, isAsciiDigit c = true ∨ c = '_')
    (filled : run ≠ []) : Passes ('0' :: letter :: run) := by
  have within : ∀ c ∈ run, isAscii c = true ∧ isWordCharacter c = true := by
    intro c member
    rcases all c member with digit | rfl
    · exact ⟨isAscii_of_hexDigit digit, isWordCharacter_of_hexDigit digit⟩
    · exact ⟨rfl, rfl⟩
  have letters : ∀ letter ∈ ['x', 'X', 'b', 'B', 'o', 'O'], isAscii letter = true ∧
      startsWord letter = true ∧
        (letter = 'b' ∨ letter = 'B' ∨ lowerChar letter ∉ markLetters) :=
    forall_mem_of_all (by decide)
  rcases letters letter base with ⟨ascii, starts, kind⟩
  have foreign : ∃ c ∈ letter :: run, lowerChar c ∉ markLetters := by
    rw [← or_assoc] at kind
    rcases kind with isB | other
    · rcases List.exists_mem_of_ne_nil run filled with ⟨c, member⟩
      refine ⟨c, List.mem_cons_of_mem letter member, ?_⟩
      rcases binary isB c member with digit | rfl
      · exact of_ascii (fun c => isAsciiDigit c = true → lowerChar c ∉ markLetters) (by decide)
          (isAscii_of_digit digit) digit
      · decide
    · exact ⟨letter, List.mem_cons_self, other⟩
  have zero : Passes ['0'] := .digit rfl
  refine zero.append (.word ?_ starts (fun c member => (within c member).2) foreign)
  rintro c (_ | ⟨_, member⟩)
  · exact ascii
  · exact (within c member).1

/-- An integer without the letter of a base: a run of zeros, or of decimal digits. -/
theorem plainRun_spec (text : List Char) :
    let plain := match text with
      | '0' :: _ => digitRun (· == '0') text
      | _ => decimalRun text
    plain.1 ++ plain.2 = text ∧ Passes plain.1 ∧ ((decimalRun text).1 ≠ [] → plain.1 ≠ []) := by
  simp only []
  split
  · next rest =>
      refine ⟨digitRun_append _ _, passes_digits fun c member => ?_, fun _ => ?_⟩
      · rcases digitRun_all _ _ c member with zero | underscore
        · exact .inl (beq_iff_eq.mp zero ▸ rfl)
        · exact .inr underscore
      · simp [digitRun]
  · exact ⟨decimalRun_append text, passes_decimalRun text, id⟩

/-- The digits behind the letter of a base, or the zeros alone when there are none. -/
def basedRun (p : Char → Bool) (letter : Char) (rest : List Char) : List Char × List Char :=
  match digitRun p rest with
  | ([], _) => digitRun (· == '0') ('0' :: letter :: rest)
  | (digits, behind) => ('0' :: letter :: digits, behind)

theorem basedRun_spec {p : Char → Bool} {letter : Char} (rest : List Char)
    (base : letter ∈ ['x', 'X', 'b', 'B', 'o', 'O'])
    (digits : ∀ c, p c = true → isHexDigit c = true)
    (binary : letter = 'b' ∨ letter = 'B' → ∀ c, p c = true → isAsciiDigit c = true) :
    (basedRun p letter rest).1 ++ (basedRun p letter rest).2 = '0' :: letter :: rest ∧
      Passes (basedRun p letter rest).1 ∧
      ((decimalRun ('0' :: letter :: rest)).1 ≠ [] → (basedRun p letter rest).1 ≠ []) := by
  have run := digitRun_append p rest
  have all := digitRun_all p rest
  rw [basedRun]
  split
  · exact plainRun_spec ('0' :: letter :: rest)
  · next shown behind filled equal =>
      rw [equal] at run all
      refine ⟨?_, passes_based base (fun c member => ?_) (fun isB c member => ?_) filled,
        fun _ => List.cons_ne_nil _ _⟩
      · rw [← run]
        rfl
      · exact (all c member).imp_left (digits c)
      · exact (all c member).imp_left (binary isB c)

theorem integerRun_spec (text : List Char) :
    (integerRun text).1 ++ (integerRun text).2 = text ∧ Passes (integerRun text).1 ∧
      ((decimalRun text).1 ≠ [] → (integerRun text).1 ≠ []) := by
  have plain := plainRun_spec text
  unfold integerRun
  simp only [] at plain ⊢
  split
  · next letter rest =>
      split
      · next hex =>
          refine basedRun_spec rest ?_ (fun _ => id) ?_
          · rcases hex with rfl | rfl <;> decide
          · rcases hex with rfl | rfl <;> exact fun isB => absurd isB (by decide)
      · split
        · next isB =>
            have few : ∀ c, (c == '0' || c == '1') = true → c = '0' ∨ c = '1' := by
              intro c bit
              simpa using bit
            refine basedRun_spec rest ?_ (fun c bit => ?_) (fun _ c bit => ?_)
            · rcases isB with rfl | rfl <;> decide
            · rcases few c bit with rfl | rfl <;> decide
            · rcases few c bit with rfl | rfl <;> decide
        · split
          · next octal =>
              refine basedRun_spec rest ?_ (fun c digit => ?_) ?_
              · rcases octal with rfl | rfl <;> decide
              · rw [Bool.and_eq_true, decide_eq_true_eq, decide_eq_true_eq] at digit
                exact of_ascii (fun c => '0' ≤ c ∧ c ≤ '7' → isHexDigit c = true) (by decide)
                  (isAscii_of_le digit.2 rfl) digit
              · rcases octal with rfl | rfl <;> exact fun isB => absurd isB (by decide)
          · exact plain
  · exact plain

/-! ### Numbers -/

/-- A number and what follows it are the text, and the number is kept in an outline. -/
theorem number?_spec {text digits rest : List Char} (found : number? text = some (digits, rest)) :
    digits ++ rest = text ∧ digits ≠ [] ∧ Passes digits := by
  have run := decimalRun_append text
  have kept := passes_decimalRun text
  have integer := integerRun_spec text
  have point : Passes ['.'] := .inert (by decide)
  unfold number? at found
  split at found
  · split at found
    · next more _ =>
        have fraction := decimalRun_append more
        have passes := point.append (passes_decimalRun more)
        split at found
        · cases found
        · next shown behind _ equal =>
            rw [equal] at fraction passes
            have spec := scaled_spec behind passes (List.cons_ne_nil _ _) (Option.some.inj found)
            rw [List.append_assoc, fraction] at spec
            exact spec
    · cases found
  · next whole more filled equal =>
      rw [equal] at run kept
      have fraction := decimalRun_append more
      have passes := kept.append (point.append (passes_decimalRun more))
      have same : withImaginary ((whole ++ (['.'] ++ (decimalRun more).1)) ++
          (exponentRun (decimalRun more).2).1) (exponentRun (decimalRun more).2).2 =
          (digits, rest) := by
        rw [List.append_assoc]
        exact Option.some.inj found
      have spec := scaled_spec (decimalRun more).2 passes (by simp) same
      rw [List.append_assoc, List.append_assoc, fraction] at spec
      rw [← run]
      exact spec
  · next whole behind filled _ equal =>
      rw [equal] at run kept integer
      -- A number without a point: with an exponent, imaginary, or an integer.
      split at found
      · split at found
        · cases found
          exact ⟨by rw [← run]; simp, by simp, kept.append (passes_letter (by simp))⟩
        · cases found
          exact ⟨by rw [← run]; simp, by simp, kept.append (passes_letter (by simp))⟩
        · rw [Option.some.inj found] at integer
          exact ⟨integer.1, integer.2.2 filled, integer.2.1⟩
      · next power last _ scaled =>
          have same : withImaginary (whole ++ (exponentRun behind).1) (exponentRun behind).2 =
              (digits, rest) := by
            rw [scaled]
            exact Option.some.inj found
          rw [← run]
          exact scaled_spec behind kept filled same

end Lexeme
end Snippet
end AnswerKey
