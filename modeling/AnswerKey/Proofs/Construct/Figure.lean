import AnswerKey.Proofs.Construct.Numeral
import AnswerKey.Snippet.Token

namespace AnswerKey
namespace Snippet
namespace Token

/-!
The numbers of the grammar in an outline.

The grammar reads numbers more strictly than a comparison of lexemes does, and gives their value.
Their text is kept in an outline all the same, and behind it no word begins but one of those that may
follow a number.
-/

open Text Construct Lexeme

/-- A character of a number. -/
def isFigure (c : Char) : Bool :=
  isAsciiDigit c || isAsciiLetter c || c == '_' || c == '.' || c == '+' || c == '-'

theorem isAscii_of_isFigure {c : Char} (figure : isFigure c = true) : isAscii c = true := by
  simp only [isFigure, Bool.or_eq_true, beq_iff_eq] at figure
  rcases figure with ((((digit | letter) | rfl) | rfl) | rfl) | rfl
  · exact isAscii_of_digit digit
  · rw [isAsciiLetter, Bool.or_eq_true, Bool.and_eq_true, Bool.and_eq_true] at letter
    rcases letter with small | capital
    · exact isAscii_of_le (of_decide_eq_true small.2) rfl
    · exact isAscii_of_le (of_decide_eq_true capital.2) rfl
  · rfl
  · rfl
  · rfl
  · rfl

/-- A piece of a number. -/
def Figures (piece : List Char) : Prop :=
  Passes piece ∧ ∀ c ∈ piece, isFigure c = true

namespace Figures

variable {first second : List Char} {c : Char}

theorem nil : Figures [] :=
  ⟨.nil, List.forall_mem_nil _⟩

theorem append (before : Figures first) (after : Figures second) : Figures (first ++ second) :=
  ⟨before.1.append after.1, List.forall_mem_append.mpr ⟨before.2, after.2⟩⟩

theorem inert (kept : isInert c = true) (figure : isFigure c = true) : Figures [c] :=
  ⟨.inert kept, List.forall_mem_singleton.mpr figure⟩

theorem letter (isLetter : c = 'e' ∨ c = 'E' ∨ c = 'j' ∨ c = 'J') : Figures [c] := by
  refine ⟨passes_letter isLetter, List.forall_mem_singleton.mpr ?_⟩
  rcases isLetter with rfl | rfl | rfl | rfl <;> rfl

theorem isFigure_of_digit (digit : isAsciiDigit c = true ∨ c = '_') : isFigure c = true := by
  rcases digit with digit | rfl
  · simp [isFigure, digit]
  · rfl

theorem decimalRun (text : List Char) : Figures (Lexeme.decimalRun text).1 :=
  ⟨passes_decimalRun text, fun c member => isFigure_of_digit (decimalRun_all text c member)⟩

/-- A run of digits behind a piece of a number. -/
theorem run {front digits shown left : List Char} (before : Figures front)
    (same : Lexeme.decimalRun digits = (shown, left)) :
    ∃ piece, front ++ digits = piece ++ left ∧ Figures piece := by
  have whole := decimalRun_append digits
  have kept := Figures.decimalRun digits
  rw [same] at whole kept
  exact ⟨front ++ shown, by rw [← whole, List.append_assoc], before.append kept⟩

end Figures

/-! ### Decimal numbers -/

section Decimal

variable {text rest : List Char} {value : Constant}

theorem exponent?_spec {power : Option Int} (found : exponent? text = some (power, rest)) :
    ∃ piece, text = piece ++ rest ∧ Figures piece := by
  have nothing : ∃ piece, text = piece ++ text ∧ Figures piece := ⟨[], rfl, .nil⟩
  unfold exponent? at found
  split at found
  · next c behind =>
      split at found
      · next isLetter =>
          have head : Figures [c] := .letter (isLetter.imp_right .inl)
          split at found
          · split at found
            · cases found
            · next same =>
                cases found
                exact (head.append (.inert (by decide) rfl)).run same
          · split at found
            · cases found
            · next same =>
                cases found
                exact (head.append (.inert (by decide) rfl)).run same
          · split at found
            · cases found
              exact nothing
            · next same =>
                cases found
                exact head.run same
      · cases found
        exact nothing
  · cases found
    exact nothing

theorem ended_spec {given : Constant} (found : ended given text = some (value, rest)) :
    text = rest ∧ numberMayEnd rest = true := by
  unfold ended at found
  split at found
  · next free =>
      cases found
      exact ⟨rfl, free⟩
  · cases found

theorem numberFrom?_spec {whole : List Char} {fraction : Option (List Char)}
    (found : numberFrom? whole fraction text = some (value, rest)) :
    ∃ piece, text = piece ++ rest ∧ Figures piece ∧ numberMayEnd rest = true := by
  unfold numberFrom? at found
  split at found
  · cases found
  · next power behind scaled =>
      obtain ⟨piece, rfl, figures⟩ := exponent?_spec scaled
      simp only [] at found
      split at found
      · next left =>
          obtain ⟨rfl, free⟩ := ended_spec found
          exact ⟨piece ++ ['j'], by simp, figures.append (.letter (by simp)), free⟩
      · next left =>
          obtain ⟨rfl, free⟩ := ended_spec found
          exact ⟨piece ++ ['J'], by simp, figures.append (.letter (by simp)), free⟩
      · split at found
        · split at found
          · cases found
          · split at found
            · cases found
            · obtain ⟨rfl, free⟩ := ended_spec found
              exact ⟨piece, rfl, figures, free⟩
        · obtain ⟨rfl, free⟩ := ended_spec found
          exact ⟨piece, rfl, figures, free⟩

end Decimal

theorem isFigure_of_hexDigit {c : Char} (digit : isHexDigit c = true) : isFigure c = true :=
  of_ascii (fun c => isHexDigit c = true → isFigure c = true) (by decide)
    (isAscii_of_hexDigit digit) digit

/-- An integer behind the letter of its base. -/
theorem basedInteger?_spec {base : Nat} {p : Char → Bool} {letter : Char} {text rest : List Char}
    {value : Constant} (found : basedInteger? base p text = some (value, rest))
    (marked : letter ∈ ['x', 'X', 'b', 'B', 'o', 'O'])
    (digits : ∀ c, p c = true → isHexDigit c = true)
    (binary : letter = 'b' ∨ letter = 'B' → ∀ c, p c = true → isAsciiDigit c = true) :
    ∃ piece, '0' :: letter :: text = piece ++ rest ∧ Figures piece ∧ numberMayEnd rest = true := by
  have letters : ∀ letter ∈ ['x', 'X', 'b', 'B', 'o', 'O'], isFigure letter = true :=
    forall_mem_of_all (by decide)
  have whole := digitRun_append p text
  have all := digitRun_all p text
  unfold basedInteger? at found
  split at found
  · cases found
  · next shown left filled same =>
      rw [same] at whole all
      have figures : Figures ('0' :: letter :: shown) := by
        refine ⟨passes_based marked (fun c member => (all c member).imp_left (digits c))
          (fun isB c member => (all c member).imp_left (binary isB c)) filled, ?_⟩
        rw [List.forall_mem_cons, List.forall_mem_cons]
        refine ⟨rfl, letters letter marked, fun c member => ?_⟩
        rcases all c member with digit | rfl
        · exact isFigure_of_hexDigit (digits c digit)
        · rfl
      simp only [] at found
      split at found
      · split at found
        · cases found
        · obtain ⟨rfl, free⟩ := ended_spec found
          exact ⟨'0' :: letter :: shown, by rw [← whole]; rfl, figures, free⟩
      · cases found
        exact ⟨'0' :: letter :: shown, by rw [← whole]; rfl, figures, rfl⟩

/-- A number with a point behind its whole part. -/
theorem pointed_spec {text behind whole rest : List Char} {value : Constant}
    (run : decimalRun text = (whole, '.' :: behind))
    (read : numberFrom? whole (some (decimalRun behind).1) (decimalRun behind).2 =
      some (value, rest)) :
    ∃ piece, text = piece ++ rest ∧ Figures piece ∧ numberMayEnd rest = true := by
  obtain ⟨front, whole, figures⟩ := Figures.nil.run run
  have point : Figures ['.'] := .inert (by decide) rfl
  have parts : decimalRun behind = ((decimalRun behind).1, (decimalRun behind).2) := rfl
  obtain ⟨digits, fraction, kept⟩ := (figures.append point).run parts
  obtain ⟨piece, left, more, free⟩ := numberFrom?_spec read
  refine ⟨digits ++ piece, ?_, kept.append more, free⟩
  rw [List.append_assoc, ← left, ← fraction, List.append_assoc]
  exact whole

/-- A number without a point. -/
theorem unpointed_spec {text left whole rest : List Char} {value : Constant}
    (run : decimalRun text = (whole, left)) (read : numberFrom? whole none left = some (value, rest)) :
    ∃ piece, text = piece ++ rest ∧ Figures piece ∧ numberMayEnd rest = true := by
  obtain ⟨front, whole, figures⟩ := Figures.nil.run run
  obtain ⟨piece, rfl, more, free⟩ := numberFrom?_spec read
  exact ⟨front ++ piece, by simpa using whole, figures.append more, free⟩

/-- A number is kept in an outline. -/
theorem number?_spec {text rest : List Char} {value : Constant}
    (found : number? text = some (value, rest)) :
    ∃ piece, text = piece ++ rest ∧ Figures piece ∧ numberMayEnd rest = true := by
  unfold number? at found
  simp only [] at found
  split at found
  · next mark behind =>
      split at found
      · next isMark =>
          refine basedInteger?_spec found ?_ (fun _ digit => digit) ?_
          · rcases isMark with rfl | rfl <;> decide
          · rcases isMark with rfl | rfl <;> exact fun isB => absurd isB (by decide)
      · split at found
        · next isMark =>
            refine basedInteger?_spec found ?_ (fun c octal => ?_) ?_
            · rcases isMark with rfl | rfl <;> decide
            · rw [Literal.isOctal, Bool.and_eq_true, decide_eq_true_eq, decide_eq_true_eq] at octal
              exact of_ascii (fun c => '0' ≤ c ∧ c ≤ '7' → isHexDigit c = true) (by decide)
                (isAscii_of_le octal.2 rfl) octal
            · rcases isMark with rfl | rfl <;> exact fun isB => absurd isB (by decide)
        · split at found
          · next isMark =>
              refine basedInteger?_spec found ?_ (fun c binary => ?_) (fun _ c binary => ?_)
              · rcases isMark with rfl | rfl <;> decide
              all_goals
                rw [Bool.or_eq_true, beq_iff_eq, beq_iff_eq] at binary
                rcases binary with rfl | rfl <;> rfl
          · split at found
            · next run => exact pointed_spec run found
            · next run => exact unpointed_spec run found
  · split at found
    · next run => exact pointed_spec run found
    · next run => exact unpointed_spec run found

end Token
end Snippet
end AnswerKey
