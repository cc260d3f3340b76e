import AnswerKey.Construct.Basic

namespace AnswerKey
namespace Construct

/-!
Outlines piece by piece.

The outline of a text is found from left to right, and the only thing to be remembered on the way is
whether a word goes on.  So the outline of a text that starts with a given piece is the outline of
that piece and the outline of what follows, the latter read on from inside a word or not (`Passes`).
A word is a mark of a literal only if it is one of a few letters with a quote behind it.
-/

open Text

/-! ### Characters -/

section Ascii

variable {c : Char}

/-- What holds of all ASCII characters is found by going through them. -/
theorem of_ascii (p : Char → Prop) (all : ∀ code < 128, p (Char.ofNat code))
    (ascii : isAscii c = true) : p c := by
  have same : Char.ofNat c.toNat = c := Char.ofNat_toNat c
  exact same ▸ all c.toNat (of_decide_eq_true ascii)

/-- What holds of all characters of a short text is found by going through them. -/
theorem forall_mem_of_all {p : Char → Prop} [DecidablePred p] {text : List Char}
    (all : text.all (fun c => decide (p c)) = true) : ∀ c ∈ text, p c :=
  fun c member => of_decide_eq_true (List.all_eq_true.mp all c member)

theorem isAscii_of_le {last : Char} (le : c ≤ last) (ascii : isAscii last = true) :
    isAscii c = true := by
  have below : last.toNat < 128 := of_decide_eq_true ascii
  have order : c.toNat ≤ last.toNat := UInt32.le_iff_toNat_le.mp le
  exact decide_eq_true (Nat.lt_of_le_of_lt order below)

theorem isAscii_of_digit (digit : isAsciiDigit c = true) : isAscii c = true := by
  rw [isAsciiDigit, Bool.and_eq_true, decide_eq_true_eq, decide_eq_true_eq] at digit
  exact isAscii_of_le digit.2 rfl

/-- A digit goes on in a word, and begins nothing. -/
theorem digit_spec (digit : isAsciiDigit c = true) :
    isWordCharacter c = true ∧ startsWord c = false ∧ isQuote c = false ∧ c ≠ '#' :=
  of_ascii (fun c => isAsciiDigit c = true → isWordCharacter c = true ∧ startsWord c = false ∧
    isQuote c = false ∧ c ≠ '#') (by decide) (isAscii_of_digit digit) digit

/-- An ASCII letter or an underscore goes on in a word. -/
theorem isWordCharacter_of_startsWord (ascii : isAscii c = true) (starts : startsWord c = true) :
    isWordCharacter c = true :=
  of_ascii (fun c => startsWord c = true → isWordCharacter c = true) (by decide) ascii starts

end Ascii

/-! ### Marks -/

section Marks

variable {word : List Char}

/-- The letters of marks, in small letters. -/
def markLetters : List Char :=
  ['r', 'u', 'b', 'f']

/-- Words of ASCII characters are made small character by character. -/
theorem lowerAfter_append (before rest : List Char) (ascii : ∀ c ∈ word, isAscii c = true) :
    ∃ later, lowerAfter before (word ++ rest) = word.map lowerChar ++ lowerAfter later rest := by
  induction word generalizing before with
  | nil => exact ⟨before, rfl⟩
  | cons c word ih =>
      have small : c.toNat < 128 := of_decide_eq_true (ascii c List.mem_cons_self)
      have noSigma : c.toNat ≠ 0x3a3 := by omega
      have noDot : c.toNat ≠ 0x130 := by omega
      rcases ih (c :: before) fun other member => ascii other (List.mem_cons_of_mem c member) with
        ⟨later, same⟩
      refine ⟨later, ?_⟩
      rw [List.cons_append, lowerAfter, if_neg noSigma, if_neg noDot, same]
      rfl

theorem lower_of_ascii (ascii : ∀ c ∈ word, isAscii c = true) :
    lower (.ofList word) = .ofList (word.map lowerChar) := by
  rcases lowerAfter_append [] [] ascii with ⟨later, same⟩
  rw [List.append_nil, lowerAfter, List.append_nil] at same
  rw [lower, String.toList_ofList, same]

/-- A word is no mark when it begins with a letter that no mark has, or has one close by. -/
theorem not_mark (rest : List Char) (ascii : ∀ c ∈ word, isAscii c = true)
    (foreign : ∃ c ∈ word, lowerChar c ∉ markLetters) :
    literalMarks.contains (lower (.ofList (word ++ rest))) = false := by
  have letters : ∀ mark ∈ literalMarks,
      mark.toList.all (fun c => decide (c ∈ markLetters)) = true := by decide
  rcases foreign with ⟨c, member, foreign⟩
  rcases lowerAfter_append [] rest ascii with ⟨later, same⟩
  rw [← Bool.not_eq_true, List.contains_iff_mem, lower, String.toList_ofList, same]
  intro mark
  refine foreign (forall_mem_of_all (letters _ mark) (lowerChar c) ?_)
  rw [String.toList_ofList]
  exact List.mem_append_left _ (List.mem_map_of_mem member)

end Marks

/-! ### Words -/

/-- The outline of a text, read on from inside a word. -/
def outlineWord (text : List Char) : List Char :=
  text.takeWhile isWordCharacter ++ outline (text.dropWhile isWordCharacter)

/-- The outline of a text, read on from inside a word or not. -/
def scan : (inWord : Bool) → List Char → List Char
  | true => outlineWord
  | false => outline

@[simp] theorem scan_nil (inWord : Bool) : scan inWord [] = [] := by
  cases inWord <;> rfl

section Characters

variable {c : Char} (rest : List Char)

theorem outlineWord_cons (within : isWordCharacter c = true) :
    outlineWord (c :: rest) = c :: outlineWord rest := by
  simp only [outlineWord, List.takeWhile_cons, List.dropWhile_cons, within, if_true,
    List.cons_append]

/-- The rest of a word is kept. -/
theorem outlineWord_append {tail : List Char} (within : ∀ d ∈ tail, isWordCharacter d = true)
    (rest : List Char) :
    outlineWord (tail ++ rest) = tail ++ outlineWord rest := by
  rw [outlineWord, outlineWord, List.takeWhile_append_of_pos within,
    List.dropWhile_append_of_pos within, List.append_assoc]

/-- A word ends in front of any other character. -/
theorem outlineWord_of_not (outside : isWordCharacter c = false) :
    outlineWord (c :: rest) = outline (c :: rest) := by
  simp only [outlineWord, List.takeWhile_cons, List.dropWhile_cons, outside, Bool.false_eq_true,
    if_false, List.nil_append]

/-- A character that is nothing special is kept. -/
theorem outline_of_plain (noComment : c ≠ '#') (noWord : startsWord c = false)
    (noQuote : isQuote c = false) : outline (c :: rest) = c :: outline rest := by
  rw [outline_cons, nextStretch, if_neg noComment]
  simp only [noWord, noQuote, Bool.false_eq_true, if_false, List.singleton_append]

/-- A word is kept unless it is a mark with a quote behind it. -/
theorem outline_of_word (starts : startsWord c = true)
    (unmarked : ∀ quote more, rest.dropWhile isWordCharacter = quote :: more →
      isQuote quote = true →
      literalMarks.contains (lower (.ofList (c :: rest.takeWhile isWordCharacter))) = false) :
    outline (c :: rest) = c :: outlineWord rest := by
  have noComment : c ≠ '#' := by
    rintro rfl
    revert starts
    decide
  rw [outline_cons, nextStretch, if_neg noComment, if_pos starts, outlineWord]
  simp only []
  cases behind : rest.dropWhile isWordCharacter with
  | nil => rfl
  | cons quote more =>
      simp only []
      cases isMark : isQuote quote with
      | false => rfl
      | true =>
          rw [unmarked quote more behind isMark]
          rfl

end Characters

/-! ### Pieces that are kept -/

/-- A character that is kept wherever it stands, and behind which no word goes on. -/
def isInert (c : Char) : Bool :=
  !isWordCharacter c && !startsWord c && !isQuote c && decide (c ≠ '#')

theorem scan_inert {c : Char} (inert : isInert c = true) (inWord : Bool) (rest : List Char) :
    scan inWord (c :: rest) = c :: outline rest := by
  simp only [isInert, Bool.and_eq_true, Bool.not_eq_true', decide_eq_true_eq] at inert
  rcases inert with ⟨⟨⟨outside, noWord⟩, noQuote⟩, noComment⟩
  cases inWord with
  | false => exact outline_of_plain rest noComment noWord noQuote
  | true =>
      rw [scan, outlineWord_of_not rest outside]
      exact outline_of_plain rest noComment noWord noQuote

theorem outline_inert {gap : List Char} (inert : ∀ c ∈ gap, isInert c = true) (rest : List Char) :
    outline (gap ++ rest) = gap ++ outline rest := by
  induction gap with
  | nil => rfl
  | cons c gap ih =>
      have kept := scan_inert (inert c List.mem_cons_self) false (gap ++ rest)
      rw [List.cons_append, List.cons_append,
        ← ih fun other member => inert other (List.mem_cons_of_mem c member)]
      exact kept

/-- A piece that is kept as it is, wherever it stands.  Whether a word goes on behind it does not
depend on what follows. -/
def Passes (piece : List Char) : Prop :=
  ∀ inWord, ∃ onward, ∀ rest, scan inWord (piece ++ rest) = piece ++ scan onward rest

namespace Passes

variable {first second : List Char} {c : Char}

theorem nil : Passes [] :=
  fun inWord => ⟨inWord, fun _ => rfl⟩

theorem append (before : Passes first) (after : Passes second) : Passes (first ++ second) := by
  intro inWord
  rcases before inWord with ⟨between, early⟩
  rcases after between with ⟨onward, late⟩
  refine ⟨onward, fun rest => ?_⟩
  rw [List.append_assoc, early, late, List.append_assoc]

theorem inert (kept : isInert c = true) : Passes [c] :=
  fun inWord => ⟨false, scan_inert kept inWord⟩

theorem digit (isDigit : isAsciiDigit c = true) : Passes [c] := by
  rcases digit_spec isDigit with ⟨within, noWord, noQuote, noComment⟩
  intro inWord
  refine ⟨inWord, fun rest => ?_⟩
  cases inWord with
  | false => exact outline_of_plain rest noComment noWord noQuote
  | true => exact outlineWord_cons rest within

/-- A word that is no mark, whatever follows. -/
theorem word {tail : List Char} (ascii : ∀ d ∈ c :: tail, isAscii d = true)
    (starts : startsWord c = true) (within : ∀ d ∈ tail, isWordCharacter d = true)
    (foreign : ∃ d ∈ c :: tail, lowerChar d ∉ markLetters) : Passes (c :: tail) := by
  have head := isWordCharacter_of_startsWord (ascii c List.mem_cons_self) starts
  intro inWord
  refine ⟨true, fun rest => ?_⟩
  have onward := outlineWord_append within rest
  rw [List.cons_append, List.cons_append, scan, ← onward]
  cases inWord with
  | true => exact outlineWord_cons _ head
  | false =>
      refine outline_of_word _ starts fun quote more _ _ => ?_
      rw [List.takeWhile_append_of_pos within, ← List.cons_append]
      exact not_mark _ ascii foreign

end Passes

end Construct
end AnswerKey
