import Mathlib.Algebra.Group.Nat.Defs
import AnswerKey.Text.Quoted

namespace AnswerKey
namespace Text
namespace Quoted

/-!
Quoted texts can be read back.

Inside its quotes every code point is written in a way that tells where it ends: what is read from the
front of a quoted text is the code point that was written there, whatever follows (`readCode?_encodeCode`),
and the closing quote is none.  So a text is known by its quoted form (`encode_inj`).
-/

/-! ### Hexadecimal digits -/

/-- The value of a hexadecimal digit. -/
def hexValue (c : Char) : Nat :=
  if c.toNat < 'a'.toNat then c.toNat - '0'.toNat else c.toNat - 'a'.toNat + 10

/-- The number that hexadecimal digits stand for. -/
def hexNumber (digits : List Char) : Nat :=
  digits.foldl (fun value c => 16 * value + hexValue c) 0

theorem hexNumber_append_digit (digits : List Char) (c : Char) :
    hexNumber (digits ++ [c]) = 16 * hexNumber digits + hexValue c := by
  simp [hexNumber]

theorem hexValue_digitChar {digit : Nat} (small : digit < 16) :
    hexValue (Nat.digitChar digit) = digit := by
  have all : ∀ digit < 16, hexValue (Nat.digitChar digit) = digit := by decide
  exact all digit small

theorem hexNumber_toDigits (n : Nat) : hexNumber (Nat.toDigits 16 n) = n := by
  induction n using Nat.strongRecOn with
  | ind n ih =>
      rw [Nat.toDigits_eq_if (by decide)]
      split
      · next small => simp [hexNumber, hexValue_digitChar small]
      · next large =>
          rw [hexNumber_append_digit, ih (n / 16) (by omega),
            hexValue_digitChar (Nat.mod_lt n (by decide))]
          omega

/-- Zeros in front change no number. -/
theorem hexNumber_zeros (count : Nat) (digits : List Char) :
    hexNumber (List.replicate count '0' ++ digits) = hexNumber digits := by
  induction count with
  | zero => rfl
  | succ count ih => exact ih

theorem hexNumber_hexPadded (width n : Nat) : hexNumber (hexPadded width n) = n := by
  rw [hexPadded, hexNumber_zeros, hexNumber_toDigits]

theorem length_hexPadded {width n : Nat} (positive : 0 < width) (fits : n < 16 ^ width) :
    (hexPadded width n).length = width := by
  have bound := (Nat.length_toDigits_le_iff (by decide) positive).mpr fits
  simp only [hexPadded, List.length_append, List.length_replicate]
  omega

/-! ### One code point -/

/-- The number in so many hexadecimal digits, and what follows them. -/
def readHex (width : Nat) (text : List Char) : Nat × List Char :=
  (hexNumber (text.take width), text.drop width)

theorem readHex_hexPadded {width n : Nat} (positive : 0 < width) (fits : n < 16 ^ width)
    (rest : List Char) : readHex width (hexPadded width n ++ rest) = (n, rest) := by
  have whole := length_hexPadded positive fits
  rw [readHex, List.take_left' whole, List.drop_left' whole, hexNumber_hexPadded]

/-- What a character behind a backslash stands for, and what follows. -/
def readEscape (c : Char) (rest : List Char) : Nat × List Char :=
  match c with
  | 't' => (9, rest)
  | 'n' => (10, rest)
  | 'r' => (13, rest)
  | 'x' => readHex 2 rest
  | 'u' => readHex 4 rest
  | 'U' => readHex 8 rest
  | _ => (c.toNat, rest)

/-- The code point in front of a text between quotes, and what follows; the quote itself is none. -/
def readCode? (quote : Char) : List Char → Option (Nat × List Char)
  | [] => none
  | c :: rest =>
      if c = '\\' then
        match rest with
        | [] => none
        | d :: more => some (readEscape d more)
      else if c = quote then none
      else some (c.toNat, rest)

theorem readCode?_quote {quote : Char} (known : quote = '\'' ∨ quote = '"') (rest : List Char) :
    readCode? quote (quote :: rest) = none := by
  rcases known with rfl | rfl <;> rfl

/-- An escaped code point is read back. -/
theorem readCode?_escapeCode {code : Nat} (valid : code.isValidChar) (quote : Char)
    (rest : List Char) : readCode? quote (escapeCode code ++ rest) = some (code, rest) := by
  have bound : code < 0x110000 := by
    rcases valid with low | ⟨-, high⟩
    · omega
    · exact high
  rw [escapeCode]
  split
  · next small => exact congrArg some (readHex_hexPadded (by decide) small rest)
  · split
    · next small => exact congrArg some (readHex_hexPadded (by decide) small rest)
    · exact congrArg some (readHex_hexPadded (by decide) (by omega) rest)

/-- A code point is read back, whatever follows. -/
theorem readCode?_encodeCode {quote : Char} (known : quote = '\'' ∨ quote = '"') {code : Nat}
    (valid : code.isValidChar) (rest : List Char) :
    readCode? quote (encodeCode quote code ++ rest) = some (code, rest) := by
  rw [encodeCode]
  split
  · next marked =>
      rcases known with rfl | rfl <;> rcases marked with rfl | rfl <;> rfl
  · next plain =>
      obtain ⟨noQuote, noEscape⟩ := not_or.mp plain
      split
      · next tab => rw [tab]; rfl
      split
      · next feed => rw [feed]; rfl
      split
      · next carriage => rw [carriage]; rfl
      split
      · have same : (Char.ofNat code).toNat = code := by
          rw [Char.ofNat, dif_pos valid]
          rfl
        have apart (other : Char) (different : code ≠ other.toNat) : Char.ofNat code ≠ other :=
          fun equal => different (by rw [← equal, same])
        rw [List.singleton_append, readCode?.eq_def]
        simp only [if_neg (apart _ noEscape), if_neg (apart _ noQuote), same]
      · exact readCode?_escapeCode valid quote rest

/-! ### Whole texts -/

theorem chooseQuote_known (codes : List Nat) :
    chooseQuote codes = '\'' ∨ chooseQuote codes = '"' := by
  rw [chooseQuote]
  split
  · exact .inr rfl
  · exact .inl rfl

theorem eq_of_flatMap_encodeCode_eq {quote : Char} (known : quote = '\'' ∨ quote = '"')
    {first second : List Nat} (valid : ∀ code ∈ first, code.isValidChar)
    (valid' : ∀ code ∈ second, code.isValidChar)
    (same : first.flatMap (encodeCode quote) ++ [quote] =
      second.flatMap (encodeCode quote) ++ [quote]) : first = second := by
  have closing := readCode?_quote known []
  induction first generalizing second with
  | nil =>
      cases second with
      | nil => rfl
      | cons code rest =>
          rw [List.flatMap_cons, List.append_assoc] at same
          have read := readCode?_encodeCode known (valid' code List.mem_cons_self)
            (rest.flatMap (encodeCode quote) ++ [quote])
          rw [← same, List.flatMap_nil, List.nil_append, closing] at read
          cases read
  | cons code rest ih =>
      rw [List.flatMap_cons, List.append_assoc] at same
      have read := readCode?_encodeCode known (valid code List.mem_cons_self)
        (rest.flatMap (encodeCode quote) ++ [quote])
      cases second with
      | nil =>
          rw [same, List.flatMap_nil, List.nil_append, closing] at read
          cases read
      | cons code' rest' =>
          rw [List.flatMap_cons, List.append_assoc] at same
          rw [same, readCode?_encodeCode known (valid' code' List.mem_cons_self)] at read
          obtain ⟨rfl, more⟩ := Prod.mk.inj (Option.some.inj read)
          rw [ih (fun _ member => valid _ (List.mem_cons_of_mem _ member))
            (fun _ member => valid' _ (List.mem_cons_of_mem _ member)) more.symm]

/-- A text is known by its quoted form. -/
theorem encode_inj {first second : String} (same : encode first = encode second) :
    first = second := by
  have valid (text : String) : ∀ code ∈ text.toList.map Char.toNat, code.isValidChar := by
    simp only [List.forall_mem_map]
    exact fun c _ => c.valid
  have quoted := String.ofList_injective same
  simp only [encodeCodes, List.cons.injEq] at quoted
  obtain ⟨quotes, bodies⟩ := quoted
  rw [quotes] at bodies
  have codes := eq_of_flatMap_encodeCode_eq (chooseQuote_known _) (valid first) (valid second) bodies
  exact String.toList_injective ((List.map_inj_right fun _ _ => Char.toNat_inj.mp).mp codes)

end Quoted
end Text
end AnswerKey
