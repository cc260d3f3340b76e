import AnswerKey.Json.Writer

namespace AnswerKey

/-!
A document is one line.

Whatever a value holds, its document form has no line feed: the ones in a text are escaped, and a number
is written with digits, signs, a point and a few letters.  So documents that are written one on a line
can be told apart again.
-/

/-! ### Numbers -/

namespace Decimal

theorem digitChar_ne_newline (digit : Nat) : Nat.digitChar digit ≠ '\n' := by
  fun_cases Nat.digitChar digit <;> decide

theorem newline_not_mem_toDigits {base : Nat} (large : 1 < base) (n : Nat) :
    '\n' ∉ Nat.toDigits base n := by
  induction n using Nat.strongRecOn with
  | ind n ih =>
      rw [Nat.toDigits_eq_if large]
      split
      · intro member
        exact digitChar_ne_newline n (List.mem_singleton.mp member).symm
      · rename_i more
        have positive : 0 < n := by omega
        intro member
        rcases List.mem_append.mp member with earlier | last
        · exact ih (n / base) (Nat.div_lt_self positive large) earlier
        · exact digitChar_ne_newline _ (List.mem_singleton.mp last).symm

theorem newline_not_mem_digitsOf (n : Nat) : '\n' ∉ digitsOf n :=
  newline_not_mem_toDigits (by decide) n

theorem newline_not_mem_ofInt (n : Int) : '\n' ∉ (ofInt n).toList := by
  have digits := newline_not_mem_digitsOf n.natAbs
  rw [ofInt]
  split <;> simp [digits]

theorem newline_not_mem_padLeft {digits : List Char} (width : Nat) (fine : '\n' ∉ digits) :
    '\n' ∉ padLeft width digits := by
  simp [padLeft, List.mem_replicate, fine]

theorem newline_not_mem_writeDigits (layout : Layout) (d : Nat) (e : Int) :
    '\n' ∉ layout.writeDigits d e := by
  have digits := newline_not_mem_digitsOf d
  unfold Layout.writeDigits
  simp only []
  split
  · have exponent := newline_not_mem_padLeft layout.exponentWidth
      (newline_not_mem_digitsOf (e + (digitsOf d).length - 1).natAbs)
    have sign : (if e + (digitsOf d).length - 1 < 0 then '-' else '+') ≠ '\n' := by
      split <;> decide
    generalize (if e + (digitsOf d).length - 1 < 0 then '-' else '+') = mark at sign ⊢
    split <;> rename_i shown <;> rw [shown] at digits
    · simp [exponent, sign.symm]
    · simp [exponent, sign.symm, List.ne_of_not_mem_cons digits]
    · simp [exponent, sign.symm, List.ne_of_not_mem_cons digits,
        List.not_mem_of_not_mem_cons digits]
  · split
    · simp [List.mem_replicate, digits]
    · split
      · split <;> simp [List.mem_replicate, digits]
      · intro member
        rcases List.mem_append.mp member with whole | fraction
        · exact digits (List.mem_of_mem_take whole)
        · rcases List.mem_cons.mp fraction with point | behind
          · exact absurd point (by decide)
          · exact digits (List.mem_of_mem_drop behind)

/-- A double in a document. -/
theorem newline_not_mem_write (x : Binary64) : '\n' ∉ (Layout.document.write x).toList := by
  unfold Layout.write
  simp only []
  split
  · decide
  · have signed : ∀ {text : List Char}, '\n' ∉ text →
        '\n' ∉ (String.ofList (if x.isNegative then '-' :: text else text)).toList := by
      intro text fine
      split <;> simp [fine]
    split
    · exact signed (by decide)
    · split
      · exact signed (by decide)
      · exact signed (newline_not_mem_writeDigits _ _ _)

end Decimal

/-! ### Texts -/

namespace Json

theorem newline_not_mem_unitEscape (unit : Nat) : '\n' ∉ unitEscape unit := by
  have digits := Decimal.newline_not_mem_toDigits (by decide : 1 < 16) unit
  simp [unitEscape, Text.Quoted.hexPadded, List.mem_replicate, digits]

theorem newline_not_mem_writeChar (c : Char) : '\n' ∉ writeChar c := by
  fun_cases writeChar c
  case case8 _ _ other _ _ _ _ _ =>
    intro same
    exact other (List.mem_singleton.mp same).symm
  case case9 => exact newline_not_mem_unitEscape _
  case case10 => simp [newline_not_mem_unitEscape]
  -- What has an escape of its own is a fixed text.
  all_goals decide

theorem newline_not_mem_writeText (text : String) : '\n' ∉ (writeText text).toList := by
  simp [writeText, newline_not_mem_writeChar]

/-! ### Values -/

mutual

/-- The document form of a value has no line feed. -/
theorem newline_not_mem_write : (value : Json) → '\n' ∉ (write value).toList
  | null => by decide
  | bool true => by decide
  | bool false => by decide
  | int n => Decimal.newline_not_mem_ofInt n
  | float x => Decimal.newline_not_mem_write x
  | str s => newline_not_mem_writeText s
  | arr items => by
      have inside := newline_not_mem_writeItems items
      simp [write, inside]
  | obj fields => by
      have inside := newline_not_mem_writeFields fields
      simp [write, inside]

theorem newline_not_mem_writeItems : (items : List Json) → '\n' ∉ (writeItems items).toList
  | [] => by decide
  | [item] => newline_not_mem_write item
  | item :: next :: rest => by
      have first := newline_not_mem_write item
      have others := newline_not_mem_writeItems (next :: rest)
      simp [writeItems, first, others]

theorem newline_not_mem_writeFields :
    (fields : List (String × Json)) → '\n' ∉ (writeFields fields).toList
  | [] => by decide
  | [(key, value)] => by
      have written := newline_not_mem_write value
      simp [writeFields, newline_not_mem_writeText, written]
  | (key, value) :: next :: rest => by
      have written := newline_not_mem_write value
      have others := newline_not_mem_writeFields (next :: rest)
      simp [writeFields, newline_not_mem_writeText, written, others]

end

end Json
end AnswerKey
