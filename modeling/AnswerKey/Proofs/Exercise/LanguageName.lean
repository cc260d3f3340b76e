import AnswerKey.Json.Writer
import AnswerKey.Proofs.Text.Visible
import AnswerKey.Registry

namespace AnswerKey

/-!
Names of languages that are no texts.  An audit looks at the text that a value has in a message, a
registry only at texts.  The two agree about the language that is registered, since the text of a
value that is no text never starts the way the name of that language does.
-/

open Text

namespace Json

/-- The characters that the text of a value other than a text can start with. -/
def openings : List Char :=
  ['[', '\x7b', 'N', 'T', 'F', '-', 'n', 'i', '0', '1', '2', '3', '4', '5', '6', '7', '8', '9']

/-- A text that starts with one of these characters. -/
def StartsAsValue (text : List Char) : Prop :=
  ∃ c ∈ openings, ∃ rest, text = c :: rest

theorem StartsAsValue.cons {c : Char} (member : c ∈ openings) (rest : List Char) :
    StartsAsValue (c :: rest) :=
  ⟨c, member, rest, rfl⟩

theorem StartsAsValue.append {text : List Char} (starts : StartsAsValue text) (rest : List Char) :
    StartsAsValue (text ++ rest) := by
  rcases starts with ⟨c, member, more, same⟩
  exact ⟨c, member, more ++ rest, by rw [same, List.cons_append]⟩

/-! ### Numbers -/

theorem mem_openings_of_isDigit {c : Char} (digit : c.isDigit = true) : c ∈ openings := by
  have bounds : 48 ≤ c.toNat ∧ c.toNat ≤ 57 := by
    simpa [Char.isDigit, UInt32.le_iff_toNat_le] using digit
  have digits : ∀ code, 48 ≤ code ∧ code ≤ 57 → Char.ofNat code ∈ openings := by
    rintro code ⟨above, below⟩
    have cases : code = 48 ∨ code = 49 ∨ code = 50 ∨ code = 51 ∨ code = 52 ∨ code = 53 ∨
        code = 54 ∨ code = 55 ∨ code = 56 ∨ code = 57 := by omega
    rcases cases with rfl | rfl | rfl | rfl | rfl | rfl | rfl | rfl | rfl | rfl <;> decide
  simpa using digits c.toNat bounds

/-- There is a first digit. -/
theorem exists_digitsOf_eq_cons (n : Nat) :
    ∃ c ∈ openings, ∃ rest, Decimal.digitsOf n = c :: rest := by
  cases digits : Decimal.digitsOf n with
  | nil => exact absurd digits Nat.toDigits_ne_nil
  | cons c rest =>
      have member : c ∈ Decimal.digitsOf n := digits ▸ List.mem_cons_self
      have digit := Nat.isDigit_of_mem_toDigits (by decide) (by decide) member
      exact ⟨c, mem_openings_of_isDigit digit, rest, rfl⟩

theorem startsAsValue_digitsOf (n : Nat) : StartsAsValue (Decimal.digitsOf n) :=
  exists_digitsOf_eq_cons n

theorem startsAsValue_ofInt (n : Int) : StartsAsValue (Decimal.ofInt n).toList := by
  rw [Decimal.ofInt]
  split
  · rw [String.toList_ofList]
    exact .cons (by decide) _
  · rw [String.toList_ofList]
    exact startsAsValue_digitsOf _

theorem startsAsValue_writeDigits (layout : Decimal.Layout) (d : Nat) (e : Int) :
    StartsAsValue (layout.writeDigits d e) := by
  rcases exists_digitsOf_eq_cons d with ⟨c, member, rest, digits⟩
  simp only [Decimal.Layout.writeDigits, digits]
  split
  · cases rest with
    | nil => exact .cons member _
    | cons second more => exact .cons member _
  · split
    · exact .cons (by decide) _
    · next _ positional =>
        split
        · exact .cons member _
        · obtain ⟨whole, positive⟩ : ∃ whole,
              (e + ↑(c :: rest).length - 1 + 1).toNat = whole + 1 := by
            refine ⟨(e + ↑(c :: rest).length - 1).toNat, ?_⟩
            omega
          rw [positive, List.take_succ_cons]
          exact .cons member _

theorem startsAsValue_write (x : Decimal.Binary64) :
    StartsAsValue (Decimal.Layout.plain.write x).toList := by
  have signed : ∀ text, StartsAsValue text →
      StartsAsValue (String.ofList (if x.isNegative then '-' :: text else text)).toList := by
    intro text starts
    rw [String.toList_ofList]
    split
    · exact .cons (by decide) _
    · exact starts
  rw [Decimal.Layout.write]
  split
  · exact .cons (by decide) ['a', 'n']
  · split
    · exact signed _ (.cons (by decide) ['n', 'f'])
    · split
      · exact signed _ (.cons (by decide) _)
      · exact signed _ (startsAsValue_writeDigits _ _ _)

/-! ### All values -/

/-- The text of a value other than a text. -/
theorem startsAsValue_text (value : Json) (notText : ∀ name, value ≠ .str name) :
    StartsAsValue value.text.toList := by
  cases value with
  | null => exact .cons (by decide) ['o', 'n', 'e']
  | bool b =>
      cases b with
      | false => exact .cons (by decide) ['a', 'l', 's', 'e']
      | true => exact .cons (by decide) ['r', 'u', 'e']
  | int n => exact startsAsValue_ofInt n
  | float x => exact startsAsValue_write x
  | str name => exact absurd rfl (notText name)
  | arr items =>
      rw [text, display, String.toList_append, String.toList_append]
      exact StartsAsValue.append (.cons (by decide) _) _
      nofun
  | obj fields =>
      rw [text, display, String.toList_append, String.toList_append]
      exact StartsAsValue.append (.cons (by decide) _) _
      nofun

end Json

namespace Registry

variable {α : Type}

/-- No text of a value other than a text is a spelling of this name. -/
theorem keyOf_ne_python {name : String} (starts : Json.StartsAsValue name.toList) :
    keyOf name ≠ "python" := by
  rcases starts with ⟨c, member, rest, same⟩
  have plain : Json.openings.all (fun c => decide (isBlank c = false ∧ c.toNat ≠ 0x3a3 ∧
      c.toNat ≠ 0x130 ∧ lowerChar c ≠ 'p')) = true := by
    decide
  rcases of_decide_eq_true (List.all_eq_true.mp plain c member) with
    ⟨shown, notSigma, notDotted, different⟩
  rcases trim_cons_of_not_isBlank shown rest with ⟨kept, trimmed⟩
  rw [keyOf, lower, trimString, same, trimmed, String.toList_ofList, lowerAfter, if_neg notSigma,
    if_neg notDotted]
  intro equal
  have letters := congrArg String.toList equal
  rw [String.toList_ofList] at letters
  exact different (List.cons.inj letters).1

/-- The registry in which this language alone has an entry. -/
def pythonOnly (entry : α) : Registry α :=
  Registry.empty.register "python" entry

theorem keyOf_python : keyOf "python" = "python" := by
  decide

theorem find?_pythonOnly (entry : α) (name : String) :
    (pythonOnly entry).find? name = if keyOf name = "python" then some entry else none := by
  rw [pythonOnly, find?_register, keyOf_python]
  by_cases isEmpty : name.isEmpty = true
  · have same : name = "" := by simpa using isEmpty
    subst same
    rw [if_pos isEmpty, if_neg (by decide)]
  · rw [if_neg isEmpty]
    split
    · rfl
    · rw [find?, if_neg isEmpty]
      rfl

/-- A value whose text names the registered language is a text, and has the entry. -/
theorem get_pythonOnly {entry : α} {language : Json}
    (named : ((pythonOnly entry).find? language.text).isSome = true) :
    (pythonOnly entry).get language = .ok (some entry) := by
  rw [find?_pythonOnly] at named
  split at named
  · next same =>
      cases language with
      | str name => rw [get, find?_pythonOnly, if_pos (by exact same)]
      | _ => exact absurd same (keyOf_ne_python (Json.startsAsValue_text _ nofun))
  · cases named

end Registry
end AnswerKey
