import AnswerKey.Json.Reader

namespace AnswerKey
namespace Json

/-!
Why a text is no document.

Whatever is wrong with the characters of a document has a place, unless the document is beyond a limit
of the reader: an integer has too many digits, or arrays and objects nest too deep
(`exists_limit_of_read`).  Bytes that spell no text are noticed before there are characters to read.
-/

/-- Whether a fault is one that characters can have. -/
def Fault.IsOfText (fault : Fault) : Prop :=
  fault.kind ≠ .badBytes

variable {fault : Fault}

theorem isOfText_of_readText {start seen text : List Char} {fuel : Nat}
    (failed : readText start fuel seen text = .error fault) : fault.IsOfText := by
  fun_induction readText start fuel seen text <;> simp_all <;> rw [← failed] <;> exact nofun

theorem isOfText_of_readNumber {negative : Bool} {digits rest : List Char}
    (failed : readNumber negative digits rest = .error fault) : fault.IsOfText := by
  unfold readNumber at failed
  split at failed
  split at failed
  · split at failed
    · cases failed
      exact nofun
    · cases failed
  · cases failed

theorem isOfText_of_readUnsigned {negative : Bool} {start text : List Char}
    (failed : readUnsigned negative start text = .error fault) : fault.IsOfText := by
  unfold readUnsigned at failed
  split at failed
  · exact isOfText_of_readNumber failed
  · split at failed
    · exact isOfText_of_readNumber failed
    · cases failed
      exact nofun
  · cases failed
    exact nofun

theorem isOfText_of_readAtom {text : List Char} (failed : readAtom text = .error fault) :
    fault.IsOfText := by
  unfold readAtom at failed
  split at failed
  · cases failed
  · split at failed
    · split at failed
      · cases failed
      · next read =>
          cases failed
          exact isOfText_of_readText read
    · exact isOfText_of_readUnsigned failed
    · exact isOfText_of_readUnsigned failed

mutual

theorem isOfText_of_readValue {fuel depth : Nat} {text : List Char}
    (failed : readValue fuel depth text = .error fault) : fault.IsOfText := by
  unfold readValue at failed
  split at failed
  · cases failed
    exact nofun
  · split at failed
    · split at failed
      · cases failed
        exact nofun
      · split at failed
        · cases failed
        · exact isOfText_of_readItems failed
    · split at failed
      · cases failed
        exact nofun
      · split at failed
        · cases failed
        · exact isOfText_of_readFields failed
    · exact isOfText_of_readAtom failed

theorem isOfText_of_readItems {fuel depth : Nat} {seen : List Json} {text : List Char}
    (failed : readItems fuel depth seen text = .error fault) : fault.IsOfText := by
  unfold readItems at failed
  split at failed
  · cases failed
    exact nofun
  · split at failed
    · next item =>
        cases failed
        exact isOfText_of_readValue item
    · split at failed
      · cases failed
      · exact isOfText_of_readItems failed
      · cases failed
        exact nofun

theorem isOfText_of_readFields {fuel depth : Nat} {seen : List (String × Json)} {text : List Char}
    (failed : readFields fuel depth seen text = .error fault) : fault.IsOfText := by
  unfold readFields at failed
  split at failed
  · cases failed
    exact nofun
  · split at failed
    · split at failed
      · next name =>
          cases failed
          exact isOfText_of_readText name
      · split at failed
        · split at failed
          · next value =>
              cases failed
              exact isOfText_of_readValue value
          · split at failed
            · cases failed
            · exact isOfText_of_readFields failed
            · cases failed
              exact nofun
        · cases failed
          exact nofun
    · cases failed
      exact nofun

end

theorem isOfText_of_read {document : List Char} (failed : read document = .error fault) :
    fault.IsOfText := by
  have body {document : List Char} (failed : read.readBody document = .error fault) :
      fault.IsOfText := by
    unfold read.readBody at failed
    split at failed
    · next value =>
        cases failed
        exact isOfText_of_readValue value
    · split at failed
      · cases failed
      · cases failed
        exact nofun
  unfold read at failed
  split at failed
  · split at failed
    · cases failed
      exact nofun
    · exact body failed
  · exact body failed

/-- A fault without a place is a limit of the reader. -/
theorem exists_limit_of_read {document : List Char} (failed : read document = .error fault)
    (placeless : fault.kind.hasPlace = false) :
    (∃ digits, fault.kind = .longInteger digits) ∨ ∃ inObject, fault.kind = .tooDeep inObject := by
  have ofText := isOfText_of_read failed
  rw [Fault.IsOfText] at ofText
  cases kind : fault.kind with
  | longInteger digits => exact .inl ⟨digits, rfl⟩
  | tooDeep inObject => exact .inr ⟨inObject, rfl⟩
  | badBytes => exact absurd kind ofText
  | _ =>
      rw [kind] at placeless
      cases placeless

/-!
Reading what is nested.

Arrays in arrays are the plainest values of a given depth.  Their text is read as what it is as long as
the limit on nesting allows for it.
-/

/-- Arrays in arrays, one inside the other so many times. -/
def nested : Nat → Json
  | 0 => arr []
  | depth + 1 => arr [nested depth]

/-- The text of arrays in arrays, and other text behind it. -/
def nestedText : Nat → List Char → List Char
  | 0, more => '[' :: ']' :: more
  | depth + 1, more => '[' :: nestedText depth (']' :: more)

theorem nesting_nested (depth : Nat) : (nested depth).nesting = depth + 1 := by
  induction depth with
  | zero => rfl
  | succ depth ih => simp [nested, nesting, nestingOfItems, ih]

theorem exists_nestedText (depth : Nat) (more : List Char) :
    ∃ rest, nestedText depth more = '[' :: rest := by
  cases depth <;> exact ⟨_, rfl⟩

theorem skipSpace_nestedText (depth : Nat) (more : List Char) :
    skipSpace (nestedText depth more) = nestedText depth more := by
  cases depth <;> rfl

theorem lt_length_nestedText (depth : Nat) (more : List Char) :
    depth < (nestedText depth more).length := by
  induction depth generalizing more with
  | zero => exact Nat.succ_pos _
  | succ depth ih => exact Nat.succ_lt_succ (ih _)

/-- Arrays in arrays are read as what they are. -/
theorem readValue_nestedText {depth fuel limit : Nat} (more : List Char)
    (enough : 2 * depth < fuel) (allowed : depth < limit) :
    readValue fuel limit (nestedText depth more) = .ok (nested depth, more) := by
  induction depth generalizing fuel limit more with
  | zero =>
      obtain ⟨fuel, rfl⟩ : ∃ less, fuel = less + 1 := ⟨fuel - 1, by omega⟩
      obtain ⟨limit, rfl⟩ : ∃ less, limit = less + 1 := ⟨limit - 1, by omega⟩
      have closed : skipSpace (']' :: more) = ']' :: more := rfl
      simp only [nestedText, readValue, closed, nested]
  | succ depth ih =>
      obtain ⟨fuel, rfl⟩ : ∃ less, fuel = less + 2 := ⟨fuel - 2, by omega⟩
      obtain ⟨limit, rfl⟩ : ∃ less, limit = less + 1 := ⟨limit - 1, by omega⟩
      have inner : readValue fuel limit (nestedText depth (']' :: more)) =
          .ok (nested depth, ']' :: more) := ih (']' :: more) (by omega) (by omega)
      have closed : skipSpace (']' :: more) = ']' :: more := rfl
      have items : readItems (fuel + 1) limit [] (nestedText depth (']' :: more)) =
          .ok (nested (depth + 1), more) := by
        rw [readItems, inner]
        simp only [closed]
        rfl
      rcases exists_nestedText depth (']' :: more) with ⟨rest, opens⟩
      have next : skipSpace ('[' :: rest) = '[' :: rest := rfl
      rw [opens] at items
      simp only [nestedText, readValue, opens, next]
      exact items

/-- An object is read field by field. -/
theorem readFields_cons {fuel limit : Nat} {seen : List (String × Json)}
    {text afterName afterColon rest : List Char} {name : String} {value : Json}
    (named : readText ('"' :: text) (text.length + 1) [] text = .ok (name, afterName))
    (colon : skipSpace afterName = ':' :: afterColon)
    (gives : readValue fuel limit (skipSpace afterColon) = .ok (value, rest)) :
    readFields (fuel + 1) limit seen ('"' :: text) =
      match skipSpace rest with
      | '\x7d' :: behind => .ok (obj (insertField name value seen), behind)
      | ',' :: more => readFields fuel limit (insertField name value seen) (skipSpace more)
      | other => .error ⟨.expectedComma, other⟩ := by
  rw [readFields]
  simp only [named, colon, gives] <;> rfl

end Json
end AnswerKey
