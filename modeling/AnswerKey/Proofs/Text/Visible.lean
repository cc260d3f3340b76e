import AnswerKey.Text.Line

namespace AnswerKey
namespace Text

/-!
Visible texts: texts with a character that is not blank.  Trimming, splitting into lines, unifying
line ends and expanding tabs all work on blank characters only, so none of them makes a visible text
invisible or the other way round.
-/

/-- A text with a character that is not blank. -/
def IsVisible (text : List Char) : Prop :=
  ∃ c ∈ text, isBlank c = false

instance (text : List Char) : Decidable (IsVisible text) :=
  List.decidableBEx (fun c => isBlank c = false) text

@[simp] theorem not_isVisible_nil : ¬ IsVisible [] := by
  simp [IsVisible]

@[simp] theorem isVisible_cons {c : Char} {rest : List Char} :
    IsVisible (c :: rest) ↔ isBlank c = false ∨ IsVisible rest := by
  simp [IsVisible]

@[simp] theorem isVisible_append {first second : List Char} :
    IsVisible (first ++ second) ↔ IsVisible first ∨ IsVisible second := by
  simp [IsVisible, or_and_right, exists_or]

@[simp] theorem isVisible_reverse {text : List Char} :
    IsVisible text.reverse ↔ IsVisible text := by
  simp [IsVisible]

theorem IsVisible.ne_nil {text : List Char} (visible : IsVisible text) : text ≠ [] := by
  rintro rfl
  exact not_isVisible_nil visible

/-- A replacement that keeps every visible character visible keeps a text visible. -/
theorem IsVisible.map {text : List Char} (visible : IsVisible text) {f : Char → Char}
    (keeps : ∀ c, isBlank c = false → isBlank (f c) = false) : IsVisible (text.map f) := by
  rcases visible with ⟨c, member, shown⟩
  exact ⟨f c, List.mem_map_of_mem member, keeps c shown⟩

/-! ### Trimming -/

section Trimming

variable {p : Char → Bool} (blankOnly : ∀ c, p c = true → isBlank c = true)

include blankOnly

theorem isVisible_dropWhile (text : List Char) : IsVisible (text.dropWhile p) ↔ IsVisible text := by
  induction text with
  | nil => rfl
  | cons c rest ih =>
      rw [List.dropWhile_cons]
      by_cases dropped : p c = true
      · rw [if_pos dropped, ih, isVisible_cons, blankOnly c dropped]
        simp
      · rw [if_neg dropped]

theorem isVisible_trimRightWhile (text : List Char) :
    IsVisible (trimRightWhile p text) ↔ IsVisible text := by
  rw [trimRightWhile, isVisible_reverse, isVisible_dropWhile blankOnly, isVisible_reverse]

theorem isVisible_trimWhile (text : List Char) : IsVisible (trimWhile p text) ↔ IsVisible text := by
  rw [trimWhile, trimLeftWhile, isVisible_trimRightWhile blankOnly, isVisible_dropWhile blankOnly]

end Trimming

@[simp] theorem isVisible_trimRight {text : List Char} :
    IsVisible (trimRight text) ↔ IsVisible text :=
  isVisible_trimRightWhile (fun _ => id) text

@[simp] theorem isVisible_trim {text : List Char} : IsVisible (trim text) ↔ IsVisible text := by
  rw [trim, isVisible_trimRight, trimLeftWhile, isVisible_dropWhile fun _ => id]

/-- What starts with a character that is not blank keeps it when it is trimmed. -/
theorem trim_cons_of_not_isBlank {c : Char} (shown : isBlank c = false) (rest : List Char) :
    ∃ kept, trim (c :: rest) = c :: kept := by
  have leading : trimLeftWhile isBlank (c :: rest) = c :: rest := by
    rw [trimLeftWhile, List.dropWhile_cons_of_neg]
    simp [shown]
  rw [trim, leading, trimRight, trimRightWhile, List.reverse_cons, List.dropWhile_append]
  split
  · exact ⟨[], by simp [shown]⟩
  · exact ⟨(rest.reverse.dropWhile isBlank).reverse, by simp⟩

/-- Only texts without a visible character are trimmed away. -/
theorem trim_eq_nil_iff {text : List Char} : trim text = [] ↔ ¬ IsVisible text := by
  constructor
  · intro gone visible
    exact (isVisible_trim.mpr visible).ne_nil gone
  · intro invisible
    have gone : text.dropWhile isBlank = [] := by
      cases kept : text.dropWhile isBlank with
      | nil => rfl
      | cons c rest =>
          have shown := List.head?_dropWhile_not isBlank text
          rw [kept] at shown
          have left : IsVisible (text.dropWhile isBlank) :=
            kept ▸ isVisible_cons.mpr (.inl shown)
          exact absurd ((isVisible_dropWhile (fun _ => id) text).mp left) invisible
    rw [trim, trimLeftWhile, gone]
    rfl

/-! ### Lines -/

theorem exists_isVisible_mem_splitAt {separator : Char} {text : List Char}
    (blank : isBlank separator = true) (visible : IsVisible text) :
    ∃ piece ∈ splitAt separator text, IsVisible piece := by
  induction text with
  | nil => exact absurd visible not_isVisible_nil
  | cons c rest ih =>
      simp only [splitAt]
      split
      · next noPieces => exact absurd noPieces (splitAt_ne_nil separator rest)
      · next first others pieces =>
          rw [pieces] at ih
          split
          · next same =>
              have later : IsVisible rest := by simpa [same, blank] using visible
              rcases ih later with ⟨piece, member, shown⟩
              exact ⟨piece, List.mem_cons_of_mem _ member, shown⟩
          · rcases isVisible_cons.mp visible with here | later
            · exact ⟨c :: first, List.mem_cons_self, isVisible_cons.mpr (.inl here)⟩
            · rcases ih later with ⟨piece, member, shown⟩
              rcases List.mem_cons.mp member with same | behind
              · exact ⟨c :: first, List.mem_cons_self, isVisible_cons.mpr (.inr (same ▸ shown))⟩
              · exact ⟨piece, List.mem_cons_of_mem _ behind, shown⟩

/-- Some line of a visible text is visible. -/
theorem exists_isVisible_mem_lines {text : List Char} (visible : IsVisible text) :
    ∃ line ∈ lines text, IsVisible line :=
  exists_isVisible_mem_splitAt (by decide) visible

theorem mem_joinWith {separator piece : List Char} {pieces : List (List Char)} {c : Char}
    (member : piece ∈ pieces) (inside : c ∈ piece) : c ∈ joinWith separator pieces := by
  induction pieces with
  | nil => cases member
  | cons first rest ih =>
      cases rest with
      | nil =>
          rw [List.mem_singleton.mp member] at inside
          exact inside
      | cons second more =>
          rw [joinWith, List.mem_append]
          rcases List.mem_cons.mp member with same | later
          · exact .inl (List.mem_append.mpr (.inl (same ▸ inside)))
          · exact .inr (ih later)
          · simp

/-- A text is visible when one of its lines is. -/
theorem isVisible_unlines {pieces : List (List Char)} {piece : List Char} (member : piece ∈ pieces)
    (visible : IsVisible piece) : IsVisible (unlines pieces) := by
  rcases visible with ⟨c, inside, shown⟩
  exact ⟨c, mem_joinWith member inside, shown⟩

/-! ### Line ends and tabs -/

theorem isVisible_unifyLineEnds {text : List Char} :
    IsVisible (unifyLineEnds text) ↔ IsVisible text := by
  have returnBlank : isBlank '\r' = true := by decide
  have feedBlank : isBlank '\n' = true := by decide
  induction text using unifyLineEnds.induct with
  | case1 => rfl
  | case2 rest ih => simp [unifyLineEnds, ih, returnBlank, feedBlank]
  | case3 c rest alone ih =>
      rw [unifyLineEnds]
      · by_cases same : c = '\r'
        · simp [same, ih, returnBlank, feedBlank]
        · simp [same, ih]
      · exact alone

theorem isVisible_expandTabsFrom (width : Nat) {text : List Char} (visible : IsVisible text)
    (column : Nat) : IsVisible (expandTabsFrom width column text) := by
  induction text generalizing column with
  | nil => exact absurd visible not_isVisible_nil
  | cons c rest ih =>
      have tabBlank : isBlank '\t' = true := by decide
      rw [expandTabsFrom]
      split
      · next same =>
          have later : IsVisible rest := by simpa [same, tabBlank] using visible
          exact isVisible_append.mpr (.inr (ih later _))
      · split
        all_goals
          rcases isVisible_cons.mp visible with here | later
          · exact isVisible_cons.mpr (.inl here)
          · exact isVisible_cons.mpr (.inr (ih later _))

theorem isVisible_expandTabs (width : Nat) {text : List Char} (visible : IsVisible text) :
    IsVisible (expandTabs width text) :=
  isVisible_expandTabsFrom width visible 0

end Text
end AnswerKey
