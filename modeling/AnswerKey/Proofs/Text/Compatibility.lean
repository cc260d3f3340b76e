import AnswerKey.Proofs.Text.Visible
import AnswerKey.Text.Compatibility

namespace AnswerKey
namespace Text
namespace Compatibility

/-!
Compatibility normalisation keeps visible texts visible.  Every entry of the tables that is read
keeps its code point visible; reordering only permutes code points, and a composite is never blank.
-/

/-- Code points one of which is not blank. -/
def CodesVisible (codes : List Nat) : Prop :=
  ∃ code ∈ codes, isBlankCode code = false

/-! ### Tables -/

section Lookups

variable {α β : Type} [BEq α] [LawfulBEq α] [Hashable α] [LawfulHashable α]

theorem mem_of_getElem?_insertMany {entries : List (α × β)} {map : Std.HashMap α β} {key : α}
    {value : β} (found : (map.insertMany entries)[key]? = some value) :
    (key, value) ∈ entries ∨ map[key]? = some value := by
  induction entries generalizing map with
  | nil => exact .inr (by simpa using found)
  | cons entry rest ih =>
      rcases entry with ⟨name, image⟩
      rw [Std.HashMap.insertMany_cons] at found
      rcases ih found with later | here
      · exact .inl (List.mem_cons_of_mem _ later)
      · rw [Std.HashMap.getElem?_insert] at here
        by_cases same : name = key
        · rw [if_pos (beq_iff_eq.mpr same), Option.some.injEq] at here
          exact .inl (List.mem_cons.mpr (.inl (by rw [same, here])))
        · rw [if_neg (by simpa using same)] at here
          exact .inr here

/-- What is found in a table is one of the entries it was made of. -/
theorem mem_of_getElem?_ofList {entries : List (α × β)} {key : α} {value : β}
    (found : (Std.HashMap.ofList entries)[key]? = some value) : (key, value) ∈ entries := by
  rw [Std.HashMap.ofList_eq_insertMany_empty] at found
  rcases mem_of_getElem?_insertMany found with member | here
  · exact member
  · simp at here

end Lookups

/-- The run that is found for a code point is a run of the table around that code point. -/
theorem mem_of_findBetween {table : RunTable} {code fuel low high : Nat} {run : MappedRun}
    (found : table.findBetween code fuel low high = some run) :
    run ∈ table.runs ∧ run.first ≤ code ∧ code ≤ run.last := by
  induction fuel generalizing low high with
  | zero => cases found
  | succ fuel ih =>
      simp only [RunTable.findBetween] at found
      split at found
      · split at found
        · cases found
        · next other here =>
            split at found
            · exact ih found
            · split at found
              · exact ih found
              · next notBefore notBehind =>
                  cases found
                  exact ⟨Array.mem_of_getElem? here, Nat.le_of_not_lt notBefore,
                    Nat.le_of_not_lt notBehind⟩
      · cases found

/-! ### Decomposition -/

theorem codesVisible_of_sequences {code : Nat} {images : List Nat}
    (shown : isBlankCode code = false) (found : sequences[code]? = some images) :
    CodesVisible images := by
  have member := mem_of_getElem?_ofList found
  have checked := (List.mem_filter.mp member).2
  simpa [staysVisible, shown, CodesVisible] using checked

theorem isBlankCode_of_singles {code image : Nat} (shown : isBlankCode code = false)
    (found : singles.image? code = some image) : isBlankCode image = false := by
  rw [RunTable.image?] at found
  cases here : singles.findBetween code (singles.runs.size + 1) 0 singles.runs.size with
  | none =>
      rw [here] at found
      cases found
  | some run =>
      rw [here] at found
      dsimp only at found
      split at found
      · cases found
        rcases mem_of_findBetween here with ⟨member, above, below⟩
        have checked : runStaysVisible run = true :=
          (List.mem_filter.mp (List.mem_toArray.mp member)).2
        rw [runStaysVisible, List.all_eq_true] at checked
        have kept := checked (code - run.first) (List.mem_range.mpr (by omega))
        have same : run.first + (code - run.first) = code := by omega
        simpa [staysVisible, same, shown] using kept
      · cases found

/-- Nothing blank lies among the parts of syllables. -/
theorem isBlankCode_of_hangul {code : Nat} (above : 0x1100 ≤ code) (below : code < 0x1200) :
    isBlankCode code = false := by
  simp [isBlankCode]
  omega

/-- Nothing blank lies behind the ideographic space. -/
theorem isBlankCode_of_gt {code : Nat} (behind : 0x3000 < code) : isBlankCode code = false := by
  simp [isBlankCode]
  omega

theorem codesVisible_decompose {code : Nat} (shown : isBlankCode code = false) :
    CodesVisible (decompose code) := by
  rw [decompose]
  split
  · exact ⟨code, List.mem_singleton_self code, shown⟩
  · split
    · next inside =>
        have small : (code - syllableBase) / (vowelCount * tailCount) < 19 := by
          rw [Nat.div_lt_iff_lt_mul (by decide)]
          simp only [syllableBase, syllableCount, vowelCount, tailCount] at inside ⊢
          omega
        have visible : isBlankCode
            (leadBase + (code - syllableBase) / (vowelCount * tailCount)) = false :=
          isBlankCode_of_hangul (Nat.le_add_right _ _)
            (by simp only [leadBase]; omega)
        dsimp only
        split
        all_goals exact ⟨_, List.mem_cons_self, visible⟩
    · split
      · next images found => exact codesVisible_of_sequences shown found
      · cases found : singles.image? code with
        | none => exact ⟨code, List.mem_singleton_self code, shown⟩
        | some image =>
            exact ⟨image, List.mem_singleton_self image, isBlankCode_of_singles shown found⟩

/-! ### Reordering -/

theorem perm_insertMark (mark : Nat × Nat) (marks : List (Nat × Nat)) :
    (insertMark mark marks).Perm (mark :: marks) := by
  induction marks with
  | nil => rfl
  | cons other rest ih =>
      rw [insertMark]
      split
      · rfl
      · exact (ih.cons other).trans (.swap mark other rest)

/-- Reordering loses no code point and adds none. -/
theorem perm_reorder (codes : List Nat) (marks : List (Nat × Nat)) :
    ((reorder codes marks).map (·.1)).Perm (marks.map (·.1) ++ codes) := by
  induction codes generalizing marks with
  | nil => simp [reorder]
  | cons code rest ih =>
      simp only [reorder]
      split
      · rw [List.map_append, List.map_cons]
        exact ((ih []).cons code).append_left _
      · have inserted := (perm_insertMark (code, combiningClass code) marks).map (·.1)
        exact (ih _).trans ((inserted.append_right rest).trans List.perm_middle.symm)

/-! ### Composition -/

/-- A composite is never blank. -/
theorem isBlankCode_of_compose? {first second composite : Nat}
    (composed : compose? first second = some composite) : isBlankCode composite = false := by
  rw [compose?] at composed
  split at composed
  · rw [← Option.some.inj composed]
    have behind : 0x3000 < syllableBase := by decide
    exact isBlankCode_of_gt (Nat.lt_of_lt_of_le behind (Nat.le_add_right _ _))
  · split at composed
    · next _ inside =>
        rw [← Option.some.inj composed]
        have behind : 0x3000 < first := Nat.lt_of_lt_of_le (by decide) inside.1
        exact isBlankCode_of_gt (Nat.lt_of_lt_of_le behind (Nat.le_add_right _ _))
    · have checked := (List.mem_filter.mp (mem_of_getElem?_ofList composed)).2
      simpa using checked

theorem codesVisible_composeFrom {starter blocked : Nat} {kept : List Nat}
    {rest : List (Nat × Nat)}
    (visible : CodesVisible (starter :: (kept ++ rest.map (·.1)))) :
    CodesVisible (composeFrom starter kept blocked rest) := by
  induction rest generalizing starter kept blocked with
  | nil => simpa [composeFrom, CodesVisible] using visible
  | cons entry rest ih =>
      rcases entry with ⟨code, rank⟩
      rw [composeFrom]
      split
      · next composite composed =>
          have shown : isBlankCode composite = false := by
            split at composed
            · exact isBlankCode_of_compose? composed
            · cases composed
          exact ih ⟨composite, List.mem_cons_self, shown⟩
      · split
        · rcases visible with ⟨shown, member, notBlank⟩
          rw [List.map_cons, List.mem_cons, List.mem_append] at member
          rcases member with here | before | behind
          · exact ⟨shown, by simp [here], notBlank⟩
          · exact ⟨shown, by simp [before], notBlank⟩
          · have later : CodesVisible (composeFrom code [] 0 rest) :=
              ih ⟨shown, by simpa using behind, notBlank⟩
            rcases later with ⟨other, inside, alsoShown⟩
            exact ⟨other, by simp [inside], alsoShown⟩
        · apply ih
          rcases visible with ⟨shown, member, notBlank⟩
          refine ⟨shown, ?_, notBlank⟩
          simp only [List.map_cons, List.mem_cons, List.mem_append] at member ⊢
          rcases member with here | before | same | behind
          · exact .inl here
          · exact .inr (.inl (.inr before))
          · exact .inr (.inl (.inl same))
          · exact .inr (.inr behind)

theorem codesVisible_composeAll {codes : List (Nat × Nat)}
    (visible : CodesVisible (codes.map (·.1))) : CodesVisible (composeAll codes) := by
  induction codes with
  | nil => exact visible
  | cons entry rest ih =>
      rcases entry with ⟨code, rank⟩
      rw [composeAll]
      split
      · exact codesVisible_composeFrom (by simpa using visible)
      · rcases visible with ⟨shown, member, notBlank⟩
        rcases List.mem_cons.mp member with here | later
        · have same : shown = code := here
          exact ⟨code, List.mem_cons_self, same ▸ notBlank⟩
        · rcases ih ⟨shown, later, notBlank⟩ with ⟨other, inside, alsoShown⟩
          exact ⟨other, List.mem_cons_of_mem _ inside, alsoShown⟩

/-! ### Texts -/

/-- A code point that is no character is replaced by one that is not blank. -/
theorem isBlank_ofNat {code : Nat} (shown : isBlankCode code = false) :
    isBlank (Char.ofNat code) = false := by
  by_cases valid : code.isValidChar
  · have same : (Char.ofNat code).toNat = code := by
      rw [Char.ofNat, dif_pos valid]
      rfl
    rw [isBlank, same]
    exact shown
  · have replaced : Char.ofNat code = '\x00' := by
      rw [Char.ofNat, dif_neg valid]
      rfl
    rw [replaced]
    decide

/-- Normalisation keeps visible texts visible. -/
theorem isVisible_normalize {text : List Char} (visible : IsVisible text) :
    IsVisible (normalize text) := by
  rw [normalize]
  split
  · exact visible
  · rcases visible with ⟨c, member, shown⟩
    have notBlank : isBlankCode c.toNat = false := shown
    rcases codesVisible_decompose notBlank with ⟨code, inside, codeShown⟩
    have decomposed : code ∈ text.flatMap fun c => decompose c.toNat :=
      List.mem_flatMap.mpr ⟨c, member, inside⟩
    have reordered : CodesVisible
        ((reorder (text.flatMap fun c => decompose c.toNat) []).map (·.1)) :=
      ⟨code, (perm_reorder _ []).mem_iff.mpr (by simpa using decomposed), codeShown⟩
    rcases codesVisible_composeAll reordered with ⟨left, kept, leftShown⟩
    exact ⟨Char.ofNat left, List.mem_map_of_mem kept, isBlank_ofNat leftShown⟩

end Compatibility
end Text
end AnswerKey
