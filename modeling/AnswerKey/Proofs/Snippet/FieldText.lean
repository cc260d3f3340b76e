import AnswerKey.Snippet.Interpolation

namespace AnswerKey
namespace Snippet
namespace Interpolation

/-!
What the fields of a literal are read from.

The expression of a field is shorter than the literal it stands in, by its two braces at least.  So
two ways to read expressions that agree on such texts give the literal one value.
-/

variable {raw marked : Bool} {text rest shown : List Char}

/-! ### Lengths -/

theorem length_le_of_literalRun? {nested : Bool} {fuel : Nat} {seen run : List Char} {stop : Stop}
    (found : literalRun? raw nested fuel seen text = some (run, stop, rest)) :
    rest.length ≤ text.length := by
  fun_induction literalRun? raw nested fuel seen text with
  | case8 fuel seen c behind _ _ _ doubled =>
      cases found
      simp only [List.length_drop, List.length_cons]
      omega
  | _ =>
      first
      | cases found; done
      | cases found; simp; done
      | rename_i ih
        have shorter := ih found
        simp only [List.length_cons, List.length_drop] at shorter ⊢
        omega

/-- The expression of a field ends in front of something. -/
theorem length_of_expressionRun? {fuel : Nat} {quote : Option (Char × Bool)}
    {opened seen : List Char}
    (found : expressionRun? fuel quote opened seen text = some (shown, rest)) :
    shown.length + rest.length = seen.length + text.length ∧ rest ≠ [] := by
  fun_induction expressionRun? fuel quote opened seen text with
  | case15 fuel opened seen c behind _ _ _ _ doubled ih =>
      obtain ⟨whole, filled⟩ := ih found
      obtain ⟨tail, rfl⟩ := List.head?_eq_some_iff.mp doubled.1
      simp only [List.length_cons, List.drop_one, List.tail_cons] at whole ⊢
      exact ⟨by omega, filled⟩
  | _ =>
      first
      | cases found; done
      | cases found; simp; done
      | rename_i ih
        obtain ⟨whole, filled⟩ := ih found
        simp only [List.length_cons] at whole ⊢
        exact ⟨by omega, filled⟩

theorem length_le_of_takeEcho (shown text : List Char) :
    (takeEcho shown text).2.length ≤ text.length := by
  unfold takeEcho
  split
  · next more => exact Nat.le_succ_of_le (List.dropWhile_suffix _).length_le
  · exact Nat.le_refl _

theorem length_le_of_takeConversion? {conversion : Option Conversion}
    (found : takeConversion? text = some (conversion, rest)) : rest.length ≤ text.length := by
  unfold takeConversion? at found
  split at found
  · next more =>
      cases read : conversion? more with
      | none =>
          rw [read] at found
          cases found
      | some result =>
          rw [read] at found
          cases found
          unfold conversion? at read
          split at read
          · next c e behind =>
              have left : result.2 = e :: behind := by
                split at read
                · split at read
                  · cases read
                    rfl
                  · split at read
                    · cases read
                      rfl
                    · split at read
                      · cases read
                        rfl
                      · cases read
                · cases read
              rw [left]
              simp
          · cases read
  · cases found
    exact Nat.le_refl _

section Pieces

variable {parse parse' : List Char → Option Tree}

/-- Pieces leave no more than they were read from, and a field less. -/
theorem length_of_pieces? (fuel level : Nat) (text : List Char) :
    (∀ found rest, pieces? parse raw marked level fuel text = some (found, rest) →
      rest.length ≤ text.length) ∧
    ∀ found rest, field? parse raw marked level fuel text = some (found, rest) →
      rest.length < text.length := by
  induction fuel generalizing level text with
  | zero => exact ⟨nofun, nofun⟩
  | succ fuel ih =>
      constructor
      · intro found rest read
        unfold pieces? at read
        split at read
        · cases read
        · next run stop left lead =>
            have shorter := length_le_of_literalRun? lead
            split at read
            · cases read
            · split at read
              · obtain ⟨⟨others, _⟩, later, same⟩ := Option.map_eq_some_iff.mp read
                cases same
                exact Nat.le_trans ((ih level left).1 _ _ later) shorter
              · split at read
                · next inside =>
                    split at read
                    · cases read
                    · next shown behind field =>
                        obtain ⟨⟨others, _⟩, later, same⟩ := Option.map_eq_some_iff.mp read
                        cases same
                        have within := (ih level inside).2 _ _ field
                        have onward := (ih level behind).1 _ _ later
                        simp only [List.length_cons] at shorter
                        omega
                · cases read
                  exact shorter
      · intro found rest read
        unfold field? at read
        split at read
        · cases read
        · split at read
          · cases read
          · next shown left expression =>
              have bound := (length_of_expressionRun? expression).1
              split at read
              · cases read
              · split at read
                · cases read
                · next value _ =>
                    have echoed := length_le_of_takeEcho shown left
                    simp only [List.length_nil] at bound
                    dsimp only at read
                    split at read
                    · cases read
                    · next conversion behind converted =>
                        have least := length_le_of_takeConversion? converted
                        split at read
                        · cases read
                          simp only [List.length_cons] at least
                          omega
                        · next specification =>
                            split at read
                            · cases read
                            · split at read
                              · next format behind specified =>
                                  cases read
                                  have within := (ih (level + 1) specification).1 _ _ specified
                                  simp only [List.length_cons] at least within
                                  omega
                              · cases read
                        · cases read

variable {limit : Nat} (same : ∀ text, text.length + 2 ≤ limit → parse text = parse' text)

include same

/-- The pieces of a text depend on what its shorter parts are read as. -/
theorem pieces?_congr (fuel level : Nat) (text : List Char) :
    (text.length ≤ limit →
      pieces? parse raw marked level fuel text = pieces? parse' raw marked level fuel text) ∧
    (text.length < limit →
      field? parse raw marked level fuel text = field? parse' raw marked level fuel text) := by
  induction fuel generalizing level text with
  | zero => exact ⟨fun _ => rfl, fun _ => rfl⟩
  | succ fuel ih =>
      constructor
      · intro short
        unfold pieces?
        cases lead : literalRun? raw (level != 0) (text.length + 1) [] text with
        | none => rfl
        | some found =>
            obtain ⟨run, stop, left⟩ := found
            have shorter := length_le_of_literalRun? lead
            dsimp only
            cases Literal.decodeText? raw run with
            | none => rfl
            | some codes =>
                dsimp only
                rw [(ih level left).1 (by omega)]
                split
                · rfl
                · split
                  · next inside =>
                      simp only [List.length_cons] at shorter
                      rw [(ih level inside).2 (by omega)]
                      cases field : field? parse' raw marked level fuel inside with
                      | none => rfl
                      | some found =>
                          have within := (length_of_pieces? fuel level inside).2 _ _ field
                          simp only []
                          rw [(ih level found.2).1 (by omega)]
                  · rfl
      · intro short
        unfold field?
        split
        · rfl
        · cases expression : expressionRun? (text.length + 1) none [] [] text with
          | none => rfl
          | some found =>
              obtain ⟨shown, left⟩ := found
              obtain ⟨whole, filled⟩ := length_of_expressionRun? expression
              have some := List.length_pos_iff.mpr filled
              simp only [List.length_nil] at whole
              simp only []
              rw [same shown (by omega)]
              split
              · rfl
              · cases parse' shown with
                | none => rfl
                | some value =>
                    have echoed := length_le_of_takeEcho shown left
                    simp only []
                    cases converted : takeConversion? (takeEcho shown left).2 with
                    | none => rfl
                    | some found =>
                        have least := length_le_of_takeConversion? converted
                        simp only []
                        split
                        · rfl
                        · next specification ends =>
                            rw [ends, List.length_cons] at least
                            rw [(ih (level + 1) specification).1 (by omega)]
                        · rfl

/-- The value of adjacent literals depends on what texts shorter than each of them are read as. -/
theorem join?_congr {literals : List Literal}
    (short : ∀ literal ∈ literals, literal.body.length ≤ limit) :
    join? parse literals = join? parse' literals := by
  have each (marked : Bool) : ∀ literal ∈ literals,
      piecesOf? parse marked literal = piecesOf? parse' marked literal := by
    intro literal inside
    unfold piecesOf?
    rw [(pieces?_congr same _ 0 literal.body).1 (short literal inside)]
  have all (marked : Bool) :
      literals.mapM (piecesOf? parse marked) = literals.mapM (piecesOf? parse' marked) := by
    clear short
    induction literals with
    | nil => rfl
    | cons literal literals ih =>
        have both := fun marked => List.forall_mem_cons.mp (each marked)
        rw [List.mapM_cons, List.mapM_cons, (both marked).1, ih fun marked => (both marked).2]
  simp only [join?, all]

end Pieces

end Interpolation
end Snippet
end AnswerKey
