import AnswerKey.Proofs.Snippet.Holding

namespace AnswerKey
namespace Snippet

/-!
Fields of formatted literals.

A field opens at the first brace that is neither doubled nor part of the name of a character
(`Literal.loneBrace?`).  Adjacent literals that can be read hold a field exactly if one opens in one
of them (`holding_of_join?`), and no closing brace stands alone in front of it: what the expressions
of fields are makes no difference.
-/

namespace Literal

/-- The first brace in the body of a formatted literal that is neither doubled nor part of a name. -/
def loneBrace? (raw : Bool) : List Char → Option Char
  | [] => none
  | c :: rest =>
      if c = '\\' ∧ !raw then
        match rest with
        | 'N' :: '\x7b' :: more =>
            loneBrace? raw (more.drop ((more.takeWhile (· ≠ '\x7d')).length + 1))
        | e :: more =>
            if e = '\x7b' ∨ e = '\x7d' then loneBrace? raw (e :: more) else loneBrace? raw more
        | [] => none
      else if c = '\x7b' ∨ c = '\x7d' then
        if rest.head? = some c then loneBrace? raw (rest.drop 1) else some c
      else loneBrace? raw rest
termination_by text => text.length

/-- Behind a backslash that names no character, a brace is met again and anything else is not. -/
theorem loneBrace?_escaped {raw : Bool} {c e : Char} {more : List Char} (escape : c = '\\' ∧ !raw)
    (unnamed : ∀ name, e = 'N' → more = '\x7b' :: name → False) :
    loneBrace? raw (c :: e :: more) =
      if e = '\x7b' ∨ e = '\x7d' then loneBrace? raw (e :: more) else loneBrace? raw more := by
  rw [loneBrace?.eq_def]
  simp only [if_pos escape]

/-- Whether a brace of the given direction comes first in a literal. -/
def startsField (brace : Char) (literal : Literal) : Bool :=
  literal.isFormatted && !literal.isBytes && loneBrace? literal.isRaw literal.body == some brace

/-- Whether a literal holds a field. -/
def holdsField (literal : Literal) : Bool :=
  literal.startsField '\x7b'

/-- Whether a literal closes a field that it has not opened. -/
def isStray (literal : Literal) : Bool :=
  literal.startsField '\x7d'

theorem startsField_of_not_isFormatted {brace : Char} {literal : Literal}
    (plain : literal.isFormatted = false) : literal.startsField brace = false := by
  rw [startsField, plain]
  rfl

theorem startsField_of_isBytes {brace : Char} {literal : Literal}
    (bytes : literal.isBytes = true) : literal.startsField brace = false := by
  rw [startsField, bytes, Bool.not_true, Bool.and_false]
  rfl

end Literal

/-- Whether a piece holds a field. -/
def Piece.holdsField : Piece → Bool
  | .chunk _ => false
  | .field tree => tree.hasField

namespace Interpolation

open Literal

/-- Literal text ends at a field, or nothing is left. -/
theorem loneBrace?_of_literalRun? {raw : Bool} {fuel : Nat} {seen text run rest : List Char}
    {stop : Stop} (enough : text.length < fuel)
    (found : literalRun? raw false fuel seen text = some (run, stop, rest)) :
    (stop = .doubled → loneBrace? raw text = loneBrace? raw rest) ∧
      (stop = .brace → (rest = [] ∧ loneBrace? raw text = none) ∨
        ∃ inside, rest = '\x7b' :: inside ∧ loneBrace? raw text = some '\x7b') := by
  induction fuel generalizing seen text with
  | zero => cases enough
  | succ fuel ih =>
      unfold literalRun? at found
      split at found
      · cases found
        simp [loneBrace?]
      · next c rest' =>
          split at found
          · next escape =>
              split at found
              · next more =>
                  rw [loneBrace?.eq_def]
                  simp only [if_pos escape] at found ⊢
                  refine ih ?_ found
                  simp at enough ⊢
                  omega
              · next e more unnamed =>
                  rw [loneBrace?_escaped escape unnamed]
                  split at found
                  · next isBrace =>
                      rw [if_pos isBrace]
                      refine ih ?_ found
                      simp at enough ⊢
                      omega
                  · next noBrace =>
                      rw [if_neg noBrace]
                      refine ih ?_ found
                      simp at enough ⊢
                      omega
              · cases found
                rw [loneBrace?.eq_def]
                simp only [if_pos escape]
                simp
          · next noEscape =>
              rw [loneBrace?.eq_def]
              simp only []
              rw [if_neg noEscape]
              split at found
              · next isBrace =>
                  rw [if_pos isBrace]
                  simp only [Bool.false_eq_true, if_false] at found
                  split at found
                  · next doubled =>
                      rw [if_pos doubled]
                      cases found
                      simp
                  · next single =>
                      rw [if_neg single]
                      split at found
                      · cases found
                      · next other =>
                          cases found
                          simp_all
              · next noBrace =>
                  rw [if_neg noBrace]
                  refine ih ?_ found
                  simp at enough ⊢
                  omega

/-! ### Pieces -/

section Pieces

variable {parse : List Char → Option Tree} {raw marked : Bool}

/-- What a field yields holds a field. -/
theorem any_of_field? {level fuel : Nat} {text behind : List Char} {found : List Piece}
    (read : field? parse raw marked level fuel text = some (found, behind)) :
    found.any Piece.holdsField = true := by
  cases fuel with
  | zero => cases read
  | succ fuel =>
      unfold field? at read
      simp only [] at read
      repeat' split at read
      all_goals cases read
      -- Both ways end in a field, with or without the text of its expression in front.
      all_goals
        rw [List.any_append, Bool.or_eq_true]
        exact .inr rfl

/-- The pieces of a formatted text hold a field exactly if one opens in it, and nothing else may
come first. -/
theorem any_of_pieces? {fuel : Nat} {text left : List Char} {found : List Piece}
    (read : pieces? parse raw marked 0 fuel text = some (found, left)) :
    loneBrace? raw text = if found.any Piece.holdsField then some '\x7b' else none := by
  induction fuel generalizing text found with
  | zero => cases read
  | succ fuel ih =>
      unfold pieces? at read
      split at read
      · cases read
      · next run stop rest literal =>
          obtain ⟨onward, ended⟩ := loneBrace?_of_literalRun? (Nat.lt_succ_self _) literal
          split at read
          · cases read
          · next codes _ =>
              split at read
              · next doubled =>
                  obtain ⟨⟨others, _⟩, later, same⟩ := Option.map_eq_some_iff.mp read
                  cases same
                  rw [onward doubled, ih later]
                  rfl
              · next notDoubled =>
                  have brace : stop = .brace := by
                    cases stop with
                    | doubled => exact absurd rfl notDoubled
                    | brace => rfl
                  rcases ended brace with ⟨rfl, closed⟩ | ⟨inside, rfl, opened⟩
                  · cases read
                    rw [closed]
                    rfl
                  · simp only at read
                    split at read
                    · cases read
                    · next here behind isField =>
                        obtain ⟨⟨others, _⟩, -, same⟩ := Option.map_eq_some_iff.mp read
                        cases same
                        rw [opened, List.any_cons, List.any_append, any_of_field? isField, Bool.true_or,
                          Bool.or_true, if_pos rfl]

/-- The pieces of a literal hold a field exactly if the literal does, which is then not stray. -/
theorem any_of_piecesOf? {literal : Literal} {found : List Piece} (text : literal.isBytes = false)
    (read : piecesOf? parse marked literal = some found) :
    found.any Piece.holdsField = literal.holdsField ∧ literal.isStray = false := by
  unfold piecesOf? at read
  rw [holdsField, isStray, startsField, startsField, text]
  split at read
  · next formatted =>
      rw [formatted]
      split at read
      · next pieces =>
          cases read
          rw [any_of_pieces? pieces]
          cases found.any Piece.holdsField <;> decide
      · cases read
  · next plain =>
      obtain ⟨codes, -, rfl⟩ := Option.map_eq_some_iff.mp read
      rw [eq_false_of_ne_true plain]
      exact ⟨rfl, rfl⟩

end Pieces

/-! ### Adjacent literals -/

open Snippet.Tree

/-- What pieces hold is held by the trees they are put together to. -/
theorem holdingIn_assemble (marked lastMarked : Bool) (pending : List Nat) (pieces : List Piece) :
    (holdingIn (assemble marked lastMarked pending pieces)).2 = pieces.any Piece.holdsField := by
  fun_induction assemble marked lastMarked pending pieces with
  | case1 => rfl
  | case2 => rfl
  | case3 pending codes rest ih =>
      rw [ih]
      rfl
  | case4 tree rest ih =>
      rw [holdingIn_cons, List.any_cons, ← ih]
      rfl
  | case5 pending tree rest _ ih =>
      rw [holdingIn_cons, holdingIn_cons, List.any_cons, ← ih]
      rfl

theorem any_of_mapM_piecesOf? {parse : List Char → Option Tree} {marked : Bool}
    {literals : List Literal} {found : List (List Piece)}
    (text : literals.any (·.isBytes) = false)
    (read : literals.mapM (piecesOf? parse marked) = some found) :
    found.flatten.any Piece.holdsField = literals.any Literal.holdsField ∧
      ∀ literal ∈ literals, literal.isStray = false := by
  induction literals generalizing found with
  | nil =>
      cases read
      exact ⟨rfl, List.forall_mem_nil _⟩
  | cons literal literals ih =>
      rw [List.any_cons, Bool.or_eq_false_iff] at text
      rw [List.mapM_cons] at read
      obtain ⟨pieces, head, tail⟩ := Option.bind_eq_some_iff.mp read
      obtain ⟨others, later, same⟩ := Option.bind_eq_some_iff.mp tail
      cases same
      obtain ⟨field, settled⟩ := any_of_piecesOf? text.1 head
      obtain ⟨fields, allSettled⟩ := ih text.2 later
      rw [List.flatten_cons, List.any_append, field, fields, List.any_cons, List.forall_mem_cons]
      exact ⟨rfl, settled, allSettled⟩

/-- Adjacent literals hold no slice, and a field exactly if one of them does.  None of them is
stray. -/
theorem holding_of_join? {parse : List Char → Option Tree} {literals : List Literal} {tree : Tree}
    (read : join? parse literals = some tree) :
    tree.holding = (false, literals.any Literal.holdsField) ∧
      ∀ literal ∈ literals, literal.isStray = false := by
  unfold join? at read
  split at read
  · next bytes =>
      obtain ⟨values, -, rfl⟩ := Option.map_eq_some_iff.mp read
      rw [List.all_eq_true] at bytes
      have none : literals.any Literal.holdsField = false := by
        rw [List.any_eq_false]
        intro literal member
        rw [holdsField, startsField_of_isBytes (bytes literal member)]
        decide
      rw [none]
      exact ⟨rfl, fun literal member => startsField_of_isBytes (bytes literal member)⟩
  · split at read
    · cases read
    · next noBytes =>
        obtain ⟨found, pieces, same⟩ := Option.map_eq_some_iff.mp read
        obtain ⟨fields, settled⟩ := any_of_mapM_piecesOf? (eq_false_of_ne_true noBytes) pieces
        refine ⟨?_, settled⟩
        split at same
        · next formatted =>
          cases same
          rw [holding_joined, holdingAmong_cons, holdingAmong_nil, sup_bot_eq, holdingIn_assemble,
            fields]
        · next unformatted =>
            cases same
            rw [Bool.not_eq_true, List.any_eq_false] at unformatted
            have none : literals.any Literal.holdsField = false := by
              rw [List.any_eq_false]
              intro literal member
              rw [holdsField,
                startsField_of_not_isFormatted (eq_false_of_ne_true (unformatted literal member))]
              decide
            rw [none]
            rfl

end Interpolation
end Snippet
end AnswerKey
