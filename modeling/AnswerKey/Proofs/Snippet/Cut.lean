import AnswerKey.Snippet.Parse

namespace AnswerKey
namespace Snippet
namespace Token

/-!
How a text is cut into tokens.

What the reader of tokens keeps in mind — levels, brackets and how many steps are left — only makes
it refuse texts.  A text that it reads consists of tokens, spacing and comments, one behind the other
(`Cut`), with the marks of indentation behind spacing.
-/

/-- Characters that may stand between tokens.  A backslash does so in front of a line end. -/
def isSpacing (c : Char) : Bool :=
  " \t\x0c\n\\".toList.contains c

/-- A text and its tokens.  The flag tells whether indentation may be marked. -/
inductive Cut : (fresh : Bool) → List Char → List Token → Prop where
  | finish (fresh : Bool) : Cut fresh [] [finish]
  | mark {text : List Char} {token : Token} {tokens : List Token}
      (layout : token = indent ∨ token = dedent) (tail : Cut true text tokens) :
      Cut true text (token :: tokens)
  | spacing {fresh : Bool} {c : Char} {rest : List Char} {tokens : List Token}
      (spaced : isSpacing c = true) (tail : Cut true rest tokens) : Cut fresh (c :: rest) tokens
  | lineEnd {fresh : Bool} {rest : List Char} {tokens : List Token} (tail : Cut true rest tokens) :
      Cut fresh ('\n' :: rest) (lineEnd :: tokens)
  | comment {fresh : Bool} {rest : List Char} {tokens : List Token}
      (tail : Cut false (rest.dropWhile (· ≠ '\n')) tokens) : Cut fresh ('#' :: rest) tokens
  | token {fresh : Bool} {brackets opened text rest : List Char} {token : Token}
      {tokens : List Token} (next : next? brackets text = some (token, opened, rest))
      (tail : Cut false rest tokens) : Cut fresh text (token :: tokens)

namespace Cut

variable {fresh : Bool} {text rest : List Char} {tokens more : List Token}

/-- Indentation need not be marked. -/
theorem free (cut : Cut false text tokens) : Cut fresh text tokens := by
  cases cut with
  | finish => exact .finish fresh
  | spacing spaced tail => exact .spacing spaced tail
  | lineEnd tail => exact .lineEnd tail
  | comment tail => exact .comment tail
  | token next tail => exact .token next tail

theorem marks {marks : List Token} (layout : ∀ token ∈ marks, token = indent ∨ token = dedent)
    (cut : Cut true text tokens) : Cut true text (marks ++ tokens) := by
  induction marks with
  | nil => exact cut
  | cons token marks ih =>
      rw [List.forall_mem_cons] at layout
      exact .mark layout.1 (ih layout.2)

theorem of_measure? {column found : Column} {carried count : Nat}
    (measured : measure? column carried text = some (found, count, rest))
    (cut : Cut true rest tokens) : Cut true text tokens := by
  fun_induction measure? column carried text with
  | case1 column carried text ih => exact .spacing rfl (ih measured)
  | case2 column carried text ih => exact .spacing rfl (ih measured)
  | case3 column carried text ih => exact .spacing rfl (ih measured)
  | case4 => cases measured
  | case5 column carried text filled ih => exact .spacing rfl (.spacing rfl (ih measured))
  | case6 => cases measured
  | case7 column carried text =>
      cases measured
      exact cut

theorem layout_of_closeLevels? {column : Column} {levels left : List Column} {marks : List Token}
    (closed : closeLevels? column levels = some (marks, left)) :
    ∀ token ∈ marks, token = indent ∨ token = dedent := by
  fun_induction closeLevels? column levels generalizing marks with
  | case1 => cases closed
  | case2 top below less ih =>
      obtain ⟨⟨others, _⟩, later, same⟩ := Option.map_eq_some_iff.mp closed
      cases same
      rw [List.forall_mem_cons]
      exact ⟨.inr rfl, ih later⟩
  | case3 =>
      cases closed
      exact List.forall_mem_nil _
  | case4 => cases closed

theorem layout_of_moveTo? {column : Column} {levels left : List Column} {marks : List Token}
    (moved : moveTo? column levels = some (marks, left)) :
    ∀ token ∈ marks, token = indent ∨ token = dedent := by
  unfold moveTo? at moved
  split at moved
  · cases moved
  · split at moved
    · split at moved
      · cases moved
      · cases moved
        rw [List.forall_mem_singleton]
        exact .inl rfl
    · exact layout_of_closeLevels? moved

theorem of_skipGap (cut : Cut false (Lexeme.skipGap text) tokens) : Cut false text tokens := by
  induction text with
  | nil => exact cut
  | cons c text ih =>
      rw [Lexeme.skipGap, List.dropWhile_cons] at cut
      split at cut
      · next blank =>
          refine .spacing ?_ (ih cut).free
          simp only [Bool.or_eq_true, beq_iff_eq] at blank
          rcases blank with (rfl | rfl) | rfl <;> rfl
      · exact cut

/-- A line end is what a text goes on with behind everything else. -/
theorem exists_of_dropWhile {c : Char} {behind : List Char}
    (left : text.dropWhile (· ≠ '\n') = c :: behind) : c = '\n' := by
  have stopped := List.head?_dropWhile_not (fun c => decide (c ≠ '\n')) text
  rw [left] at stopped
  simpa using stopped

theorem exists_of_prepend {α : Type} {marks found : List Token} {read : Option (List Token × α)}
    {value : α} (put : prepend marks read = some (found, value)) :
    ∃ others, read = some (others, value) ∧ found = marks ++ others := by
  unfold prepend at put
  split at put
  · cases put
    exact ⟨_, rfl, rfl⟩
  · cases put

/-- Tokens of what stands behind a logical line. -/
def Follows (after : State) (left : Option (List Char)) (more : List Token) : Prop :=
  match left with
  | none => more = [Token.finish]
  | some rest => Cut after.atLineStart rest more

/-- A logical line is cut into its tokens. -/
theorem of_line? {state after : State} {fuel : Nat} {left : Option (List Char)}
    (read : line? state fuel text = some (tokens, after, left)) (onward : Follows after left more) :
    Cut state.atLineStart text (tokens ++ more) := by
  induction fuel generalizing state text tokens with
  | zero => cases read
  | succ fuel ih =>
      unfold line? at read
      split at read
      · next starts =>
          rw [starts]
          split at read
          · cases read
          · next column carried here measured =>
              refine of_measure? measured ?_
              simp only [] at read
              split at read
              · next behind => exact .spacing rfl (starts ▸ ih read)
              · next behind =>
                  refine .comment ?_
                  rw [List.dropWhile_cons_of_pos (by decide)] at read
                  split at read
                  · next c behind left =>
                      obtain rfl := exists_of_dropWhile left
                      rw [left]
                      exact .spacing rfl (starts ▸ ih read)
                  · next left =>
                      rw [left]
                      exact ih read
              · split at read
                · split at read
                  · cases read
                  · next shown levels moved =>
                      obtain ⟨others, later, rfl⟩ := exists_of_prepend read
                      rw [List.append_assoc]
                      exact (ih later).free.marks (layout_of_moveTo? moved)
                · exact (ih read).free
      · next inside =>
          rw [Bool.not_eq_true] at inside
          rw [inside]
          refine of_skipGap ?_
          generalize Lexeme.skipGap text = here at read
          split at read
          · split at read
            · cases read
              rw [onward]
              exact .finish false
            · cases read
          · exact .comment (inside ▸ ih read)
          · split at read
            · cases read
              exact .lineEnd onward
            · exact .spacing rfl (ih read)
          · cases read
          · next rest _ =>
              have tail : Cut false rest (tokens ++ more) := inside ▸ ih read
              exact .spacing rfl (.spacing rfl tail.free)
          · split at read
            · cases read
            · next token opened rest next =>
                obtain ⟨others, later, rfl⟩ := exists_of_prepend read
                have tail := ih later
                simp only [inside] at tail
                exact .token next tail

/-- A text is cut into its tokens. -/
theorem of_read? {state : State} {fuel count : Nat}
    (read : read? state fuel text = some (tokens, count)) :
    Cut state.atLineStart text tokens := by
  induction fuel generalizing state text tokens with
  | zero => cases read
  | succ fuel ih =>
      unfold read? at read
      split at read
      · cases read
      · next shown after line =>
          cases read
          exact of_line? line rfl
      · next shown after rest line =>
          obtain ⟨others, later, rfl⟩ := exists_of_prepend read
          exact of_line? line (ih later)

theorem ne_finish_of_next? {brackets opened : List Char} {token : Token}
    (next : next? brackets text = some (token, opened, rest)) : token ≠ Token.finish := by
  unfold next? at next
  split at next
  · next mark quote body _ =>
      obtain ⟨⟨found, behind⟩, read, same⟩ := Option.map_eq_some_iff.mp next
      cases same
      obtain ⟨_, -, same⟩ := Option.map_eq_some_iff.mp read
      cases same
      exact (Token.noConfusion ·)
  · split at next
    · cases next
    · split at next
      · obtain ⟨found, word, same⟩ := Option.map_eq_some_iff.mp next
        cases same
        unfold ofWord? at word
        split at word
        · cases word
          split <;> exact (Token.noConfusion ·)
        · split at word
          · cases word
            exact (Token.noConfusion ·)
          · cases word
      · split at next
        · obtain ⟨_, -, same⟩ := Option.map_eq_some_iff.mp next
          cases same
          exact (Token.noConfusion ·)
        · split at next
          · cases next
          · obtain ⟨_, -, same⟩ := Option.map_eq_some_iff.mp next
            cases same
            exact (Token.noConfusion ·)

/-- The last token tells the end, and no other one. -/
theorem eq_nil_of_finish {first second : List Token}
    (cut : Cut fresh text (first ++ Token.finish :: second)) : second = [] := by
  generalize whole : first ++ Token.finish :: second = tokens at cut
  have behind {token : Token} {others : List Token} {first : List Token}
      (other : token ≠ Token.finish) (whole : first ++ Token.finish :: second = token :: others) :
      ∃ early, early ++ Token.finish :: second = others := by
    cases first with
    | nil => exact absurd (List.cons.inj whole).1.symm other
    | cons _ early => exact ⟨early, (List.cons.inj whole).2⟩
  induction cut generalizing first with
  | finish =>
      cases first with
      | nil => exact (List.cons.inj whole).2
      | cons _ early => simp at whole
  | mark layout _ ih =>
      obtain ⟨early, others⟩ := behind (by rcases layout with rfl | rfl <;> exact (Token.noConfusion ·)) whole
      exact ih others
  | spacing _ _ ih => exact ih whole
  | lineEnd _ ih =>
      obtain ⟨early, others⟩ := behind (Token.noConfusion ·) whole
      exact ih others
  | comment _ ih => exact ih whole
  | token next _ ih =>
      obtain ⟨early, others⟩ := behind (ne_finish_of_next? next) whole
      exact ih others

end Cut

end Token
end Snippet
end AnswerKey
