import AnswerKey.Proofs.Grammar.Call
import AnswerKey.Proofs.Grammar.Levels

namespace AnswerKey
namespace Snippet

/-!
Expressions put between the brackets of a call.

A text that is a list of expressions is read as one up to the end of its expressions, whatever ends
them there.  So between the brackets of a call it is read as the arguments
(`Tree.ofModule?_pasted`): a comma outside all brackets makes several arguments of what is one tuple
by itself.
-/

/-! ### The end of an expression -/

namespace Token

theorem isStop_of_layout {token : Token} (layout : token.isShown = false) : token.isStop = true := by
  cases token <;> first | rfl | cases layout

theorem takeWhile_layout {token : Token} (layout : token.isShown = false) (tokens : List Token) :
    (token :: tokens).takeWhile isShown = [] :=
  List.takeWhile_cons_of_neg (by simp [layout])

/-- In front of the first mark of layout, all brackets are closed that the tokens open, and those
that are open at first. -/
theorem shuts_of_tokens? (state : State) (text : List Char) :
    ∀ found, tokens? state text = some found →
      Shuts state.brackets.length (found.1.takeWhile isShown) := by
  induction state, text using step_induction with
  | _ state text behind behindEnd =>
      rintro ⟨tokens, count⟩ read
      rw [tokens?_eq] at read
      cases stepped : step state text with
      | fail =>
          rw [stepped] at read
          cases read
      | done =>
          rw [stepped] at read
          cases read
          rw [bare_of_done stepped]
          rfl
      | lineEnd rest =>
          rw [stepped] at read
          obtain ⟨others, -, rfl⟩ := Cut.exists_of_prepend read
          rw [(of_lineEnd stepped).2.1]
          rfl
      | go marks after rest =>
          rw [stepped] at read
          obtain ⟨others, later, rfl⟩ := Cut.exists_of_prepend read
          have onward := behind _ _ _ stepped _ later
          rcases of_go stepped with ⟨token, here, rfl, next⟩ | ⟨same, layout⟩
          · obtain ⟨count, closing, -⟩ := next?_enclosed next
            rw [count] at onward
            simp only [List.singleton_append, List.takeWhile_cons_of_pos (isShown_of_next? next)]
            exact ⟨fun closes => List.length_pos_iff.mpr (closing closes), onward⟩
          · cases marks with
            | nil => exact same ▸ onward
            | cons mark marks =>
                obtain ⟨indentation, bare⟩ := layout mark List.mem_cons_self
                have hidden : mark.isShown = false := by
                  rcases indentation with rfl | rfl <;> rfl
                rw [bare, List.cons_append]
                simp only [takeWhile_layout hidden]
                rfl

end Token

/-! ### Lists of expressions -/

namespace Parser

theorem exists_of_repeatUpTo_mark {token : Token} {count : Nat} {tokens rest : List Token}
    {values : List Unit} (read : repeatUpTo (mark token) count tokens = some (values, rest)) :
    tokens = List.replicate values.length token ++ rest := by
  induction count generalizing tokens values with
  | zero =>
      cases read
      rfl
  | succ count ih =>
      cases head : mark token tokens with
      | none =>
          simp only [repeatUpTo, head] at read
          cases read
          rfl
      | some found =>
          simp only [repeatUpTo, head] at read
          obtain ⟨⟨others, _⟩, later, same⟩ := Option.map_eq_some_iff.mp read
          cases same
          rw [eq_of_mark head, ih later]
          rfl

theorem exists_of_many_mark {token : Token} {tokens rest : List Token} {values : List Unit}
    (read : many (mark token) tokens = some (values, rest)) :
    tokens = List.replicate values.length token ++ rest := by
  cases head : mark token tokens with
  | none =>
      simp only [many, head] at read
      cases read
      rfl
  | some found =>
      simp only [many, head] at read
      obtain ⟨⟨others, _⟩, later, same⟩ := Option.map_eq_some_iff.mp read
      cases same
      rw [eq_of_mark head, exists_of_repeatUpTo_mark later]
      rfl

end Parser

namespace Rule

open Snippet.Parser Snippet.Grammar

/-- Line ends and the end of the text. -/
theorem exists_of_finish {tokens rest : List Token} {taken : Unit}
    (read : finish tokens = some (taken, rest)) :
    ∃ count, tokens = List.replicate count .lineEnd ++ .finish :: rest := by
  obtain ⟨⟨values, left⟩, lines, last⟩ := Option.bind_eq_some_iff.mp read
  exact ⟨values.length, by rw [exists_of_many_mark lines, eq_of_mark last]⟩

/-- A list of expressions with nothing but layout behind it is read up to any end of an expression. -/
theorem commaList_of_layout {depth : Nat} {tokens layout : List Token} {found : List Tree × Bool}
    (shuts : Shuts 0 (tokens.takeWhile Token.isShown)) (filled : layout ≠ [])
    (hidden : ∀ token ∈ layout, token.isShown = false)
    (listed : commaList (level depth).expression tokens = some (found, layout)) {more : List Token}
    (ends : Stops more) :
    commaList (level depth).expression (tokens.filter Token.isShown ++ more) = some (found, more) := by
  obtain ⟨used, -, rfl, -⟩ :=
    (isFaithful_level depth).expression.commaList Tally.start le_rfl tokens found layout listed
  -- The tokens in front of the first mark of layout, and those from there on.
  generalize shown : (used ++ layout).takeWhile Token.isShown = early at shuts
  generalize later : (used ++ layout).dropWhile Token.isShown = rest
  have split : used ++ layout = early ++ rest := by
    rw [← shown, ← later, List.takeWhile_append_dropWhile]
  have stops : Stops rest := by
    cases rest with
    | nil =>
        obtain ⟨token, member⟩ := List.exists_mem_of_ne_nil _ filled
        have all := List.dropWhile_eq_nil_iff.mp later token (List.mem_append_right _ member)
        rw [hidden token member] at all
        cases all
    | cons token rest =>
        have layout := List.head?_dropWhile_not Token.isShown (used ++ layout)
        rw [later] at layout
        exact ⟨token, rest, rfl, Token.isStop_of_layout (by simpa using layout)⟩
  obtain ⟨outcome, reads, -⟩ := (isSettled_level depth).expression.commaList 0 early shuts
  have settled := reads rest stops
  rw [← split, listed] at settled
  obtain ⟨⟨_, left⟩, rfl, same⟩ := Option.map_eq_some_iff.mp settled.symm
  obtain ⟨rfl, rfl⟩ := Prod.mk.inj same
  rw [← List.append_assoc] at split
  have one := List.append_cancel_right split
  -- What is left is shown, as it stands in front of the layout, and is layout.
  have nothing : left = [] := by
    rw [List.eq_nil_iff_forall_not_mem]
    intro token member
    have shown := List.mem_takeWhile_imp (shown ▸ one ▸ List.mem_append_right _ member)
    rw [hidden token (List.mem_append_left _ member)] at shown
    cases shown
  subst nothing
  rw [List.append_nil] at one
  have all : (used ++ rest).filter Token.isShown = used := by
    rw [List.filter_append, List.filter_eq_self.mpr, List.filter_eq_nil_iff.mpr, List.append_nil]
    · exact fun token member => by simp [hidden token member]
    · intro token member
      rw [one, ← shown] at member
      exact List.mem_takeWhile_imp member
  rw [List.nil_append, all, one]
  exact reads more ends

/-- Levels that are deep enough for tokens list the same expressions. -/
theorem commaList_level_eq {depth depth' : Nat} {tokens : List Token} (light : weight tokens < depth)
    (light' : weight tokens < depth') : commaList (level depth).expression tokens =
      commaList (level depth').expression tokens := by
  wlog order : depth ≤ depth' generalizing depth depth'
  · exact (this light' light (by omega)).symm
  · obtain ⟨more, rfl⟩ := Nat.exists_eq_add_of_le order
    exact ((agrees_level depth more).expression.commaList tokens light).1

/-- What a whole text lists has nothing but layout behind it. -/
theorem exists_of_expressionInput {depth : Nat} {tokens rest : List Token} {tree : Tree}
    {text : List Char} {fresh : Bool} (cut : Token.Cut fresh text tokens)
    (read : expressionInput (level depth) tokens = some (tree, rest)) :
    ∃ found layout, tree = .expression (tupleOf .load found) ∧
      commaList (level depth).expression tokens = some (found, layout) ∧
      layout ≠ [] ∧ ∀ token ∈ layout, token.isShown = false := by
  obtain ⟨⟨found, behind⟩, listed, onward⟩ := Option.bind_eq_some_iff.mp read
  obtain ⟨⟨_, _⟩, last, same⟩ := Option.bind_eq_some_iff.mp onward
  cases same
  obtain ⟨count, rfl⟩ := exists_of_finish last
  obtain ⟨used, -, rfl, -⟩ :=
    (isFaithful_level depth).expression.commaList Tally.start le_rfl tokens found _ listed
  obtain rfl : rest = [] := by
    rw [← List.append_assoc] at cut
    exact cut.eq_nil_of_finish
  refine ⟨found, _, rfl, listed, List.append_ne_nil_of_right_ne_nil _ (List.cons_ne_nil _ _), ?_⟩
  intro token member
  rcases List.mem_append.mp member with line | last
  · rw [List.eq_of_mem_replicate line]
    rfl
  · rw [List.mem_singleton.mp last]
    rfl

end Rule

/-! ### The call -/

namespace Token

/-- The tokens of a text. -/
def tokensOf (text : List Char) : List Token :=
  ((ofChars? text).map (·.1)).getD []

/-- A text can stand between brackets: its own do not nest too deep for that, and it does not hide the
closing one. -/
def FitsBrackets (text : List Char) : Prop :=
  height 0 (tokensOf text) < bracketLimit ∧ ¬ HidesBracket text

instance : DecidablePred FitsBrackets :=
  fun text => inferInstanceAs (Decidable (height 0 (tokensOf text) < bracketLimit ∧ ¬ HidesBracket text))

end Token

namespace Tree

open Snippet.Parser Snippet.Token

/-- The expressions that a text lists, and whether a comma stands behind the last one. -/
def listed? (text : List Char) : Option (List Tree × Bool) :=
  (commaList (Grammar.level (min text.length nestingLimit + 10)).expression (tokensOf text)).map (·.1)

/-- A text lists the same at the level of the grammar that the arguments of a call have. -/
def LeavesRoom (text : List Char) : Prop :=
  commaList (Grammar.level (min (text.length + 7) nestingLimit + 8)).expression (tokensOf text) =
    commaList (Grammar.level (min text.length nestingLimit + 10)).expression (tokensOf text)

/-- Only what nests very deep leaves no room. -/
theorem leavesRoom_of_weight {text : List Char} (light : weight (tokensOf text) ≤ nestingLimit) :
    LeavesRoom text := by
  have short : weight (tokensOf text) ≤ text.length := by
    rw [tokensOf]
    cases cut : ofChars? text with
    | none => exact Nat.zero_le _
    | some found => exact (Cut.of_read? cut).weight_le
  exact Rule.commaList_level_eq (by omega) (by omega)

/-- The program that prints values. -/
def printed (items : List Tree) : Tree :=
  .module [.node .expr [[.node .call [[.name "print" .load], items, []]]]]

/-- A list of expressions between the brackets of a call. -/
theorem ofModule?_pasted {text : List Char} {tree : Tree} (read : ofExpression? text = some tree)
    (room : LeavesRoom text) :
    ∃ found, tree = .expression (Rule.tupleOf .load found) ∧ listed? text = some found ∧
      ofModule? ("print(".toList ++ (text ++ [')'])) =
        if FitsBrackets text then some (printed found.1) else none := by
  unfold ofExpression? at read
  split at read
  · next tokens count cut =>
      have same : tokensOf text = tokens := by
        rw [tokensOf, cut]
        rfl
      obtain ⟨⟨found, rest⟩, input, known⟩ := Option.map_eq_some_iff.mp read
      cases known
      obtain ⟨listed, layout, rfl, found, filled, hidden⟩ :=
        Rule.exists_of_expressionInput (Cut.of_read? cut) input
      refine ⟨listed, rfl, by rw [listed?, same, found]; rfl, ?_⟩
      have shuts := shuts_of_tokens? .start text _ (by rw [← ofChars?_eq]; exact cut)
      rw [LeavesRoom, same] at room
      have arguments := Rule.commaList_of_layout shuts filled hidden (room.trans found)
        (show Stops [.symbol ")", .lineEnd, .finish] from ⟨_, _, rfl, rfl⟩)
      have closed : ("print(".toList ++ (text ++ [')'])).getLast? ≠ some '\n' := by
        rw [← List.append_assoc, List.getLast?_concat]
        decide
      have size : ("print(".toList ++ (text ++ [')'])).length = text.length + 7 := by
        simp
      have fits : height 0 tokens < bracketLimit ∧ ¬ HidesBracket text ↔ FitsBrackets text := by
        rw [FitsBrackets, same]
      rw [ofModule?, if_neg closed]
      simp only [List.append_assoc, List.singleton_append]
      rw [ofChars?_call_eq cut, if_congr fits rfl rfl]
      by_cases fitting : FitsBrackets text
      · rw [if_pos fitting, if_pos fitting]
        simp only [size, whole?, Rule.moduleInput_call arguments]
        rfl
      · rw [if_neg fitting, if_neg fitting]
  · cases read

end Tree
end Snippet
end AnswerKey
