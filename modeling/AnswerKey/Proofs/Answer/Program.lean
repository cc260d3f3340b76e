import AnswerKey.Answer.Match
import AnswerKey.Snippet.Dump
import AnswerKey.Proofs.Answer.Stepping

namespace AnswerKey

/-!
The program that code spells.

The normal form of code is meant to be the same program.  It is for code that is written plainly: whose
strings are in normal form themselves, whose tokens stay apart where blanks are dropped, and whose
indentation is tidy (`Answer.IsPlain`).  The tokens of such a module are found again in its normal form,
so the module is (`Answer.parse?_code`), and plainly written modules of one normal form are the same
module (`Answer.module_eq_of_code_eq`).  A string with two spaces in a row is not in normal form, and
loses one of them.
-/

/-! ### Indentation in front of a module -/

namespace Snippet
namespace Rule

open Snippet.Parser Snippet.Grammar

/-- No expression begins where one ends. -/
theorem starExpressions_of_stops (depth : Nat) {tokens : List Token} (stops : Stops tokens) :
    starExpressions (level depth) tokens = none := by
  have last : starExpressions (level depth) [.finish] = none := by
    cases depth with
    | zero => rfl
    | succ depth =>
        rw [Nat.add_comm, ← (agree_starExpressions (agrees_level 1 depth) [.finish] (by decide)).1]
        rfl
  obtain ⟨outcome, reads, -⟩ := settles_starExpressions (isSettled_level depth) 0 [] rfl
  have none := reads [.finish] ⟨_, _, rfl, rfl⟩
  rw [List.nil_append, last] at none
  rw [← List.nil_append tokens, reads tokens stops]
  cases outcome with
  | none => rfl
  | some found => cases none

/-- No statement begins with indentation. -/
theorem statement_indent (depth : Nat) (rest : List Token) :
    (level depth).statement (.indent :: rest) = none := by
  cases depth with
  | zero => rfl
  | succ depth =>
      have none := starExpressions_of_stops depth
        (show Stops (.indent :: rest) from ⟨_, _, rfl, rfl⟩)
      have simple : simpleStatement (level depth) (.indent :: rest) = Option.none := by
        change (starExpressions (level depth) (.indent :: rest)).bind _ = _
        rw [none]
        rfl
      change (simpleLine (level depth) (.indent :: rest)) = _
      change (((simpleStatement (level depth) (.indent :: rest)).bind _).bind _) = _
      rw [simple]
      rfl

theorem moduleInput_indent (depth : Nat) (rest : List Token) :
    moduleInput (level depth) (.indent :: rest) = none := by
  change (many _ _).bind _ = _
  simp only [many, statement_indent]
  rfl

end Rule
end Snippet

namespace Answer

open Text Snippet Snippet.Token
open Snippet.Lexeme (skipGap)

/-! ### Margins -/

section Margin

variable {text rest : List Char} {margin : Nat} {found : List Token × Nat}

theorem indentOf_codeRow_of_shown {c : Char} (shown : isBlank c = false) (line : List Char) :
    indentOf (codeRow (c :: line)) = 0 := by
  have noSpace : oneQuote c ≠ ' ' := mt (oneQuote_space c).mp (ne_space_of_not_isBlank shown)
  rw [codeRow, expandTabs, expandTabsFrom_shown shown, List.map_cons, codeLine_eq,
    indentOf_indented (isReduced_body _).starts, indentOf, List.takeWhile_cons_of_neg (by simpa using noSpace)]
  rfl

/-- Where all lines that show something are indented, the first token stands behind indentation. -/
theorem wide_startOf_of_margin {column : Column} {carried : Nat} {here : List Char}
    (some : 0 < margin) (least : ∀ row ∈ shown ((lines text).map codeRow), margin ≤ indentOf row)
    (spaced : IsPlainlySpaced text) (filled : here ≠ []) (noFeed : ∀ c ∈ here.head?, c ≠ '\n')
    (measured : measure? ⟨0, 0⟩ 0 text = Option.some (column, carried, here)) :
    0 < (startOf column carried).wide := by
  cases text with
  | nil =>
      cases measured
      exact absurd rfl filled
  | cons c more =>
      cases blank : isBlank c with
      | true =>
          rcases spaced c List.mem_cons_self blank with rfl | rfl | rfl
          · exact wide_of_measure? spaced.tail Nat.one_pos measured
          · exact wide_of_measure? spaced.tail (by decide : 0 < 8) measured
          · cases measured
            exact absurd rfl (noFeed _ rfl)
      | false =>
          obtain ⟨first, others, whole⟩ := exists_lines_eq more
          have noFeed : c ≠ '\n' := by
            rintro rfl
            cases blank
          have row : codeRow (c :: first) ∈ shown ((lines (c :: more)).map codeRow) := by
            rw [lines_cons noFeed, whole]
            exact mem_shown.mpr ⟨List.mem_cons_self,
              isVisible_codeRow.mpr (isVisible_cons.mpr (.inl blank))⟩
          have none := least _ row
          rw [indentOf_codeRow_of_shown blank] at none
          omega

/-- Tokens behind indentation begin with a mark of it. -/
theorem head_of_indented {column : Column} {carried : Nat} {here : List Char}
    (indented : 0 < (startOf column carried).wide) (plain : ∀ c ∈ here.head?, c ≠ '\n' ∧ c ≠ '#')
    (stepped : step .start text = stepBehind .start column carried here)
    (read : tokens? .start text = some found) : found.1.head? = some .indent := by
  have moves : moveTo? (startOf column carried) State.start.levels =
      if (startOf column carried).narrow ≤ 0 || indentLimit ≤ 1 then none
      else some ([.indent], [startOf column carried, ⟨0, 0⟩]) := if_pos indented
  rw [stepBehind_of_head plain, if_pos (by rfl : State.start.brackets.isEmpty = true)] at stepped
  rw [moves] at stepped
  split at stepped
  · rw [tokens?_eq, stepped] at read
    cases read
  · obtain ⟨tokens, count⟩ := found
    rw [tokens?_eq, stepped] at read
    obtain ⟨others, -, rfl⟩ := Cut.exists_of_prepend read
    rfl

/-- A text without indented tokens that has a margin holds no token, and is read alike in what is
written for it. -/
theorem tokens?_flow_of_margin (some : 0 < margin) (tidy : IsTidy text)
    (line : Shows text → IsTidyLine text)
    (least : ∀ row ∈ shown ((lines text).map codeRow), margin ≤ indentOf row)
    (level : found.1.head? ≠ Option.some .indent) (read : tokens? .start text = Option.some found) :
    tokens? .start (flow margin (.lead 0) text) = Option.some found := by
  induction length : text.length using Nat.strongRecOn generalizing text with
  | ind _ ih =>
      subst length
      have onward {rest : List Char} (suffix : '\n' :: rest <:+ text)
          (read : tokens? .start rest = Option.some found) :
          tokens? .start (flow margin (.lead 0) rest) = Option.some found := by
        refine ih rest.length suffix.length_le (tidy.of_suffix ((List.suffix_cons '\n' rest).trans suffix))
          (tidy.lines rest suffix) (fun row among => least row ?_) read rfl
        obtain ⟨front, rfl⟩ := suffix
        rw [lines_append_feed, List.map_append, shown_append]
        exact List.mem_append_right _ among
      cases @lineStart_of_tokens? .start text .start margin found tidy line rfl rfl read with
      | blank rest suffix stepped written =>
          rw [tokens?_of_go stepped, prepend_nil] at read
          rw [written]
          exact onward suffix read
      | comment rest suffix stepped stepped' =>
          rw [tokens?_of_go stepped, prepend_nil] at read
          rw [tokens?_of_go stepped', prepend_nil]
          exact onward suffix read
      | lastComment stepped stepped' =>
          rw [tokens?_of_go stepped] at read
          rw [tokens?_of_go stepped', read]
      | token column column' carried carried' here measured suffix _ plain _ _ ends stepped _ =>
          by_cases empty : here = []
          · obtain rfl := ends empty
            exact read
          · have indented := wide_startOf_of_margin some least tidy.spaced empty
              (fun c head => (plain c head).1) measured
            exact absurd (head_of_indented indented plain stepped read) level

end Margin

/-! ### Complete lines -/

section Closing

variable {text : List Char}

/-- A text with a line end behind its last line. -/
def closed (text : List Char) : List Char :=
  if text.getLast? = some '\n' then text else text ++ ['\n']

theorem ofModule?_eq (text : List Char) :
    Tree.ofModule? text =
      match tokens? .start (closed text) with
      | some (tokens, _) => Tree.whole? Rule.moduleInput text.length tokens
      | none => none := by
  rw [← ofChars?_eq]
  rfl

theorem length_closed_le (text : List Char) : (closed text).length ≤ text.length + 1 := by
  rw [closed]
  split
  · exact Nat.le_succ _
  · simp

/-- A line end behind the last line brings no line that shows something. -/
theorem shown_closed (text : List Char) :
    shown ((lines (closed text)).map codeRow) = shown ((lines text).map codeRow) := by
  rw [closed]
  split
  · rfl
  · rw [lines_append_feed, List.map_append, shown_append]
    exact List.append_nil _

/-- One line end more at the end of a text is not written. -/
theorem flow_closed (margin : Nat) (text : List Char) :
    flow margin (.lead 0) (closed text) = flow margin (.lead 0) (text ++ ['\n']) := by
  rw [closed]
  split
  · next ended =>
      obtain ⟨front, rfl⟩ := List.getLast?_eq_some_iff.mp ended
      have last : (Place.lead 0).behind (front ++ ['\n']) = .lead 0 := by
        rw [Place.behind, List.foldl_append]
        rfl
      rw [flow_append _ _ (front ++ ['\n']), last]
      exact (List.append_nil _).symm
  · rfl

/-- The normal form of code does not end with a line end. -/
theorem closed_codeChars (folded : fold text = text) (filled : shownRows text ≠ []) :
    closed (codeChars text) = codeChars text ++ ['\n'] := by
  rw [closed, if_neg]
  intro ended
  obtain ⟨front, whole⟩ := List.getLast?_eq_some_iff.mp ended
  have rows := lines_codeChars folded filled
  rw [whole, lines_append_feed] at rows
  have last : [] ∈ (shownRows text).map (·.drop (margin (shownRows text))) := by
    rw [← rows]
    exact List.mem_append_right _ (List.mem_singleton_self _)
  obtain ⟨row, among, nothing⟩ := List.mem_map.mp last
  have visible := isVisible_drop (margin_le among) (exists_of_mem_shownRows among).1
  rw [nothing] at visible
  exact visible.ne_nil rfl

/-- The normal form of code, with a line end behind it, is written in one pass over the text. -/
theorem tokens?_closed_codeChars (folded : fold text = text)
    (spaced : IsPlainlySpaced (unifyLineEnds text)) :
    tokens? .start (closed (codeChars text)) =
      tokens? .start (flow (margin (shownRows text)) (.lead 0) (closed (unifyLineEnds text))) := by
  rw [flow_closed]
  by_cases filled : shownRows text = []
  · have written := @flow_text 0 _ spaced fun _ _ => Nat.zero_le _
    rw [← linesOf, ← shownRows, filled] at written
    rw [codeChars_of_folded folded, layOut, ← shownRows, filled]
    change _ = tokens? .start (flow 0 (.lead 0) (unifyLineEnds text ++ ['\n']))
    rw [written]
    rfl
  · rw [closed_codeChars folded filled, codeChars_concat folded spaced filled]

end Closing

/-! ### Programs -/

/-- Code that is written plainly: without characters that compatibility replaces, in tidy lines, and
with tokens that are read again when the blanks between them are dropped. -/
structure IsPlain (text : List Char) : Prop where
  folded : fold text = text
  tidy : IsTidy (closed (unifyLineEnds text))
  tidyStart : Shows (closed (unifyLineEnds text)) → IsTidyLine (closed (unifyLineEnds text))
  kept : ∀ found, ofChars? (closed (unifyLineEnds text)) = some found → AreKept found.1

/-- ASCII code in tidy lines is plainly written if its tokens are kept. -/
theorem isPlain_of_ascii {text : List Char} {found : List Token × Nat} (ascii : IsAsciiText text)
    (tidy : IsTidy (closed (unifyLineEnds text)))
    (tidyStart : IsTidyLine (closed (unifyLineEnds text)))
    (read : ofChars? (closed (unifyLineEnds text)) = some found) (kept : AreKept found.1) :
    IsPlain text where
  folded := fold_of_ascii ascii
  tidy := tidy
  tidyStart _ := tidyStart
  kept found' read' := by
    rw [read] at read'
    cases read'
    exact kept

section Programs

variable {program : String} {tree : Tree}

/-- A module has tokens, and no indentation in front of them. -/
theorem exists_tokens_of_parse? (parsed : Tree.parse? .module program = some tree) :
    '\x00' ∉ unifyLineEnds program.toList ∧ ∃ tokens count,
      tokens? .start (closed (unifyLineEnds program.toList)) = some (tokens, count) ∧
        tokens.head? ≠ some .indent ∧
        Tree.whole? Rule.moduleInput (unifyLineEnds program.toList).length tokens = some tree := by
  rw [Tree.parse?] at parsed
  split at parsed
  · cases parsed
  · next noZero =>
      change Tree.ofModule? _ = _ at parsed
      rw [ofModule?_eq] at parsed
      split at parsed
      · next tokens count read =>
          refine ⟨by simpa using noZero, tokens, count, read, fun indented => ?_, parsed⟩
          obtain ⟨rest, rfl⟩ := List.head?_eq_some_iff.mp indented
          rw [Tree.whole?, Rule.moduleInput_indent] at parsed
          cases parsed
      · cases parsed

/-- The tokens of a plainly written module are found again in its normal form. -/
theorem tokens?_code {text : List Char} (plain : IsPlain text) {found : List Token × Nat}
    (read : tokens? .start (closed (unifyLineEnds text)) = some found)
    (level : found.1.head? ≠ some .indent) :
    tokens? .start (closed (codeChars text)) = some found := by
  have spaced : IsPlainlySpaced (unifyLineEnds text) := fun c member =>
    plain.tidy.spaced c (by rw [closed]; split <;> simp [member])
  rw [tokens?_closed_codeChars plain.folded spaced]
  have kept := plain.kept found (by rw [ofChars?_eq, read])
  by_cases none : margin (shownRows text) = 0
  · rw [none]
    exact tokens?_flow plain.tidy plain.tidyStart kept read
  · refine tokens?_flow_of_margin (Nat.pos_of_ne_zero none) plain.tidy plain.tidyStart ?_ level read
    rw [shown_closed]
    exact fun row among => margin_le among

/-- The normal form of a plainly written module is the same module. -/
theorem parse?_code (plain : IsPlain program.toList)
    (parsed : Tree.parse? .module program = some tree) :
    Tree.parse? .module (code program) = some tree := by
  obtain ⟨noZero, tokens, count, read, level, whole⟩ := exists_tokens_of_parse? parsed
  have again := tokens?_code plain read level
  have noReturn : '\r' ∉ codeChars program.toList := fun member =>
    (mem_codeChars plain.folded member).2.2.1 rfl
  have noZero' : '\x00' ∉ codeChars program.toList := fun member => by
    rcases (mem_codeChars plain.folded member).2.2.2 with same | same | same | held
    · cases same
    · cases same
    · cases same
    · exact noZero ((mem_unifyLineEnds_of_mem held).resolve_left (by decide))
  have weight_le (text : List Char) (read : tokens? .start (closed text) = some (tokens, count)) :
      weight tokens ≤ text.length + 1 := by
    rw [← ofChars?_eq] at read
    exact (Cut.of_read? read).weight_le.trans (length_closed_le text)
  rw [Tree.parse?, code, String.toList_ofList, unifyLineEnds_of_noReturn noReturn,
    if_neg (by simpa using noZero')]
  change Tree.ofModule? _ = _
  rw [ofModule?_eq, again]
  exact (Tree.whole?_eq (weight_le _ again) (weight_le _ read)).trans whole

end Programs

/-- Plainly written modules of one normal form are the same module; so an answer that is accepted as
the expected one is the same program. -/
theorem module_eq_of_code_eq {first second : String} {tree tree' : Tree}
    (plain : IsPlain first.toList) (plain' : IsPlain second.toList)
    (parsed : Tree.parse? .module first = some tree)
    (parsed' : Tree.parse? .module second = some tree') :
    (code first = code second → tree = tree') ∧
      ∀ exerciseType alternatives, Form.ofExerciseType exerciseType = .code →
        (matchExercise first exerciseType second alternatives).isCorrect = true →
          (matchExercise first exerciseType second alternatives).alternative = none → tree = tree' := by
  have one (same : code first = code second) : tree = tree' := by
    have again := parse?_code plain parsed
    rw [same, parse?_code plain' parsed'] at again
    exact (Option.some.inj again).symm
  refine ⟨one, fun exerciseType alternatives asCode correct expected => one ?_⟩
  rw [matchExercise, asCode, matchWith] at correct expected
  split at correct
  · cases correct
  · next filled =>
      rw [if_neg filled] at expected
      split at correct
      · next same => exact same
      · next other =>
          rw [if_neg other] at expected
          split at correct
          · next found =>
              rw [found] at expected
              cases expected
          · cases correct

/-- A branch that is written in two ways. -/
theorem module_eq_of_code_eq_branch :
    IsPlain "if x:\n\ty = f( 'a b' )\n".toList ∧ IsPlain "if x :\n    y=f(\"a b\")".toList ∧
      code "if x:\n\ty = f( 'a b' )\n" = code "if x :\n    y=f(\"a b\")" ∧
      ∃ tree tree', Tree.parse? .module "if x:\n\ty = f( 'a b' )\n" = some tree ∧
        Tree.parse? .module "if x :\n    y=f(\"a b\")" = some tree' ∧ tree = tree' := by
  have kept : AreKept [.keyword "if", .name "x" true, .symbol ":", .lineEnd, .indent, .name "y" true,
      .symbol "=", .name "f" true, .symbol "(", .string (.ofMark [] "a b".toList), .symbol ")",
      .lineEnd, .dedent, .finish] := by
    refine ⟨fun literal member => ?_, by decide⟩
    obtain rfl : literal = .ofMark [] "a b".toList := by simpa using member
    refine ⟨by decide, ?_⟩
    have ascii : IsAsciiText "\"a b\"".toList := by decide +kernel
    have same : codeChars "\"a b\"".toList = "\"a b\"".toList := by
      rw [codeChars_of_ascii ascii]
      decide +kernel
    have normal := isCodeForm_codeChars ascii
    rwa [same] at normal
  have plain : IsPlain "if x:\n\ty = f( 'a b' )\n".toList :=
    @isPlain_of_ascii _ (_, 0) (by decide +kernel) (by decide +kernel) (by decide +kernel)
      (by decide +kernel) kept
  have plain' : IsPlain "if x :\n    y=f(\"a b\")".toList :=
    @isPlain_of_ascii _ (_, 0) (by decide +kernel) (by decide +kernel) (by decide +kernel)
      (by decide +kernel) kept
  have same : code "if x:\n\ty = f( 'a b' )\n" = code "if x :\n    y=f(\"a b\")" := by
    rw [code, code, codeChars_of_ascii (by decide +kernel), codeChars_of_ascii (by decide +kernel)]
    decide +kernel
  obtain ⟨tree, parsed⟩ := Option.isSome_iff_exists.mp
    (by decide +kernel : (Tree.parse? .module "if x:\n\ty = f( 'a b' )\n").isSome = true)
  obtain ⟨tree', parsed'⟩ := Option.isSome_iff_exists.mp
    (by decide +kernel : (Tree.parse? .module "if x :\n    y=f(\"a b\")").isSome = true)
  exact ⟨plain, plain', same, tree, tree', parsed, parsed',
    (module_eq_of_code_eq plain plain' parsed parsed').1 same⟩

/-- Two spaces in a string are one in the normal form. -/
theorem code_spacedString :
    (Tree.parse? .module "x = 'a  b'").map Tree.dump =
        some "Module(body=[Assign(targets=[Name(id='x', ctx=Store())], value=Constant(value='a  b'))], type_ignores=[])" ∧
      (Tree.parse? .module "x = 'a b'").map Tree.dump =
        some "Module(body=[Assign(targets=[Name(id='x', ctx=Store())], value=Constant(value='a b'))], type_ignores=[])" ∧
      code "x = 'a  b'" = code "x = 'a b'" := by
  refine ⟨by decide +kernel, by decide +kernel, ?_⟩
  rw [code, code, codeChars_of_ascii (by decide +kernel), codeChars_of_ascii (by decide +kernel)]
  decide +kernel

end Answer
end AnswerKey
