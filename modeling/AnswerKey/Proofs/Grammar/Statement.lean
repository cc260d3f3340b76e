import AnswerKey.Proofs.Grammar.Pattern
import AnswerKey.Proofs.Snippet.Cut
import AnswerKey.Proofs.Text.Lines

namespace AnswerKey
namespace Snippet
namespace Rule

/-!
What statements read.

Statements stand outside all brackets, where no surplus is kept: the colons in front of their blocks
and hints do not count.  Every statement ends with its line.
-/

open Snippet.Tree Tally Snippet.Parser

variable {g : Grammar}

/-! ### Imports -/

theorem reads_dottedText : Reads true true dottedText HoldsNothing := by
  intro tally ready
  refine (Reads.name.separated (Reads.name.behind_symbol rfl).many).bind ready ?_
  intro parts held foreign _ gathered
  obtain rfl := gathered.nothing
  exact .pure ⟨⊥, foreign, le_top, rfl, by simp⟩

theorem reads_boundAs : Reads true true boundAs HoldsNothing := by
  intro tally ready
  refine .ifKeyword (next?_of_isUncounted _ rfl) (.map ?_) (.pure ⟨⊥, _, ready, rfl, by simp⟩)
  exact Reads.name _ le_top

theorem reads_importStatement : Reads false true importStatement Holds := by
  intro tally ready
  have one : Reads false true (do
      let id ← dottedText
      Pure.pure (⟨id, ← boundAs⟩ : Alias)) HoldsNothing := by
    intro tally ready
    refine reads_dottedText.bind le_top ?_
    rintro id _ _ - rfl
    refine reads_boundAs.bind le_top ?_
    rintro bound _ foreign - rfl
    exact .pure ⟨⊥, foreign, le_top, rfl, by simp⟩
  refine (one.separated (one.behind_symbol rfl).many).bind ready ?_
  intro names held foreign _ gathered
  obtain rfl := gathered.nothing
  exact .pure ⟨⊥, foreign, le_top, by simp [Holds], by simp⟩

theorem reads_importLevel : Reads true true importLevel HoldsNothing := by
  intro tally ready
  have one : Reads true true (do
      if ← takeSymbol "..." then Pure.pure 3
      else
        symbol "."
        Pure.pure 1 : Parser Nat) HoldsNothing := by
    intro tally ready
    refine .ifSymbol (next?_of_isUncounted _ rfl) ?_ (.symbol (next?_of_isUncounted _ rfl) ?_)
    all_goals exact .pure ⟨⊥, false, le_top, rfl, by simp⟩
  refine one.many.bind ready fun points held foreign _ gathered => ?_
  obtain rfl := gathered.nothing
  exact .pure ⟨⊥, foreign, le_top, rfl, by simp⟩

theorem reads_importedNames : Reads false true importedNames HoldsNothing := by
  intro tally ready
  have one : Reads false true (do
      let id ← Parser.name
      Pure.pure (⟨id, ← boundAs⟩ : Alias)) HoldsNothing := by
    intro tally ready
    refine Reads.name.bind le_top ?_
    rintro id _ _ - rfl
    refine reads_boundAs.bind le_top ?_
    rintro bound _ foreign - rfl
    exact .pure ⟨⊥, foreign, le_top, rfl, by simp⟩
  refine .ifSymbol (next?_of_isUncounted _ rfl) (.pure ⟨⊥, false, le_top, rfl, by simp⟩)
    (.ifSymbol (next?_round _) ?_ ?_)
  · refine one.commaList.bind le_rfl ?_
    rintro ⟨names, trailing⟩ held foreign - gathered
    obtain rfl := gathered.nothing
    refine .symbol (next?_closing (tally.hold ⊥) foreign 0 (.inl rfl)) ?_
    exact .pure ⟨⊥, false, le_top, rfl, rfl⟩
  · refine one.commaList.bind ready ?_
    rintro ⟨names, trailing⟩ held foreign - gathered
    obtain rfl := gathered.nothing
    exact .ite .failure (.pure ⟨⊥, foreign, le_top, rfl, rfl⟩)

theorem reads_importFrom : Reads false true importFrom Holds := by
  intro tally ready
  refine reads_importLevel.bind le_top ?_
  rintro level _ _ - rfl
  have ends (source : Option String) (foreign : Bool) :
      Leads (tally.behind foreign) (do
        if level = 0 && source.isNone then failure
        else
          keyword "import"
          let names ← importedNames
          Pure.pure (node (.importFrom source names level) []))
        fun tree after => ∃ held foreign, foreign ≤ true ∧ Holds tree held ∧
          after = (tally.hold held).behind foreign := by
    refine .ite .failure (.keyword (next?_of_isUncounted _ rfl) ?_)
    refine reads_importedNames.bind le_rfl ?_
    rintro names _ foreign - rfl
    exact .pure ⟨⊥, foreign, le_top, by simp [Holds], by simp⟩
  rw [hold_bot]
  refine .maybe _ (reads_dottedText _ le_top) ?_ (ends none _)
  rintro source _ ⟨_, foreign, -, rfl, rfl⟩
  simpa using ends (some source) foreign

/-! ### Simple statements -/

section Rules

variable (faithful : g.IsFaithful)

omit faithful in
theorem leads_augmentedOp (tally : Tally) :
    Leads tally augmentedOp fun _ after => after = tally.behind false := by
  intro tokens op rest read
  unfold augmentedOp at read
  split at read
  · next shown left =>
      obtain ⟨found, known, same⟩ := Option.map_eq_some_iff.mp read
      cases same
      refine ⟨[.symbol shown], _, rfl, ?_, rfl⟩
      rw [run?, next?_of_isUncounted _ (isUncounted_of_lookup (by decide) known)]
      rfl
  · cases read

include faithful

theorem reads_hinted (simple : Bool) (found : Tree) :
    ReadsOutside true true (hinted g simple found) fun tree held =>
      tree.holding = found.holding ⊔ held := by
  intro tally bare _
  refine .symbol (next?_colon_outside bare) ?_
  refine faithful.expression.bind le_rfl ?_
  rintro kind _ foreign - rfl
  refine (reads_assignedValue faithful).ifSymbol rfl ?_
  rintro value _ foreign rfl
  exact .pure ⟨_, foreign, le_top, by simp; rfl, by simp⟩

theorem reads_assignment (first : Tree) :
    Reads true true (assignment g first) fun tree held => tree.holding = first.holding ⊔ held := by
  intro tally ready
  refine ((reads_assignedValue faithful).behind_symbol rfl).many.bind ready ?_
  intro others held foreign _ gathered
  have together := gathered.holdingIn
  rw [← holdingIn_reverse] at together
  split
  · next none =>
      rw [none] at together
      exact .pure ⟨held, foreign, le_top, by simp [← together], rfl⟩
  · next value between last =>
      rw [last] at together
      refine .lift fun found same => .pure ⟨held, foreign, le_top, ?_, rfl⟩
      have targets := holdingIn_retargetAll _ _ same
      rw [holdingIn_cons, holdingIn_reverse] at targets
      simp [targets, ← together, sup_left_comm, sup_comm]

theorem reads_expressionStatement : ReadsOutside false true (expressionStatement g) Holds := by
  intro tally bare ready
  refine .lookIf (isStill_atNameThen _) ?_ ?_
  · refine .name fun id foreign => ?_
    refine (reads_hinted faithful true (.name id .store) (tally.behind foreign) bare le_top).mono ?_
    rintro tree _ ⟨held, foreign, -, same, rfl⟩
    exact ⟨_, foreign, le_top, same, by simp⟩
  refine (reads_assignedValue faithful).bind ready ?_
  rintro first _ foreign - rfl
  refine .lookIf (isStill_atSymbol _) (.lift fun found same => ?_) ?_
  · refine (reads_hinted faithful false found ((tally.hold first.holding).behind foreign) bare
      le_top).mono ?_
    rintro tree _ ⟨held, foreign, -, whole, rfl⟩
    exact ⟨_, foreign, le_top, whole, by simp [holding_retargetSingle same]⟩
  · refine .maybe _ (leads_augmentedOp _) ?_ ?_
    · rintro op _ rfl
      refine .lift fun found same => (reads_assignedValue faithful).bind le_rfl ?_
      rintro value _ foreign - rfl
      refine .pure ⟨_, foreign, le_top, rfl, ?_⟩
      simp [holding_retargetSingle same]
    · refine (reads_assignment faithful first _ le_top).mono ?_
      rintro tree _ ⟨held, foreign, -, same, rfl⟩
      exact ⟨_, foreign, le_top, same, by simp⟩

theorem reads_raiseStatement : Reads false true (raiseStatement g) Holds := by
  intro tally ready
  refine (faithful.expression.maybe le_top).bind ready ?_
  rintro value? _ _ - rfl
  cases value? with
  | none => exact .pure ⟨⊥, _, le_top, by simp [Holds], rfl⟩
  | some value =>
      refine faithful.expression.ifKeyword rfl ?_
      rintro cause _ foreign rfl
      exact .pure ⟨_, foreign, le_top, rfl, by simp⟩

theorem reads_assertStatement : Reads false true (assertStatement g) Holds := by
  intro tally ready
  refine faithful.expression.bind ready ?_
  rintro test _ _ - rfl
  refine faithful.expression.ifSymbol rfl ?_
  rintro message _ foreign rfl
  exact .pure ⟨_, foreign, le_top, rfl, by simp⟩

theorem reads_deleteStatement : Reads false true (deleteStatement g) Holds := by
  intro tally ready
  have one : Reads false true (do lift (retarget? .del (← g.primary))) Holds := by
    intro tally ready
    refine faithful.primary.bind ready ?_
    rintro value _ foreign - rfl
    exact .lifted fun found same => ⟨_, foreign, le_top, holding_retarget _ _ same, rfl⟩
  refine one.commaList.bind ready ?_
  rintro ⟨found, trailing⟩ held foreign - gathered
  exact .pure ⟨held, foreign, le_top, by simpa [Holds] using gathered.holdingIn, rfl⟩

theorem reads_keywordStatement {shown : String} {p : Parser Tree}
    (known : keywordStatement? g shown = some p) :
    Token.isUncounted (.keyword shown) = true ∧ Reads false true p Holds := by
  have lone {form : Form} (plain : (node form []).holding = ⊥) :
      Reads false true (Pure.pure (node form [])) Holds := fun tally ready =>
    .pure ⟨⊥, tally.foreign, le_top, plain, by simp⟩
  have listed {form : List String → Form} (plain : ∀ ids, (node (form ids) []).holding = ⊥) :
      Reads false true (do
        let ids ← separated (symbol ",") Parser.name
        Pure.pure (node (form ids) [])) Holds := by
    intro tally ready
    refine (Reads.name.separated (Reads.name.behind_symbol rfl).many).bind le_top ?_
    intro ids held foreign _ gathered
    obtain rfl := gathered.nothing
    exact .pure ⟨⊥, foreign, le_top, plain ids, rfl⟩
  unfold keywordStatement? at known
  split at known
  · cases known
    refine ⟨rfl, fun tally ready => ?_⟩
    refine ((reads_starExpressions faithful).maybe le_top).bind ready ?_
    rintro value _ foreign - rfl
    exact .pure ⟨_, foreign, le_top, by simp [Holds], rfl⟩
  · cases known
    exact ⟨rfl, reads_importStatement⟩
  · cases known
    exact ⟨rfl, reads_importFrom⟩
  · cases known
    exact ⟨rfl, reads_raiseStatement faithful⟩
  · cases known
    exact ⟨rfl, lone (by simp)⟩
  · cases known
    exact ⟨rfl, reads_deleteStatement faithful⟩
  · cases known
    exact ⟨rfl, reads_assertStatement faithful⟩
  · cases known
    exact ⟨rfl, lone (by simp)⟩
  · cases known
    exact ⟨rfl, lone (by simp)⟩
  · cases known
    exact ⟨rfl, listed (by simp)⟩
  · cases known
    exact ⟨rfl, listed (by simp)⟩
  · cases known

theorem reads_simpleStatement : ReadsOutside false true (simpleStatement g) Holds := by
  intro tally bare ready tokens tree rest read
  unfold simpleStatement at read
  split at read
  · next shown left =>
      split at read
      · next p known =>
          obtain ⟨uncounted, reads⟩ := reads_keywordStatement faithful known
          exact (reads (tally.behind false) le_rfl).behind (next?_of_isUncounted _ uncounted) read
      · exact reads_expressionStatement faithful tally bare ready _ tree rest read
  · exact reads_expressionStatement faithful tally bare ready _ tree rest read

/-- The statements of a line hold what each of them does. -/
theorem reads_simpleLine :
    ReadsOutside false false (simpleLine g) fun body held => holdingIn body = held := by
  intro tally bare ready
  have later : ReadsOutside true true (do symbol ";"; simpleStatement g) Holds :=
    fun tally bare _ => .symbol (next?_of_isUncounted _ rfl)
      (reads_simpleStatement faithful (tally.behind false) bare le_rfl)
  refine ((reads_simpleStatement faithful).separated later.many).bind bare ready ?_
  intro found held foreign _ gathered
  have ends (foreign : Bool) : Leads ((tally.hold held).behind foreign)
      (do mark .lineEnd; Pure.pure found) fun body after => ∃ held foreign, foreign ≤ false ∧
        holdingIn body = held ∧ after = (tally.hold held).behind foreign :=
    .mark rfl (.pure ⟨held, false, le_rfl, gathered.holdingIn, rfl⟩)
  exact .takeSymbol (next?_of_isUncounted _ rfl) (ends false) (ends foreign)

/-! ### Blocks -/

theorem reads_block : ReadsOutside true false (block g) fun body held => holdingIn body = held := by
  intro tally bare _
  refine .symbol (next?_colon_outside bare) ?_
  refine .maybe (fun _ after => after = tally.behind false) (.marked rfl rfl) ?_ ?_
  · rintro _ _ rfl
    refine .mark rfl (faithful.statement.bind bare le_rfl ?_)
    rintro first _ _ settled rfl
    refine faithful.statement.many.bind bare settled fun others held foreign _ gathered => ?_
    refine .mark rfl (.pure ⟨_, false, le_rfl, rfl, ?_⟩)
    simp [gathered.holdingIn_flatten]
  · exact reads_simpleLine faithful (tally.behind false) bare le_rfl

theorem reads_blockAfter {shown : String} (uncounted : Token.isUncounted (.keyword shown) = true) :
    ReadsOutside false false (blockAfter g shown) fun body held => holdingIn body = held := by
  intro tally bare ready
  refine .ifKeyword (next?_of_isUncounted _ uncounted) ?_ (.pure ⟨⊥, tally.foreign, ready, rfl, by simp⟩)
  exact reads_block faithful (tally.behind false) bare le_top

/-! ### Compound statements -/

/-- What a condition and a block hold. -/
def HoldsBranch (found : Tree × List Tree) (held : Bool × Bool) : Prop :=
  found.1.holding ⊔ holdingIn found.2 = held

omit faithful in
/-- Each further condition stands in the alternative of the one before it. -/
theorem holdingIn_foldr_branches {branches : List (Tree × List Tree)} {held : Bool × Bool}
    (gathered : Gathers HoldsBranch branches held) (last : List Tree) :
    holdingIn (branches.foldr
      (fun (test, body) alternative => [Tree.node .ifStatement [[test], body, alternative]]) last) =
      held ⊔ holdingIn last := by
  induction branches generalizing held with
  | nil =>
      cases gathered
      exact (bot_sup_eq _).symm
  | cons branch branches ih =>
      obtain ⟨_, others, rfl, tail, rfl⟩ := gathered
      simp [ih tail, sup_assoc]

theorem reads_ifStatement : ReadsOutside false false (ifStatement g) Holds := by
  intro tally bare ready
  have branch : ReadsOutside false false (do
      keyword "elif"
      let test ← namedExpression g
      Pure.pure (test, ← block g)) HoldsBranch := by
    intro tally bare _
    refine .keyword (next?_of_isUncounted _ rfl) ((reads_namedExpression faithful).bind le_rfl ?_)
    rintro test _ foreign - rfl
    refine (reads_block faithful).bind bare le_top ?_
    rintro body _ foreign settled rfl
    exact .pure ⟨_, foreign, settled, rfl, by simp⟩
  refine (reads_namedExpression faithful).bind ready ?_
  rintro test _ foreign - rfl
  refine (reads_block faithful).bind bare le_top ?_
  rintro body _ foreign settled rfl
  refine branch.many.bind bare settled fun others held foreign settled gathered => ?_
  refine (reads_blockAfter faithful rfl).bind bare settled ?_
  rintro last _ foreign settled rfl
  refine .pure ⟨_, foreign, settled, rfl, ?_⟩
  simp [holdingIn_foldr_branches gathered, sup_assoc]

theorem reads_whileStatement : ReadsOutside false false (whileStatement g) Holds := by
  intro tally bare ready
  refine (reads_namedExpression faithful).bind ready ?_
  rintro test _ foreign - rfl
  refine (reads_block faithful).bind bare le_top ?_
  rintro body _ foreign settled rfl
  refine (reads_blockAfter faithful rfl).bind bare settled ?_
  rintro alternative _ foreign settled rfl
  exact .pure ⟨_, foreign, settled, rfl, by simp [sup_assoc]⟩

theorem reads_forStatement (isAsync : Bool) :
    ReadsOutside false false (forStatement g isAsync) Holds := by
  intro tally bare ready
  refine (reads_targets faithful).bind ready ?_
  rintro found _ foreign - rfl
  refine .keyword (next?_of_isUncounted _ rfl) ((reads_starExpressions faithful).bind le_rfl ?_)
  rintro iterable _ foreign - rfl
  refine (reads_block faithful).bind bare le_top ?_
  rintro body _ foreign settled rfl
  refine (reads_blockAfter faithful rfl).bind bare settled ?_
  rintro alternative _ foreign settled rfl
  exact .pure ⟨_, foreign, settled, rfl, by simp [sup_assoc]⟩

theorem reads_handler (isGroup : Bool) : ReadsOutside false false (handler g isGroup) Holds := by
  intro tally bare _
  refine .keyword (next?_of_isUncounted _ rfl) ?_
  let bounds (kind : Option Tree) (_ : Option String) (after : Tally) : Prop :=
    ∃ foreign, after = (tally.hold (holdingIn kind.toList)).behind foreign
  have ends (kind : Option Tree) (bound : Option String) (after : Tally)
      (reached : bounds kind bound after) : Leads after (do
        let body ← block g
        Pure.pure (node (.handler bound) [kind.toList, body])) fun tree after => ∃ held foreign,
          foreign ≤ false ∧ Holds tree held ∧ after = (tally.hold held).behind foreign := by
    obtain ⟨foreign, rfl⟩ := reached
    refine (reads_block faithful).bind bare le_top ?_
    rintro body _ foreign settled rfl
    exact .pure ⟨_, foreign, settled, rfl, by simp⟩
  have named (kind : Option Tree) (foreign : Bool) :
      Leads ((tally.hold (holdingIn kind.toList)).behind foreign) boundAs (bounds kind) := by
    refine (reads_boundAs _ le_top).mono ?_
    rintro bound _ ⟨_, foreign, -, rfl, rfl⟩
    exact ⟨foreign, by simp⟩
  cases isGroup
  · simp only [Bool.false_eq_true, if_false]
    refine (faithful.expression.maybe le_top).bind le_rfl ?_
    rintro kind _ foreign - rfl
    exact .ite (.bind _ (named kind foreign) (ends kind))
      (.bind (bounds kind) (.pure ⟨foreign, rfl⟩) (ends kind))
  · simp only [if_true]
    refine .symbol (next?_of_isUncounted _ rfl) (faithful.expression.some.bind le_rfl ?_)
    rintro kind _ foreign - rfl
    exact .ite (.bind _ (named kind foreign) (ends kind))
      (.bind (bounds kind) (.pure ⟨foreign, rfl⟩) (ends kind))

theorem reads_tryStatement : ReadsOutside false false (tryStatement g) Holds := by
  intro tally bare ready
  refine (reads_block faithful).bind bare (le_trans ready (Bool.false_le _)) ?_
  rintro body _ foreign settled rfl
  refine (reads_handler faithful false).many.bind bare settled ?_
  rintro single _ foreign settled gathered
  obtain rfl := gathered.holdingIn
  -- What has been read behind the blocks so far, of which some may be missing.
  let seen (held : Bool × Bool) (found : List Tree) (after : Tally) : Prop := ∃ foreign ≤ false,
    after = (tally.hold (held ⊔ holdingIn found)).behind foreign
  let begun := holdingIn body ⊔ holdingIn single
  have ends (groups alternative : List Tree) (after : Tally)
      (reached : seen (begun ⊔ holdingIn groups) alternative after) : Leads after (do
        let final ← blockAfter g "finally"
        if (single ++ groups).isEmpty && final.isEmpty then failure
        else Pure.pure (node (.tryStatement (!groups.isEmpty))
          [body, single ++ groups, alternative, final])) fun tree after => ∃ held foreign,
          foreign ≤ false ∧ Holds tree held ∧ after = (tally.hold held).behind foreign := by
    obtain ⟨foreign, settled, rfl⟩ := reached
    refine (reads_blockAfter faithful rfl).bind bare settled ?_
    rintro final _ foreign settled rfl
    exact .ite .failure (.pure ⟨_, foreign, settled, rfl, by simp [begun, sup_assoc]⟩)
  have handled (groups : List Tree) (after : Tally) (reached : seen begun groups after) :
      Leads after (do
        let alternative ← if (single ++ groups).isEmpty then Pure.pure [] else blockAfter g "else"
        let final ← blockAfter g "finally"
        if (single ++ groups).isEmpty && final.isEmpty then failure
        else Pure.pure (node (.tryStatement (!groups.isEmpty))
          [body, single ++ groups, alternative, final])) fun tree after => ∃ held foreign,
          foreign ≤ false ∧ Holds tree held ∧ after = (tally.hold held).behind foreign := by
    obtain ⟨foreign, settled, rfl⟩ := reached
    refine .ite (.bind (seen (begun ⊔ holdingIn groups)) (.pure ⟨foreign, settled, by simp⟩)
      (ends groups)) (.bind (seen (begun ⊔ holdingIn groups)) ?_ (ends groups))
    have alternatives : ReadsOutside false false (blockAfter g "else") _ :=
      reads_blockAfter faithful rfl
    refine (alternatives ((tally.hold (begun ⊔ holdingIn groups)).behind foreign) bare settled).mono ?_
    rintro alternative _ ⟨_, foreign, settled, rfl, rfl⟩
    exact ⟨foreign, settled, by simp⟩
  refine .ite (.bind (seen begun) ?_ handled) (.bind (seen begun)
    (.pure ⟨foreign, settled, by simp [begun]⟩) handled)
  rw [hold_behind, hold_hold, behind_behind]
  refine ((reads_handler faithful true).many ((tally.hold begun).behind foreign) bare settled).mono ?_
  rintro groups _ ⟨_, foreign, settled, gathered, rfl⟩
  obtain rfl := gathered.holdingIn
  exact ⟨foreign, settled, by simp [begun]⟩

theorem reads_withItem : Reads false true (withItem g) Holds := by
  intro tally ready
  refine faithful.expression.bind ready ?_
  rintro manager _ _ - rfl
  refine (reads_target faithful).ifKeyword rfl ?_
  rintro found _ foreign rfl
  exact .pure ⟨_, foreign, le_top, rfl, by simp⟩

theorem reads_withItems :
    Reads false true (withItems g) fun found held => holdingIn found = held := by
  intro tally ready
  refine .orElse ?_ ?_
  · refine .symbol (next?_round _) ((reads_withItem faithful).commaList.bind le_rfl ?_)
    rintro ⟨found, trailing⟩ held foreign - gathered
    refine .symbol (next?_closing (tally.hold held) foreign 0 (.inl rfl)) ?_
    refine .lookIf (isStill_atSymbol _) (.pure ⟨held, false, le_top, ?_, rfl⟩) .failure
    exact gathered.holdingIn
  · have item := reads_withItem faithful
    refine ((item.separated (item.behind_symbol rfl).many) tally ready).mono ?_
    rintro found _ ⟨held, foreign, within, gathered, rfl⟩
    exact ⟨held, foreign, within, gathered.holdingIn, rfl⟩

theorem reads_withStatement (isAsync : Bool) :
    ReadsOutside false false (withStatement g isAsync) Holds := by
  intro tally bare ready
  refine (reads_withItems faithful).bind ready ?_
  rintro items _ foreign - rfl
  refine (reads_block faithful).bind bare le_top ?_
  rintro body _ foreign settled rfl
  exact .pure ⟨_, foreign, settled, rfl, by simp⟩

theorem reads_functionDef (isAsync : Bool) (decorators : List Tree) :
    ReadsOutside true false (functionDef g isAsync decorators) fun tree held =>
      tree.holding = holdingIn decorators ⊔ held := by
  intro tally bare _
  refine .name fun id foreign => .symbol (next?_round _) ?_
  refine .bind _ (leads_parameters faithful tally bare) ?_
  rintro found _ rfl
  refine faithful.expression.ifSymbol rfl ?_
  rintro returns _ foreign rfl
  refine (reads_block faithful).bind bare le_top ?_
  rintro body _ foreign settled rfl
  refine .pure ⟨found.holding ⊔ holdingIn returns.toList ⊔ holdingIn body, foreign, settled, ?_, by simp⟩
  simp [Parameters.holding, sup_assoc]

theorem reads_classDef (decorators : List Tree) :
    ReadsOutside true false (classDef g decorators) fun tree held =>
      tree.holding = holdingIn decorators ⊔ held := by
  intro tally bare _
  refine .name fun id foreign => ?_
  have ends (found : List Tree × List Tree) (after : Tally) (reached : ∃ foreign,
      after = (tally.hold (holdingIn found.1 ⊔ holdingIn found.2)).behind foreign) : Leads after (do
        let body ← block g
        Pure.pure (Tree.classDef id decorators found.1 found.2 body)) fun tree after =>
          ∃ held foreign, foreign ≤ false ∧ tree.holding = holdingIn decorators ⊔ held ∧
            after = (tally.hold held).behind foreign := by
    obtain ⟨foreign, rfl⟩ := reached
    refine (reads_block faithful).bind bare le_top ?_
    rintro body _ foreign settled rfl
    exact .pure ⟨_, foreign, settled, by simp [sup_assoc]; rfl, by simp [sup_assoc]⟩
  refine .ifSymbol (next?_round _) ?_ (.bind _ (.pure ⟨foreign, by simp⟩) ends)
  refine (closes_arguments faithful false).bind tally ?_
  rintro found _ rfl
  exact ends found _ ⟨false, rfl⟩

theorem reads_decorated : ReadsOutside false false (decorated g) Holds := by
  intro tally bare ready
  have decorator : Reads false false (do
      symbol "@"
      let value ← namedExpression g
      mark .lineEnd
      Pure.pure value) Holds := by
    intro tally _
    refine .symbol (next?_of_isUncounted _ rfl) ((reads_namedExpression faithful).bind le_rfl ?_)
    rintro value _ foreign - rfl
    exact .mark rfl (.pure ⟨_, false, le_rfl, rfl, rfl⟩)
  refine decorator.many.bind ready fun decorators held foreign settled gathered => ?_
  obtain rfl := gathered.holdingIn
  refine .ifKeyword (next?_of_isUncounted _ rfl) ?_ ?_
  · refine (reads_classDef faithful decorators ((tally.hold (holdingIn decorators)).behind false)
      bare le_top).mono ?_
    rintro tree _ ⟨held, foreign, settled, whole, rfl⟩
    exact ⟨_, foreign, settled, whole, by simp⟩
  · refine .takeKeyword (next?_of_isUncounted _ rfl) ?_ ?_
    all_goals
      refine .keyword (next?_of_isUncounted _ rfl) ?_
      refine (reads_functionDef faithful _ decorators
        ((tally.hold (holdingIn decorators)).behind false) bare le_top).mono ?_
      rintro tree _ ⟨held, foreign, settled, whole, rfl⟩
      exact ⟨_, foreign, settled, whole, by simp⟩

theorem reads_asyncStatement : ReadsOutside false false (asyncStatement g) Holds := by
  intro tally bare _
  refine .ifKeyword (next?_of_isUncounted _ rfl) ?_ (.ifKeyword (next?_of_isUncounted _ rfl) ?_ ?_)
  · refine (reads_functionDef faithful true [] (tally.behind false) bare le_top).mono ?_
    rintro tree _ ⟨held, foreign, settled, whole, rfl⟩
    exact ⟨_, foreign, settled, whole, by simp⟩
  · exact reads_forStatement faithful true (tally.behind false) bare le_rfl
  · exact .keyword (next?_of_isUncounted _ rfl)
      (reads_withStatement faithful true (tally.behind false) bare le_rfl)

/-! ### Cases -/

theorem reads_caseBlock : ReadsOutside false false (caseBlock g) Holds := by
  intro tally bare _
  refine .word ((reads_casePattern faithful).bind le_rfl ?_)
  rintro found _ _ - rfl
  refine (reads_namedExpression faithful).ifKeyword rfl ?_
  rintro guard _ foreign rfl
  refine (reads_block faithful).bind bare le_top ?_
  rintro body _ foreign settled rfl
  exact .pure ⟨_, foreign, settled, rfl, by simp [sup_assoc]⟩

theorem reads_subject : Reads false true (subject g) Holds := by
  intro tally ready
  refine (reads_element faithful).commaList.bind ready ?_
  rintro ⟨items, trailing⟩ held foreign - gathered
  have together := gathered.holdingIn
  dsimp only
  split
  · exact .ite .failure (.pure ⟨held, foreign, le_top, by simpa [Holds] using together, rfl⟩)
  · exact .pure ⟨held, foreign, le_top, by simpa [Holds] using together, rfl⟩

theorem reads_matchStatement : ReadsOutside true false (matchStatement g) Holds := by
  intro tally bare _
  refine .word ((reads_subject faithful).bind le_rfl ?_)
  rintro value _ foreign - rfl
  refine .symbol (next?_colon_outside bare) ?_
  refine .mark rfl (.mark rfl ((reads_caseBlock faithful).bind bare le_rfl ?_))
  rintro first _ foreign settled rfl
  refine (reads_caseBlock faithful).many.bind bare settled fun others held foreign _ gathered => ?_
  refine .mark rfl (.pure ⟨_, false, le_rfl, rfl, ?_⟩)
  simp [gathered.holdingIn, sup_assoc]

/-! ### Statements -/

theorem reads_compoundStatement {shown : String} {p : Parser Tree}
    (known : compoundStatement? g shown = some p) :
    Token.isUncounted (.keyword shown) = true ∧ ReadsOutside false false p Holds := by
  unfold compoundStatement? at known
  split at known
  · cases known
    exact ⟨rfl, reads_ifStatement faithful⟩
  · cases known
    exact ⟨rfl, reads_whileStatement faithful⟩
  · cases known
    exact ⟨rfl, reads_forStatement faithful false⟩
  · cases known
    exact ⟨rfl, reads_tryStatement faithful⟩
  · cases known
    exact ⟨rfl, reads_withStatement faithful false⟩
  · cases known
    refine ⟨rfl, fun tally bare ready => (reads_functionDef faithful false [] tally bare le_top).mono ?_⟩
    rintro tree _ ⟨held, foreign, settled, whole, rfl⟩
    exact ⟨_, foreign, settled, whole, by simp⟩
  · cases known
    refine ⟨rfl, fun tally bare ready => (reads_classDef faithful [] tally bare le_top).mono ?_⟩
    rintro tree _ ⟨held, foreign, settled, whole, rfl⟩
    exact ⟨_, foreign, settled, whole, by simp⟩
  · cases known
    exact ⟨rfl, reads_asyncStatement faithful⟩
  · cases known

theorem reads_compound : ReadsOutside false false (compound g) Holds := by
  intro tally bare ready tokens tree rest read
  unfold compound at read
  split at read
  · next shown left =>
      split at read
      · next p known =>
          obtain ⟨uncounted, reads⟩ := reads_compoundStatement faithful known
          exact (reads (tally.behind false) bare le_rfl).behind (next?_of_isUncounted _ uncounted) read
      · cases read
  · exact reads_decorated faithful tally bare ready _ tree rest read
  · exact reads_matchStatement faithful tally bare le_top _ tree rest read
  · cases read

theorem reads_statement :
    ReadsOutside false false (statement g) fun body held => holdingIn body = held := by
  intro tally bare ready
  refine .orElse ((reads_compound faithful).bind bare ready ?_) (reads_simpleLine faithful tally bare ready)
  rintro single _ foreign settled rfl
  exact .pure ⟨_, foreign, settled, rfl, by simp⟩

end Rules

end Rule

namespace Grammar

open Rule

/-- The level above a faithful one is faithful. -/
theorem isFaithful_next {g : Grammar} (faithful : g.IsFaithful) : g.next.IsFaithful where
  bitwiseOr := reads_bitwiseOr faithful
  disjunction := reads_disjunction faithful
  expression := reads_expression faithful
  factor := reads_factor faithful
  inversion := reads_inversion faithful
  primary := reads_primary faithful
  pattern := reads_pattern faithful
  statement := reads_statement faithful

/-- Every level of the grammar is faithful. -/
theorem isFaithful_level (depth : Nat) : (level depth).IsFaithful := by
  induction depth with
  | zero =>
      constructor
      case statement => exact fun _ _ _ => Leads.failure
      all_goals exact fun _ _ => Leads.failure
  | succ depth ih => exact isFaithful_next ih

end Grammar

/-!
What modules read.

The tokens of a whole module, tallied from the start, give what its tree holds.
-/

namespace Rule

open Snippet.Parser

/-- The tokens of a module lead to what its tree holds. -/
theorem run?_of_moduleInput {g : Grammar} (faithful : g.IsFaithful) {tokens rest : List Token}
    {tree : Tree} (read : moduleInput g tokens = some (tree, rest)) :
    ∃ used, tokens = used ++ .finish :: rest ∧
      Tally.start.run? (used ++ [.finish]) = some (Tally.start.hold tree.holding) := by
  obtain ⟨⟨body, left⟩, head, tail⟩ := Option.bind_eq_some_iff.mp read
  obtain ⟨⟨_, left'⟩, ended, same⟩ := Option.bind_eq_some_iff.mp tail
  cases same
  obtain rfl := eq_of_mark ended
  obtain ⟨used, _, rfl, run, held, foreign, -, gathered, rfl⟩ :=
    faithful.statement.many Tally.start rfl le_rfl tokens body _ head
  refine ⟨used, rfl, ?_⟩
  rw [Tally.run?_append, run, Tree.holding_module, gathered.holdingIn_flatten]
  rfl

end Rule

namespace Tree

open Token

/-- A text with a line end at its end. -/
def withLineEnd (text : List Char) : List Char :=
  if text.getLast? = some '\n' then text else text ++ ['\n']

/-- A module that can be parsed is cut into tokens that tally to what its tree holds. -/
theorem exists_cut_of_parse? {snippet : String} {tree : Tree} (noReturn : '\r' ∉ snippet.toList)
    (parsed : parse? .module snippet = some tree) :
    ∃ tokens, Cut true (withLineEnd snippet.toList) tokens ∧
      Tally.start.run? tokens = some (Tally.start.hold (tree.hasSlice, tree.hasField)) := by
  unfold parse? at parsed
  rw [Text.unifyLineEnds_of_noReturn noReturn] at parsed
  simp only [] at parsed
  split at parsed
  · cases parsed
  · unfold ofModule? at parsed
    simp only [] at parsed
    split at parsed
    · next tokens count read =>
        obtain ⟨⟨found, rest⟩, input, same⟩ := Option.map_eq_some_iff.mp parsed
        cases same
        have cut : Cut true (withLineEnd snippet.toList) tokens := Cut.of_read? read
        obtain ⟨used, rfl, run⟩ := Rule.run?_of_moduleInput (Grammar.isFaithful_level _) input
        obtain rfl := cut.eq_nil_of_finish
        exact ⟨used ++ [.finish], cut, run⟩
    · cases parsed

end Tree
end Snippet
end AnswerKey
