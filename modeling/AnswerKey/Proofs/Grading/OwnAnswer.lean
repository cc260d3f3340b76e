import AnswerKey.Grading.Office
import AnswerKey.Proofs.Answer.Projection
import AnswerKey.Proofs.Comparison.InProcess
import AnswerKey.Proofs.Engine.Sparing
import AnswerKey.Proofs.Exercise.Configuration
import AnswerKey.Proofs.Grading.Fallback

namespace AnswerKey

/-!
Whether the expected answer of a record is a right answer.

A learner who hands in what the record expects should be right.  Exact matching sees to that, since
the answer of a record without issues is not blank.  The other strategies compare forms that an
answer may lack: there are answers without a single token, and programs that nest too deep for a
canonical form.  A record whose answer lacks the form it is compared by has no right answer at all,
and nothing else goes wrong (`Grading.gradeRecord_own_iff`).
-/

/-! ### Desks with a sandbox that serves -/

namespace Desk

open Sandbox

/-- A desk at which anything may have happened, and a sandbox that serves from now on. -/
structure Serves (desk : Desk) (number : Nat) : Prop where
  history : ∃ (bench : Bench) (launches : List Launch) (replies : List Reply),
    bench.Reachable ∧ bench.expecting launches replies = ⟨desk.host, desk.engine.loads⟩
  sandbox : ∃ sandbox, desk.host.sandbox? number = some sandbox ∧
    Site.Promising ⟨desk.host.world, sandbox⟩

variable {desk : Desk} {number : Nat}

theorem Serves.promising (serves : desk.Serves number) :
    Bench.Promising ⟨desk.host, desk.engine.loads⟩ number := by
  rcases serves.history with ⟨bench, launches, replies, reached, same⟩
  have sound := (Bench.sound_of_reachable reached).expecting launches replies
  rw [same] at sound
  exact ⟨sound, serves.sandbox⟩

/-- The desk after its engine has been given a sandbox. -/
def attachedTo (desk : Desk) (number : Nat) : Desk :=
  { desk with engine := desk.engine.attach (some number) }

theorem attached_attachedTo : (desk.attachedTo number).engine.attached = some number := by
  rw [attachedTo, Engine.attach]
  split
  · next same => exact same.symm
  · rfl

/-- Nothing is known of helpers in another sandbox, and that is true. -/
theorem promising_attachedTo (serves : desk.Serves number) :
    Bench.Promising ⟨(desk.attachedTo number).host, (desk.attachedTo number).engine.loads⟩
      number := by
  have promising := serves.promising
  rw [attachedTo, Engine.attach]
  split
  · exact promising
  · exact ⟨(promising.sound.forget .canonical).forget .tokenizer, promising.sandbox⟩

/-- A desk whose engine has a sandbox, and all goes well in that sandbox from now on. -/
structure Engaged (desk : Desk) (number : Nat) : Prop where
  attached : desk.engine.attached = some number
  promising : Bench.Promising ⟨desk.host, desk.engine.loads⟩ number

/-- The engine is ready then. -/
theorem Engaged.isReady (engaged : desk.Engaged number) : desk.isReady = true := by
  rcases engaged.promising.sandbox with ⟨sandbox, known, promising⟩
  have handle : desk.host.handle? number = some (.process sandbox) :=
    Host.handle?_of_sandbox? known
  rw [Desk.isReady, engaged.attached, Option.any_some, Host.isUsable, handle]
  exact promising.available

/-- The desk at which a strategy is carried out: a sandbox that is given is attached first. -/
def engage (desk : Desk) : Option Nat → Desk
  | some number => desk.attachedTo number
  | none => desk

/-- A sandbox that serves is given, or the engine has it already. -/
theorem Serves.engaged (serves : desk.Serves number) {handle : Option Nat}
    (used : handle.or desk.engine.attached = some number) :
    (desk.engage handle).Engaged number := by
  cases handle with
  | none => exact ⟨used, serves.promising⟩
  | some given =>
      obtain rfl : given = number := Option.some.inj used
      exact ⟨attached_attachedTo, promising_attachedTo serves⟩

end Desk

namespace Comparison

/-- A form that an answer has is the form of the same answer. -/
theorem ofWanted_self {α : Type} [BEq α] [LawfulBEq α] {form : String → Option α} {wanted : α}
    {answer : String} (formed : form answer = some wanted) (alternatives : List String) :
    ofWanted form wanted answer alternatives = { isMatch := true } := by
  rw [ofWanted, formed, if_pos (beq_self_eq_true _)]

/-- By its tokens an answer that has any is the same as itself. -/
theorem ofTokens_self {answer : String} {first : Snippet.Lexeme} {rest : List Snippet.Lexeme}
    (read : Snippet.Lexeme.ofText? answer = some (first :: rest)) (alternatives : List String) :
    ofTokens answer answer alternatives = { isMatch := true } := by
  have formed : tokens answer =
      some (((first.kind.code : Int), first.text) ::
        rest.map fun lexeme => ((lexeme.kind.code : Int), lexeme.text)) := by
    rw [tokens, read]
    rfl
  rw [ofTokens, formed]
  exact ofWanted_self formed alternatives

/-- By its tokens an answer that has none is the same as nothing. -/
theorem ofTokens_of_none {answer : String}
    (read : ∀ first rest, Snippet.Lexeme.ofText? answer ≠ some (first :: rest))
    (expected : String) (alternatives : List String) :
    ofTokens answer expected alternatives = { isMatch := false } := by
  rw [ofTokens, tokens]
  cases found : Snippet.Lexeme.ofText? answer with
  | none => rfl
  | some lexemes =>
      cases lexemes with
      | nil => rfl
      | cons first rest => exact absurd found (read first rest)

end Comparison

/-- By its canonical form an answer is the same as itself just when it has one; the alternatives are
not looked at. -/
theorem Bench.computes_compareTrees_self {options : Snippet.Canonical.Options} {answer : String}
    {form : Option String} (written : Snippet.Canonical.dump? options .auto answer = .ok form)
    (alternatives : List String) (number : Nat) :
    Bench.Computes (Bench.Promising · number)
      (Bench.compareTrees number answer answer alternatives options)
      { isMatch := form.isSome } := by
  have formed : Bench.Computes (Bench.Promising · number)
      (Bench.canonicalForm number answer options) form := by
    have made : Bench.Computes (Bench.Promising · number)
        (Bench.canonicalForm number answer options) (Comparison.canonicalForm options answer) :=
      Bench.computes_canonicalForm ⟨form, written⟩
    rwa [Comparison.canonicalForm, written] at made
  apply Bench.Computes.tryCatch
  refine formed.bind ?_
  cases form with
  | none => exact Bench.computes_pure _
  | some wanted =>
      refine formed.bind ?_
      rw [if_pos (beq_self_eq_true _)]
      exact Bench.computes_pure _

namespace Grading

/-- Whether an answer has what a strategy compares answers by. -/
def Strategy.CanCompare (strategy : Strategy) (answer : String) : Prop :=
  match strategy with
  | .token => ∃ first rest, Snippet.Lexeme.ofText? answer = some (first :: rest)
  | .ast => ∃ tree, Snippet.Tree.parse? .auto answer = some tree ∧
      tree.depth ≤ Snippet.Canonical.depthLimit
  | _ => True

/-- Only a text that is not well formed or nests too deep has no canonical form. -/
theorem dump?_ne_none_iff (options : Snippet.Canonical.Options) (answer : String) :
    Snippet.Canonical.dump? options .auto answer ≠ .ok none ↔ Strategy.ast.CanCompare answer := by
  rw [Strategy.CanCompare, Snippet.Canonical.dump?, Snippet.Canonical.tree?]
  cases Snippet.Tree.parse? .auto answer with
  | none => simp [pure, Except.pure]
  | some tree =>
      by_cases fits : tree.depth ≤ Snippet.Canonical.depthLimit
      · cases written : (Snippet.Canonical.ofTree options tree).dump? with
        | error fault => simp [written, fits, Functor.map, Except.map]
        | ok text => simp [written, fits, Functor.map, Except.map]
      · simp [fits, pure, Except.pure]

/-! ### What the strategies say -/

section Outcomes

variable {desk : Desk} {number : Nat} {exercise : Exercise}

/-- A result that names no alternative and is right just under a condition. -/
def Result.IsRightIff (result : Result) (condition : Prop) : Prop :=
  result.alternative = none ∧ (result.isCorrect = true ↔ condition)

/-- Exact matching finds an answer that is not blank right. -/
theorem exact_own (visible : Text.IsVisible exercise.expectedAnswer.toList) :
    (Outcome.exact exercise.expectedAnswer exercise).isCorrect = true ∧
      (Outcome.exact exercise.expectedAnswer exercise).alternative = none :=
  Answer.matchWith_self _ visible _

/-- Where exact matching stands in, an answer that is not blank is right. -/
theorem isRightIff_of_unavailable {condition : Prop} (holds : condition)
    (visible : Text.IsVisible exercise.expectedAnswer.toList) (strategy : Strategy)
    {outcome : Outcome} (unavailable : outcome.isAvailable = false) :
    (Result.ofOutcome exercise.expectedAnswer exercise strategy outcome).IsRightIff condition := by
  rw [ofOutcome_unavailable _ _ _ unavailable]
  exact ⟨(exact_own visible).2, iff_of_true (exact_own visible).1 holds⟩

/-- A strategy that could be carried out and names no alternative decides. -/
theorem isRightIff_of_available {condition : Prop} (submission : String) (exercise : Exercise)
    (strategy : Strategy) {outcome : Outcome} (available : outcome.isAvailable = true)
    (unnamed : outcome.alternative = none) (decides : outcome.isCorrect = true ↔ condition) :
    (Result.ofOutcome submission exercise strategy outcome).IsRightIff condition := by
  rw [ofOutcome_available _ _ _ available]
  exact ⟨by simp [unnamed], decides⟩

/-- A strategy is carried out once the engine is ready. -/
theorem run_tryStrategy {handle : Option Nat} (ready : (desk.engage handle).isReady = true)
    (strategy : Strategy) (language submission : String) :
    (Capabilities.ofDesk.tryStrategy strategy language submission exercise handle).run.run desk =
      (Capabilities.ofDesk.carryOut strategy submission exercise).run.run
        (desk.engage handle) := by
  have tried : (Capabilities.ofDesk.tryStrategy strategy language submission exercise
      handle).run.run desk =
        (if (desk.engage handle).isReady = true then
          Capabilities.ofDesk.carryOut strategy submission exercise
        else pure (.unavailable (language ++ " runtime is not ready"))).run.run
          (desk.engage handle) := by
    cases handle <;> rfl
  rw [tried, if_pos ready]

/-- What comes of it is the outcome of the attempt, and nothing is noted. -/
theorem run_attempt {handle : Option Nat} {submission : String} {strategy : Strategy}
    {outcome : Outcome} {after : Desk} (ready : (desk.engage handle).isReady = true)
    (carried : (Capabilities.ofDesk.carryOut strategy submission exercise).run.run
      (desk.engage handle) = (.ok outcome, after)) (language : String) :
    (attempt (some Capabilities.ofDesk) strategy language submission exercise handle).run desk =
      ((outcome, []), after) := by
  have ran := (run_tryStrategy ready strategy language submission).trans carried
  rw [attempt, StateT.run_bind, ran]
  rfl

section CarryingOut

variable {comparison : Comparison} {after : Bench} {submission : String}
  (attached : desk.engine.attached = some number)

include attached

/-- Tokens are compared at the bench of the engine. -/
theorem exists_carryOut_token
    (compared : (Bench.compareTokens number submission exercise.expectedAnswer
      exercise.acceptedSolutions).run.run ⟨desk.host, desk.engine.loads⟩ =
        (.ok comparison, after)) :
    ∃ later, (Capabilities.ofDesk.carryOut .token submission exercise).run.run desk =
      (.ok { isCorrect := comparison.isMatch, alternative := comparison.alternative },
        later) := by
  have atBench : (Desk.atBench (Bench.compareTokens number submission exercise.expectedAnswer
      exercise.acceptedSolutions)).run.run desk =
        (.ok comparison, ⟨after.host, { desk.engine with loads := after.loads }⟩) := by
    rw [Desk.run_atBench, compared]
  have asked : (Capabilities.ofDesk.compareTokens submission exercise.expectedAnswer
      exercise.acceptedSolutions).run.run desk =
        (.ok comparison, ⟨after.host, { desk.engine with loads := after.loads }⟩) :=
    (Bench.run_bind_ok _ (Desk.run_attached attached)).trans atBench
  exact ⟨_, Bench.run_bind_ok _ asked⟩

/-- So are canonical forms. -/
theorem exists_carryOut_ast
    (compared : (Bench.compareTrees number submission exercise.expectedAnswer
      exercise.acceptedSolutions .standard).run.run ⟨desk.host, desk.engine.loads⟩ =
        (.ok comparison, after)) :
    ∃ later, (Capabilities.ofDesk.carryOut .ast submission exercise).run.run desk =
      (.ok { isCorrect := comparison.isMatch, isAvailable := comparison.isAvailable,
             alternative := comparison.alternative, error := comparison.error }, later) := by
  have atBench : (Desk.atBench (Bench.compareTrees number submission exercise.expectedAnswer
      exercise.acceptedSolutions .standard)).run.run desk =
        (.ok comparison, ⟨after.host, { desk.engine with loads := after.loads }⟩) := by
    rw [Desk.run_atBench, compared]
  have looked : (Capabilities.ofDesk.compareTrees submission exercise.expectedAnswer
      exercise.acceptedSolutions .standard).run.run desk =
        (Desk.atBench (Bench.compareTrees number submission exercise.expectedAnswer
          exercise.acceptedSolutions .standard)).run.run desk := by
    rcases desk with ⟨host, engine⟩
    rcases engine with ⟨own, isOwner, settings, loads⟩
    obtain rfl : own = some number := attached
    rfl
  exact ⟨_, Bench.run_bind_ok _ (looked.trans atBench)⟩

end CarryingOut

/-- What comes of the expected answer under a strategy that compares forms. -/
theorem exists_carryOut (engaged : desk.Engaged number)
    (visible : Text.IsVisible exercise.expectedAnswer.toList) {strategy : Strategy}
    (compares : strategy ≠ .execution) :
    ∃ outcome after,
      (Capabilities.ofDesk.carryOut strategy exercise.expectedAnswer exercise).run.run desk =
          (.ok outcome, after) ∧
        (Result.ofOutcome exercise.expectedAnswer exercise strategy outcome).IsRightIff
          (strategy.CanCompare exercise.expectedAnswer) := by
  have promising := engaged.promising
  have attached := engaged.attached
  cases strategy with
  | execution => exact absurd rfl compares
  | exact =>
      have own := exact_own visible
      exact ⟨.exact exercise.expectedAnswer exercise, desk, rfl,
        isRightIff_of_available _ _ _ rfl own.2 (iff_of_true own.1 trivial)⟩
  | token =>
      rcases Bench.computes_compareTokens exercise.expectedAnswer exercise.expectedAnswer
        exercise.acceptedSolutions _ promising with ⟨after, compared, -⟩
      by_cases comparable : Strategy.token.CanCompare exercise.expectedAnswer
      · rcases comparable with ⟨first, rest, read⟩
        rw [Comparison.ofTokens_self read] at compared
        rcases exists_carryOut_token attached compared with ⟨later, carried⟩
        exact ⟨_, later, carried,
          isRightIff_of_available _ _ _ rfl rfl (iff_of_true rfl ⟨first, rest, read⟩)⟩
      · rw [Comparison.ofTokens_of_none fun first rest read => comparable ⟨first, rest, read⟩]
          at compared
        rcases exists_carryOut_token attached compared with ⟨later, carried⟩
        exact ⟨_, later, carried,
          isRightIff_of_available _ _ _ rfl rfl (iff_of_false Bool.false_ne_true comparable)⟩
  | ast =>
      cases written : Snippet.Canonical.dump? .standard .auto exercise.expectedAnswer with
      | error fault =>
          have comparable : Strategy.ast.CanCompare exercise.expectedAnswer :=
            (dump?_ne_none_iff .standard _).mp (by rw [written]; nofun)
          rcases Bench.exists_compareTrees_refused written promising exercise.expectedAnswer
            exercise.acceptedSolutions with ⟨comparison, after, compared, unavailable⟩
          rcases exists_carryOut_ast attached compared with ⟨later, carried⟩
          exact ⟨_, later, carried, isRightIff_of_unavailable comparable visible .ast unavailable⟩
      | ok form =>
          rcases Bench.computes_compareTrees_self written exercise.acceptedSolutions number _
            promising with ⟨after, compared, -⟩
          rcases exists_carryOut_ast attached compared with ⟨later, carried⟩
          have decides : form.isSome = true ↔ Strategy.ast.CanCompare exercise.expectedAnswer := by
            rw [← dump?_ne_none_iff .standard, written]
            cases form <;> simp
          exact ⟨_, later, carried, isRightIff_of_available _ _ _ rfl rfl decides⟩

end Outcomes

/-! ### Grading -/

section Grade

variable (settings : Settings) {fields : List (String × Json)} {desk : Desk} {number : Nat}

/-- The router of the desk: one language, and the settings. -/
def deskRouter (settings : Settings) : Router Desk :=
  ⟨Registry.pythonOnly .ofDesk, settings⟩

/-- The language that a record is graded in: its own, or the one of the settings. -/
def effectiveLanguage (settings : Settings) (fields : List (String × Json)) : Json :=
  Exercise.orElse (Exercise.pick fields ["language"]) (.str settings.defaultLanguage)

/-- Whether there is a runtime for the language that a record is graded in. -/
def HasRuntime (settings : Settings) (fields : List (String × Json)) : Prop :=
  ((deskRouter settings).registry.find? (effectiveLanguage settings fields).text).isSome = true

/-- The effective language is a text, for a language that is no text is not registered. -/
theorem get_effectiveLanguage {exercise : Exercise}
    (configured : Audit.Configured (deskRouter settings).registry fields exercise) :
    (deskRouter settings).registry.get ((deskRouter settings).languageOf exercise .null) =
      .ok ((deskRouter settings).registry.find? (effectiveLanguage settings fields).text) := by
  have same : (deskRouter settings).languageOf exercise .null =
      effectiveLanguage settings fields := by
    rw [effectiveLanguage, ← configured.language]
    rfl
  rw [same, effectiveLanguage, Exercise.orElse]
  split
  · next truthy =>
      rw [← configured.language] at truthy ⊢
      rcases configured.registered truthy with ⟨entry, registered⟩
      cases language : exercise.language with
      | str name => rfl
      | _ =>
          rw [language] at registered truthy
          simp [Registry.get, truthy] at registered
  · rfl

/-- The expected answer of a configured exercise is right just when its strategy can compare it, or
when there is nothing to carry the strategy out with. -/
theorem exists_grade_own {exercise : Exercise}
    (configured : Audit.Configured (deskRouter settings).registry fields exercise)
    (compares : Audit.strategyOf fields ≠ .execution) (serves : desk.Serves number) :
    ∃ result notes after,
      ((deskRouter settings).grade exercise.expectedAnswer exercise (some number) .null).run desk =
          (⟨.ok result, notes⟩, after) ∧
        result.IsRightIff (HasRuntime settings fields →
          (Audit.strategyOf fields).CanCompare exercise.expectedAnswer) := by
  have planned : (planOf exercise).1 = Audit.strategyOf fields := by rw [configured.planOf_eq]
  by_cases isExact : (planOf exercise).1 = .exact
  · have own := exact_own configured.visible
    refine ⟨_, _, _, grade_exact _ _ _ _ _ desk isExact,
      isRightIff_of_available _ _ _ rfl own.2 (iff_of_true own.1 fun _ => ?_)⟩
    rw [← planned, isExact]
    trivial
  · refine ⟨_, _, _, grade_attempt _ _ _ _ _ desk isExact
      (get_effectiveLanguage settings configured), ?_⟩
    rw [planned]
    by_cases hasRuntime : HasRuntime settings fields
    · have found : (deskRouter settings).registry.find? (effectiveLanguage settings fields).text =
          some .ofDesk := by
        have looked := hasRuntime
        rw [HasRuntime, deskRouter, Registry.find?_pythonOnly] at looked
        rw [deskRouter, Registry.find?_pythonOnly]
        split at looked
        · next same => rw [if_pos same]
        · cases looked
      have engaged : (desk.engage (some number)).Engaged number := serves.engaged rfl
      rcases exists_carryOut engaged configured.visible compares with
        ⟨outcome, after, carried, own⟩
      rw [found, run_attempt engaged.isReady carried]
      exact ⟨own.1, own.2.trans
        ⟨fun comparable _ => comparable, fun comparable => comparable hasRuntime⟩⟩
    · have missing : (deskRouter settings).registry.find?
          (effectiveLanguage settings fields).text = none := by
        simpa [HasRuntime] using hasRuntime
      rw [missing]
      exact isRightIff_of_unavailable (fun present => absurd present hasRuntime)
        configured.visible _ rfl

/-- A record whose audit finds nothing, neither faults nor signs of carelessness. -/
def IsClean (fields : List (String × Json)) : Prop :=
  Audit.issuesOf (fun name => ((Registry.pythonOnly Capabilities.ofDesk).find? name).isSome) .null
    (.obj fields) = []

instance (fields : List (String × Json)) : Decidable (IsClean fields) :=
  inferInstanceAs (Decidable (_ = _))

theorem exists_configured_of_isClean (clean : IsClean fields) :
    ∃ exercise, Exercise.ofRecord (.obj fields) = .ok exercise ∧
      Audit.Configured (deskRouter settings).registry fields exercise := by
  apply Audit.configured_of_isSound
  intro issue member
  have none : Audit.fieldIssues (fun name =>
    ((Registry.pythonOnly Capabilities.ofDesk).find? name).isSome) .null fields = [] := clean
  rw [none] at member
  cases member

theorem gradeRecord_of_ok (submission : String) (language : Json) {exercise : Exercise}
    (read : Exercise.ofRecord (.obj fields) = .ok exercise) :
    ((deskRouter settings).gradeRecord submission (.obj fields) (some number) language).run desk =
      ((deskRouter settings).grade submission exercise (some number) language).run desk := by
  rw [Router.gradeRecord, read]

end Grade

/-! ### Answers with tokens and without -/

/-- An engine at a bench that has any history, with a sandbox that serves from now on. -/
theorem serves_of_promising {bench : Bench} (reached : bench.Reachable)
    (launches : List Sandbox.Launch) (replies : List Sandbox.Reply) {number : Nat}
    {sandbox : Sandbox} (known : bench.host.sandbox? number = some sandbox)
    (promising : ((bench.expecting launches replies).site sandbox).Promising)
    (settings : Settings) :
    Desk.Serves ⟨(bench.expecting launches replies).host, ⟨none, false, settings, bench.loads⟩⟩
      number where
  history := ⟨bench, launches, replies, reached, rfl⟩
  sandbox := ⟨sandbox, known, promising⟩

/-- A desk whose only sandbox has given up its child and starts another at the next request. -/
def recoveringDesk : Desk :=
  ⟨(Bench.abandoned.expecting [] []).host, ⟨none, false, .standard, Bench.abandoned.loads⟩⟩

theorem serves_recoveringDesk : recoveringDesk.Serves 0 := by
  rcases Bench.exists_promising_abandoned with ⟨sandbox, known, -, promising⟩
  exact serves_of_promising Bench.reachable_abandoned [] [] known promising .standard

/-- A record that compares tokens. -/
def byTokens (answer : String) : List (String × Json) :=
  [("expected_answer", .str answer), ("gradingStrategy", .str "token")]

end Grading
end AnswerKey
