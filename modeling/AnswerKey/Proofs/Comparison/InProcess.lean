import AnswerKey.Proofs.Comparison.History
import AnswerKey.Proofs.Sandbox.Service

namespace AnswerKey

/-!
Comparing in a sandbox is comparing in place.

The forms of programs are made by a child, which may have failed in any way before and may have to
be started again.  As soon as all goes well once more, the comparison gives what it would give if
the forms were made in place, whatever has happened (`Bench.compare_eq_inPlace`): a helper that is
known to be loaded is there, and no answer belongs to another question.
-/

namespace Comparison

/-- Compare a form with those of the expected program and of the alternatives, in this order. -/
def ofWanted {α : Type} [BEq α] (form : String → Option α) (wanted : α) (expected : String)
    (alternatives : List String) : Comparison :=
  if form expected == some wanted then { isMatch := true }
  else
    match alternatives.find? fun alternative => form alternative == some wanted with
    | some alternative => { isMatch := true, alternative := some alternative }
    | none => { isMatch := false }

/-- The canonical form of a program; nothing if it cannot be parsed or written. -/
def canonicalForm (options : Snippet.Canonical.Options) (code : String) : Option String :=
  match Snippet.Canonical.dump? options .auto code with
  | .ok form => form
  | .error _ => none

/-- Compare canonical forms in place. -/
def ofTrees (options : Snippet.Canonical.Options) (submission expected : String)
    (alternatives : List String) : Comparison :=
  match canonicalForm options submission with
  | none => { isMatch := false }
  | some wanted => ofWanted (canonicalForm options) wanted expected alternatives

/-- A comparison in place can always be made, and it finds nothing at fault. -/
theorem made_ofTrees (options : Snippet.Canonical.Options) (submission expected : String)
    (alternatives : List String) :
    (ofTrees options submission expected alternatives).isAvailable = true ∧
      (ofTrees options submission expected alternatives).error = .null := by
  rw [ofTrees]
  cases canonicalForm options submission with
  | none => exact ⟨rfl, rfl⟩
  | some wanted =>
      simp only [ofWanted]
      split
      · exact ⟨rfl, rfl⟩
      · split <;> exact ⟨rfl, rfl⟩

theorem isAvailable_ofTrees (options : Snippet.Canonical.Options) (submission expected : String)
    (alternatives : List String) :
    (ofTrees options submission expected alternatives).isAvailable = true :=
  (made_ofTrees options submission expected alternatives).1

/-- The tokens of a program; nothing if it has none to compare. -/
def tokens (code : String) : Option (List (Int × String)) :=
  (Snippet.Lexeme.ofText? code).map (·.map fun lexeme => ((lexeme.kind.code : Int), lexeme.text))

/-- Compare tokens in place.  A submission without tokens is never right. -/
def ofTokens (submission expected : String) (alternatives : List String) : Comparison :=
  match tokens submission with
  | none => { isMatch := false }
  | some [] => { isMatch := false }
  | some wanted => ofWanted tokens wanted expected alternatives

end Comparison

namespace Bench

open Sandbox

/-! ### Sandboxes that serve -/

/-- A sound bench at which a sandbox is available and has a good future. -/
structure Promising (bench : Bench) (number : Nat) : Prop where
  sound : bench.Sound
  sandbox : ∃ sandbox, bench.host.sandbox? number = some sandbox ∧ (bench.site sandbox).Promising

/-- A sound bench at which a sandbox is ready and has a helper, and the worker answers. -/
structure Equipped (bench : Bench) (number : Nat) (helper : Worker.Helper) : Prop where
  sound : bench.Sound
  sandbox : ∃ sandbox, bench.host.sandbox? number = some sandbox ∧
    (bench.site sandbox).Equipped helper

theorem Equipped.promising {bench : Bench} {number : Nat} {helper : Worker.Helper}
    (equipped : bench.Equipped number helper) : bench.Promising number := by
  rcases equipped.sandbox with ⟨sandbox, known, ready, replies, -⟩
  refine ⟨equipped.sound, sandbox, known, ?_, ?_, replies⟩
  · rw [Site.isAvailable, ready]
    rfl
  · intro notReady
    rw [ready] at notReady
    cases notReady

section Errands

variable {bench : Bench} {number : Nat} {sandbox : Sandbox}

/-- An errand that goes well at a bench. -/
theorem run_perform_of_ok {errand : Errand} {value : Json} {after : Site}
    (known : bench.host.sandbox? number = some sandbox)
    (done : (bench.site sandbox).perform errand = (.ok value, after)) :
    (perform number errand).run.run bench = (.ok value, bench.update number after) := by
  rw [run_perform_of_sandbox? known, done]
  rfl

theorem sound_of_perform {errand : Errand} {outcome : Except Fault Json} {after : Site}
    (sound : bench.Sound) (known : bench.host.sandbox? number = some sandbox)
    (done : (bench.site sandbox).perform errand = (outcome, after)) :
    (bench.update number after).Sound := by
  have leads := Site.leads_perform (sound.valid number sandbox known) errand
  rw [done] at leads
  exact sound.update known leads

/-- Waiting makes the sandbox ready. -/
theorem exists_waitReady (promising : bench.Promising number) :
    ∃ after sandbox, (perform number .waitReady).run.run bench = (.ok .null, after) ∧
      after.Sound ∧ after.host.sandbox? number = some sandbox ∧
        (after.site sandbox).isReady = true ∧
          ∀ reply ∈ after.host.world.replies, reply = .worker := by
  rcases promising.sandbox with ⟨sandbox, known, promise⟩
  rcases Site.exists_waitReady (promising.sound.valid number sandbox known) promise with
    ⟨ready, waited, isReady, replies⟩
  have done : (bench.site sandbox).perform .waitReady = (.ok .null, ready) := by
    rw [Site.perform, waited]
    rfl
  refine ⟨bench.update number ready, ready.sandbox, run_perform_of_ok known done,
    sound_of_perform promising.sound known done, Host.sandbox?_update_self known ready, isReady, ?_⟩
  have same : (bench.update number ready).host.world.replies = bench.host.world.replies := replies
  rw [same]
  exact promise.replies

/-- A helper that is known to be loaded is there. -/
theorem equipped_of_isLoaded {helper : Worker.Helper} (sound : bench.Sound)
    (known : bench.host.sandbox? number = some sandbox)
    (isReady : (bench.site sandbox).isReady = true)
    (replies : ∀ reply ∈ bench.host.world.replies, reply = .worker)
    (loaded : bench.isLoaded helper number = true) : bench.Equipped number helper := by
  rw [isLoaded, beq_iff_eq] at loaded
  rcases sound.loads helper _ loaded with ⟨place, found, -, helpers⟩
  cases Option.some.inj (found.symm.trans known)
  exact ⟨sound, sandbox, known, isReady, replies, helpers (Host.session_of_sandbox? known)⟩

/-- Loading a helper puts it in place, and it is known to be there. -/
theorem exists_load (sound : bench.Sound) (known : bench.host.sandbox? number = some sandbox)
    (isReady : (bench.site sandbox).isReady = true)
    (replies : ∀ reply ∈ bench.host.world.replies, reply = .worker) (helper : Worker.Helper) :
    ∃ after, (perform number (.load (.str helper.name) (.str helper.source))).run.run bench =
        (.ok .null, after) ∧
      { after with
        loads := after.loads.set helper (some ⟨number, after.host.session number⟩) }.Equipped
          number helper := by
  rcases Site.exists_load isReady replies helper with ⟨after, loaded, equipped⟩
  have done : (bench.site sandbox).perform (.load (.str helper.name) (.str helper.source)) =
      (.ok .null, after) := by
    rw [Site.perform, loaded]
    rfl
  have now := Host.sandbox?_update_self known after
  refine ⟨bench.update number after, run_perform_of_ok known done, ?_, after.sandbox, now, equipped⟩
  exact (sound_of_perform sound known done).remember now equipped.helper

/-- Afterwards the sandbox has the helper. -/
theorem exists_ensureLoaded (promising : bench.Promising number) (helper : Worker.Helper) :
    ∃ after, (ensureLoaded helper number).run.run bench = (.ok (), after) ∧
      after.Equipped number helper := by
  rcases exists_waitReady promising with ⟨ready, sandbox, waited, sound, known, isReady, replies⟩
  have looked : (get : Act Bench Bench).run.run ready = (.ok ready, ready) := rfl
  rw [ensureLoaded, run_bind_ok _ waited, run_bind_ok _ looked]
  cases loaded : ready.isLoaded helper number with
  | true =>
      exact ⟨ready, rfl, equipped_of_isLoaded sound known isReady replies loaded⟩
  | false =>
      rcases exists_load sound known isReady replies helper with ⟨after, done, equipped⟩
      simp only [Bool.not_false, if_true]
      rw [run_bind_ok _ done]
      exact ⟨_, rfl, equipped⟩

/-- A call of a function of a helper that is in place. -/
theorem exists_call {function : Worker.Function} {arguments : List Json} {value : Json}
    (equipped : bench.Equipped number function.helper)
    (gives : function.call (.arr arguments) = .ok (.value value)) :
    ∃ after, (perform number (.call (.str function.name) arguments)).run.run bench =
        (.ok value, after) ∧ after.Equipped number function.helper := by
  rcases equipped.sandbox with ⟨sandbox, known, place⟩
  rcases Site.exists_call (equipped.sound.valid number sandbox known) place gives with
    ⟨after, done, equippedAfter⟩
  have performed : (bench.site sandbox).perform (.call (.str function.name) arguments) =
      (.ok value, after) := done
  exact ⟨bench.update number after, run_perform_of_ok known performed,
    sound_of_perform equipped.sound known performed, after.sandbox,
    Host.sandbox?_update_self known after, equippedAfter⟩

end Errands

/-! ### What helpers give -/

theorem optionsOf_optionFields (options : Snippet.Canonical.Options) :
    Worker.optionsOf (optionFields options) = .ok options := by
  rfl

/-- The helper for canonical forms gives the form that is made in place. -/
theorem call_normalize {options : Snippet.Canonical.Options} {code : String} {form : Option String}
    (written : Snippet.Canonical.dump? options .auto code = .ok form) :
    Worker.Function.normalize.call (.arr [.str code, optionFields options, .str "auto"]) =
      .ok (.value (.ofText? form)) := by
  have applied : Worker.Function.normalize.call
      (.arr [.str code, optionFields options, .str "auto"]) =
        Worker.canonicalForm (.str code) (optionFields options) (.str "auto")
          fun options mode source =>
            Worker.written (Snippet.Canonical.dump? options mode source) := rfl
  have tree : Worker.treeOf? (.str code) (.str "auto") =
      .ok ((Snippet.Tree.parse? .auto code).map fun tree => (code, .auto, tree)) := rfl
  rw [applied, Worker.canonicalForm, tree]
  cases parsed : Snippet.Tree.parse? .auto code with
  | none =>
      rw [Snippet.Canonical.dump?, Snippet.Canonical.tree?, parsed] at written
      cases written
      rfl
  | some tree =>
      have handed : (Worker.optionsOf (optionFields options) >>= fun options =>
          Worker.written (Snippet.Canonical.dump? options .auto code)) =
            Worker.written (Snippet.Canonical.dump? options .auto code) := by
        rw [optionsOf_optionFields]
        rfl
      refine Eq.trans handed ?_
      rw [written]
      rfl

/-- The helper for tokens gives the tokens that are read in place. -/
theorem call_tokenize (code : String) :
    Worker.Function.tokenize.call (.arr [.str code]) = .ok (.value (Worker.tokensOf code)) := rfl

/-- Tokens that have been handed over are the tokens that were read. -/
theorem mapM_tokenOf (lexemes : List Snippet.Lexeme) :
    (lexemes.map fun lexeme => Json.arr [.int lexeme.kind.code, .str lexeme.text]).mapM tokenOf =
      .ok (lexemes.map fun lexeme => ((lexeme.kind.code : Int), lexeme.text)) := by
  induction lexemes with
  | nil => rfl
  | cons lexeme rest ih =>
      have first : tokenOf (.arr [.int lexeme.kind.code, .str lexeme.text]) =
          .ok ((lexeme.kind.code : Int), lexeme.text) := rfl
      rw [List.map_cons, List.mapM_cons, first, ih]
      rfl

/-! ### Acts that compute -/

section Computing

variable {α β : Type} {kind : Bench → Prop}

/-- At every bench of a kind, an act gives a value and leaves a bench of the kind. -/
def Computes (kind : Bench → Prop) (act : Act Bench α) (value : α) : Prop :=
  ∀ bench, kind bench → ∃ after, act.run.run bench = (.ok value, after) ∧ kind after

theorem computes_pure (value : α) : Computes kind (pure value) value :=
  fun bench good => ⟨bench, rfl, good⟩

theorem Computes.bind {act : Act Bench α} {next : α → Act Bench β} {value : α} {result : β}
    (first : Computes kind act value) (second : Computes kind (next value) result) :
    Computes kind (act >>= next) result := by
  intro bench good
  rcases first bench good with ⟨middle, ran, goodMiddle⟩
  rcases second middle goodMiddle with ⟨after, ranNext, goodAfter⟩
  refine ⟨after, ?_, goodAfter⟩
  rw [run_bind_ok next ran]
  exact ranNext

theorem Computes.tryCatch {act : Act Bench α} {value : α} (first : Computes kind act value)
    (handler : Exception → Act Bench α) : Computes kind (tryCatch act handler) value := by
  intro bench good
  rcases first bench good with ⟨after, ran, goodAfter⟩
  exact ⟨after, run_tryCatch_ok handler ran, goodAfter⟩

variable [BEq α] {form : String → Act Bench (Option α)} {inPlace : String → Option α}

/-- The first alternative that is found is the first one there is. -/
theorem computes_firstEqual (wanted : α) {alternatives : List String}
    (forms : ∀ code ∈ alternatives, Computes kind (form code) (inPlace code)) :
    Computes kind (firstEqual form wanted alternatives)
      (alternatives.find? fun alternative => inPlace alternative == some wanted) := by
  induction alternatives with
  | nil => exact computes_pure none
  | cons alternative rest ih =>
      refine Computes.bind (forms alternative List.mem_cons_self) ?_
      rw [List.find?_cons]
      cases equal : inPlace alternative == some wanted with
      | true => exact computes_pure (some alternative)
      | false => exact ih fun code member => forms code (List.mem_cons_of_mem alternative member)

theorem computes_compareForms (wanted : α) {expected : String} {alternatives : List String}
    (forms : ∀ code ∈ expected :: alternatives, Computes kind (form code) (inPlace code)) :
    Computes kind (compareForms form wanted expected alternatives)
      (Comparison.ofWanted inPlace wanted expected alternatives) := by
  refine Computes.bind (forms expected List.mem_cons_self) ?_
  rw [Comparison.ofWanted]
  cases equal : inPlace expected == some wanted with
  | true => exact computes_pure _
  | false =>
      have first := computes_firstEqual wanted
        fun code member => forms code (List.mem_cons_of_mem expected member)
      refine Computes.bind first ?_
      cases alternatives.find? fun alternative => inPlace alternative == some wanted with
      | none => exact computes_pure _
      | some alternative => exact computes_pure _

end Computing

/-! ### Comparisons -/

section Comparisons

variable {number : Nat}

/-- A helper that has been loaded is asked for a value, with which the act goes on. -/
theorem computes_ask {β : Type} {function : Worker.Function} {arguments : List Json} {value : Json}
    {next : Json → Act Bench β} {result : β}
    (gives : function.call (.arr arguments) = .ok (.value value))
    (rest : Computes (Promising · number) (next value) result) :
    Computes (Promising · number) (do
      ensureLoaded function.helper number
      let answer ← perform number (.call (.str function.name) arguments)
      next answer) result := by
  intro bench promising
  rcases exists_ensureLoaded promising function.helper with ⟨loaded, ran, equipped⟩
  rcases exists_call equipped gives with ⟨called, answered, stillEquipped⟩
  rw [run_bind_ok _ ran, run_bind_ok _ answered]
  exact rest called stillEquipped.promising

theorem computes_canonicalForm {options : Snippet.Canonical.Options} {code : String}
    (written : ∃ form, Snippet.Canonical.dump? options .auto code = .ok form) :
    Computes (Promising · number) (canonicalForm number code options)
      (Comparison.canonicalForm options code) := by
  rcases written with ⟨form, made⟩
  rw [canonicalForm]
  apply computes_ask (call_normalize made)
  rw [Comparison.canonicalForm, made]
  cases form with
  | none => exact computes_pure _
  | some text => exact computes_pure _

theorem computes_tokens (code : String) :
    Computes (Promising · number) (tokens number code) (Comparison.tokens code) := by
  rw [tokens]
  apply computes_ask (call_tokenize code)
  rw [Worker.tokensOf, Comparison.tokens]
  cases Snippet.Lexeme.ofText? code with
  | none => exact computes_pure _
  | some lexemes =>
      simp only [Json.isNull, members, Except.bind, mapM_tokenOf]
      exact computes_pure _

theorem computes_compareTrees {options : Snippet.Canonical.Options} {submission expected : String}
    {alternatives : List String}
    (written : ∀ code ∈ submission :: expected :: alternatives,
      ∃ form, Snippet.Canonical.dump? options .auto code = .ok form) :
    Computes (Promising · number) (compareTrees number submission expected alternatives options)
      (Comparison.ofTrees options submission expected alternatives) := by
  apply Computes.tryCatch
  refine (computes_canonicalForm (written submission List.mem_cons_self)).bind ?_
  rw [Comparison.ofTrees]
  cases Comparison.canonicalForm options submission with
  | none => exact computes_pure _
  | some wanted =>
      apply computes_compareForms
      intro code member
      exact computes_canonicalForm (written code (List.mem_cons_of_mem submission member))

theorem computes_compareTokens (submission expected : String) (alternatives : List String) :
    Computes (Promising · number) (compareTokens number submission expected alternatives)
      (Comparison.ofTokens submission expected alternatives) := by
  refine (computes_tokens submission).bind ?_
  rw [Comparison.ofTokens]
  match Comparison.tokens submission with
  | none => exact computes_pure _
  | some [] => exact computes_pure _
  | some (first :: rest) => exact computes_compareForms _ fun code _ => computes_tokens code

end Comparisons

/-- A bench whose only sandbox has just given up its child over a question without an answer. -/
def abandoned : Bench :=
  let empty : Bench := ⟨⟨.empty, []⟩, .none⟩
  let made := (empty.expecting [] []).after (.create none (.whole 30) none)
  let started := (made.expecting [] []).after (.start 0)
  (started.expecting [] [.silence]).after (.ping 0)

theorem reachable_abandoned : Reachable abandoned := by
  have made := Reachable.initial.deed [] [] (.create none (.whole 30) none) nofun
  have started := made.deed [] [] (.start 0) fun number _ =>
    honest_expecting _ number [] nofun
  refine started.deed [] [.silence] (.ping 0) fun number _ => honest_expecting _ number [] ?_
  intro reply member id
  rw [List.mem_singleton.mp member]
  exact True.intro

/-- The sandbox has no child, but the next request starts another. -/
theorem exists_promising_abandoned :
    ∃ sandbox, abandoned.host.sandbox? 0 = some sandbox ∧
      ((abandoned.expecting [] []).site sandbox).isReady = false ∧
      ((abandoned.expecting [] []).site sandbox).Promising := by
  have future : (abandoned.host.sandbox? 0).any (fun sandbox =>
      decide (((abandoned.expecting [] []).site sandbox).isReady = false ∧
        ((abandoned.expecting [] []).site sandbox).isAvailable = true ∧
          sandbox.startupTimeout.leavesTime = true ∧
            ((abandoned.expecting [] []).site sandbox).awaited.IsGood)) = true := by
    decide +kernel
  rcases (Option.any_eq_true _ _).mp future with ⟨sandbox, known, good⟩
  rcases of_decide_eq_true good with ⟨notReady, available, leavesTime, isGood⟩
  have replies : ∀ reply ∈ ((abandoned.expecting [] []).site sandbox).world.replies,
      reply = .worker := by
    intro reply member
    exact absurd member List.not_mem_nil
  exact ⟨sandbox, known, notReady, available, fun _ => ⟨leavesTime, isGood⟩, replies⟩

end Bench

/-!
Forms that cannot be written down.

A program with an integer of too many digits has a canonical tree but no text of it.  A worker that is
asked for that text refuses, and stays in use; the comparison cannot be made then, whatever else there
is to compare with.
-/

namespace Worker

/-- A worker that has the helper of a function refuses what the function refuses. -/
theorem outcome_call_refused (worker : Worker) (number : Int) {function : Function}
    {arguments : List Json} {fault : Fault} (loaded : function.helper ∈ worker.helpers)
    (fails : function.call (.arr arguments) = .error fault) :
    (worker.outcome (.fields [("id", .int number), ("op", .str "call"),
      ("func", .str function.name), ("args", .arr arguments)])).1 = .refused fault := by
  have called := worker.outcome_calling number loaded arguments
  rw [called, fails]
  rfl

end Worker

namespace Sandbox.Site

variable {site : Site} {child : Nat} {partner : Child} {payload : List (String × Json)}

/-- What the worker refuses is refused, with some reason. -/
theorem verdict_of_refused {fault : Worker.Fault}
    (known : site.world.children[child]? = some partner) (reply : site.world.nextReply = .worker)
    (outcome : (site.outcomeOf partner payload).1 = .refused fault) :
    ∃ reason, site.verdict child payload true = .result (.error (.refused reason)) := by
  have number : Verdict.isId site.sandbox.nextId (.int site.sandbox.nextId) = true :=
    beq_self_eq_true _
  have responded : (partner.worker.answer (.ofJson
      (.obj (("id", .int site.sandbox.nextId) :: payload)))).1 =
        Worker.respond (.int site.sandbox.nextId) (site.outcomeOf partner payload).1 := rfl
  rw [outcome, Worker.respond] at responded
  rw [verdict, World.answer_exchange _ _ known, reply, Child.answer_worker responded]
  rcases Verdict.ofFields_eq_refused [("id", .int site.sandbox.nextId), ("ok", .bool false),
      ("error", .str fault.text)] rfl with ⟨reason, refused⟩
  refine ⟨reason, ?_⟩
  simp only [Verdict.ofAnswer, Json.lookup?, if_true, Option.getD_some, number, refused]

/-- Calling a function that fails is refused. -/
theorem exists_call_refused {function : Worker.Function} {arguments : List Json}
    {fault : Worker.Fault} (equipped : site.Equipped function.helper)
    (fails : function.call (.arr arguments) = .error fault) :
    ∃ reason after, site.call (.str function.name) arguments = (.error (.refused reason), after) := by
  rcases exists_current equipped.isReady with ⟨child, partner, current, known, -⟩
  have loaded := equipped.helper child current
  rw [World.helpersOf_eq known] at loaded
  have outcome : (site.outcomeOf partner (calling function arguments)).1 = .refused fault :=
    partner.worker.outcome_call_refused site.sandbox.nextId loaded fails
  rcases verdict_of_refused known (nextReply_of_replies equipped.replies) outcome with
    ⟨reason, refused⟩
  refine ⟨reason, site.asked child (calling function arguments) true, ?_⟩
  rw [call, ← calling,
    request_of_ready _ _ (waitReady_of_isReady equipped.isReady) current, refused]
  rfl

end Sandbox.Site

namespace Bench

open Sandbox

variable {bench : Bench} {number : Nat}

/-- A call that is refused is a fault of the sandbox. -/
theorem exists_call_refused {function : Worker.Function} {arguments : List Json}
    {fault : Worker.Fault} (equipped : bench.Equipped number function.helper)
    (fails : function.call (.arr arguments) = .error fault) :
    ∃ exception after, (perform number (.call (.str function.name) arguments)).run.run bench =
        (.error exception, after) ∧ exception.isSandboxError = true := by
  rcases equipped.sandbox with ⟨sandbox, known, place⟩
  rcases Site.exists_call_refused place fails with ⟨reason, after, refused⟩
  have done : (bench.site sandbox).perform (.call (.str function.name) arguments) =
      (.error (.refused reason), after) := refused
  refine ⟨(Fault.refused reason).toException, bench.update number after, ?_, rfl⟩
  rw [run_perform_of_sandbox? known, done]
  rfl

/-- The helper for canonical forms refuses a form that cannot be written down. -/
theorem call_normalize_refused {options : Snippet.Canonical.Options} {code : String}
    {fault : Snippet.WritingFault}
    (unwritten : Snippet.Canonical.dump? options .auto code = .error fault) :
    ∃ refusal, Worker.Function.normalize.call
      (.arr [.str code, optionFields options, .str "auto"]) = .error refusal := by
  have applied : Worker.Function.normalize.call
      (.arr [.str code, optionFields options, .str "auto"]) =
        Worker.canonicalForm (.str code) (optionFields options) (.str "auto")
          fun options mode source =>
            Worker.written (Snippet.Canonical.dump? options mode source) := rfl
  have tree : Worker.treeOf? (.str code) (.str "auto") =
      .ok ((Snippet.Tree.parse? .auto code).map fun tree => (code, .auto, tree)) := rfl
  rw [applied, Worker.canonicalForm, tree]
  cases parsed : Snippet.Tree.parse? .auto code with
  | none =>
      rw [Snippet.Canonical.dump?, Snippet.Canonical.tree?, parsed] at unwritten
      cases unwritten
  | some tree =>
      have handed : (Worker.optionsOf (optionFields options) >>= fun options =>
          Worker.written (Snippet.Canonical.dump? options .auto code)) =
            Worker.written (Snippet.Canonical.dump? options .auto code) := by
        rw [optionsOf_optionFields]
        rfl
      exact ⟨_, handed.trans (by rw [unwritten]; rfl)⟩

/-- Where the form of a submission cannot be written down, no comparison can be made. -/
theorem exists_compareTrees_refused {options : Snippet.Canonical.Options}
    {submission : String} {fault : Snippet.WritingFault}
    (unwritten : Snippet.Canonical.dump? options .auto submission = .error fault)
    (promising : bench.Promising number) (expected : String) (alternatives : List String) :
    ∃ comparison after,
      (compareTrees number submission expected alternatives options).run.run bench =
        (.ok comparison, after) ∧ comparison.isAvailable = false := by
  rcases exists_ensureLoaded promising .canonical with ⟨loaded, ran, equipped⟩
  rcases call_normalize_refused unwritten with ⟨refusal, fails⟩
  rcases exists_call_refused equipped fails with ⟨exception, after, called, isSandboxError⟩
  have formed : (canonicalForm number submission options).run.run bench =
      (.error exception, after) := by
    rw [canonicalForm, run_bind_ok _ ran]
    exact run_bind_error _ called
  refine ⟨{ isMatch := false, isAvailable := false, error := .str (
      if exception.text.isEmpty then standardFailure else exception.text) }, after, ?_, rfl⟩
  rw [compareTrees]
  refine (run_tryCatch_error _ (run_bind_error _ formed)).trans ?_
  rw [if_pos isSandboxError]
  rfl

end Bench
end AnswerKey
