import AnswerKey.Worker.Basic

namespace AnswerKey

/-!
Responses that can be written.

What a worker gives is shallow: a list of pairs is the deepest of it.  The only part of a response that
can be nested deep is the id, which comes from the request.  So the id alone decides whether a request
can be responded to.
-/

namespace Json

theorem nesting_ofText? (text : Option String) : (ofText? text).nesting = 0 := by
  cases text <;> rfl

theorem nestingOfItems_le {items : List Json} {depth : Nat}
    (shallow : ∀ item ∈ items, item.nesting ≤ depth) : nestingOfItems items ≤ depth := by
  induction items with
  | nil => exact Nat.zero_le depth
  | cons item rest ih =>
      rcases List.forall_mem_cons.mp shallow with ⟨first, others⟩
      exact Nat.max_le.mpr ⟨first, ih others⟩

end Json

namespace Worker

/-- What a function gives is nested no deeper than a list of pairs. -/
def Yield.IsShallow : Yield → Prop
  | .value result => result.nesting ≤ 2
  | .thing _ => True

/-- What comes of a request is nested no deeper than a list of pairs. -/
def Outcome.IsShallow : Outcome → Prop
  | .value result => result.nesting ≤ 2
  | _ => True

theorem nesting_tokensOf (source : String) : (tokensOf source).nesting ≤ 2 := by
  rw [tokensOf]
  cases Snippet.Lexeme.ofText? source with
  | none => exact Nat.zero_le 2
  | some lexemes =>
      refine Nat.succ_le_succ (Json.nestingOfItems_le ?_)
      intro item member
      rcases List.mem_map.mp member with ⟨lexeme, -, rfl⟩
      exact Nat.le_refl 1

section Functions

variable {yield : Yield}

theorem isShallow_of_written {result : Except Snippet.WritingFault (Option String)}
    (gives : written result = .ok yield) : yield.IsShallow := by
  cases result with
  | error fault => cases gives
  | ok text =>
      cases gives
      exact Nat.le_trans (Nat.le_of_eq (Json.nesting_ofText? text)) (Nat.zero_le 2)

/-- A canonical form is as shallow as the text that is made of it. -/
theorem isShallow_of_canonicalForm {code options mode : Json}
    {form : Snippet.Canonical.Options → Snippet.Mode → String → Except Fault Yield}
    (shallow : ∀ options mode source yield, form options mode source = .ok yield → yield.IsShallow)
    (gives : canonicalForm code options mode form = .ok yield) : yield.IsShallow := by
  rw [canonicalForm] at gives
  cases tree : treeOf? code mode with
  | error fault =>
      rw [tree] at gives
      cases gives
  | ok found =>
      rw [tree] at gives
      cases found with
      | none =>
          cases gives
          exact Nat.zero_le 2
      | some found =>
          rcases found with ⟨source, mode, _⟩
          cases meant : optionsOf options with
          | error fault =>
              simp only [bind, Except.bind, meant] at gives
              cases gives
          | ok options =>
              simp only [bind, Except.bind, meant] at gives
              exact shallow options mode source yield gives

theorem isShallow_of_apply {function : Function} {arguments : List Json}
    (gives : apply function arguments = .ok yield) : yield.IsShallow := by
  cases function with
  | parse =>
      simp only [apply, bind, Except.bind] at gives
      split at gives
      · cases gives
      · split at gives
        · cases gives
          exact Nat.zero_le 2
        · cases gives
          trivial
  | canonicalTree =>
      refine isShallow_of_canonicalForm ?_ gives
      intro options mode source yield made
      cases tree : Snippet.Canonical.tree? options mode source with
      | none =>
          rw [tree] at made
          cases made
          exact Nat.zero_le 2
      | some tree' =>
          rw [tree] at made
          cases made
          trivial
  | normalize => exact isShallow_of_canonicalForm (fun _ _ _ _ => isShallow_of_written) gives
  | canonicalSource => exact isShallow_of_canonicalForm (fun _ _ _ _ => isShallow_of_written) gives
  | canonicalizer =>
      simp only [apply, bind, Except.bind] at gives
      split at gives
      · cases gives
      · cases gives
        trivial
  | tokenize =>
      simp only [apply] at gives
      split at gives
      · cases gives
        exact nesting_tokensOf _
      · cases gives
        exact Nat.le_succ 1
      · cases gives
  | isInteger | isNone | isDocstring =>
      cases gives
      exact Nat.zero_le 2

theorem isShallow_of_call {function : Function} {given : Json}
    (gives : function.call given = .ok yield) : yield.IsShallow := by
  simp only [Function.call, bind, Except.bind] at gives
  split at gives
  · cases gives
  · split at gives
    · cases gives
    · exact isShallow_of_apply gives

end Functions

/-! ### What comes of a request -/

theorem isShallow_ofCall {result : Except Fault Yield}
    (shallow : ∀ yield, result = .ok yield → yield.IsShallow) :
    (Outcome.ofCall result).IsShallow := by
  cases result with
  | error fault => trivial
  | ok yield =>
      have given := shallow yield rfl
      cases yield with
      | value value => exact given
      | thing name => trivial

theorem isShallow_load (worker : Worker) (request : List (String × Json)) :
    (worker.load request).1.IsShallow := by
  rw [load]
  split
  · trivial
  · split
    · rw [loadSource]
      split
      · exact Nat.zero_le 2
      · rcases Program.runIn worker.names _ with ⟨ending, progress⟩
        cases ending with
        | finished => exact Nat.zero_le 2
        | timeUp => trivial
        | raised class_ arguments =>
            simp only []
            split <;> trivial
    · trivial

theorem isShallow_call (worker : Worker) (request : List (String × Json)) :
    (worker.call request).IsShallow := by
  rw [call]
  cases unhashable (field request "func" (.str "")) with
  | some fault => trivial
  | none =>
      simp only []
      split
      · exact isShallow_ofCall fun _ => isShallow_of_call
      · trivial

theorem nesting_runResult (output : String) (error : Option String) :
    (runResult (.str output) error).nesting ≤ 2 := by
  cases error <;> exact Nat.le_succ 1

theorem isShallow_run (request : List (String × Json)) : (run request).IsShallow := by
  rw [run]
  split
  · trivial
  · split
    · rcases Program.run _ with ⟨ending, output⟩
      simp only [outcomeOf]
      split
      · exact nesting_runResult output none
      · exact nesting_runResult output _
      · split
        · exact nesting_runResult output _
        · split
          · exact nesting_runResult output _
          · trivial
    · exact nesting_runResult "" _

theorem isShallow_handle (worker : Worker) (request : List (String × Json)) :
    (worker.handle request).1.IsShallow := by
  rw [handle]
  cases unhashable (field request "op" .null) with
  | some fault => trivial
  | none =>
      simp only []
      split
      · exact worker.isShallow_load request
      · exact worker.isShallow_call request
      · exact isShallow_run request
      · exact Nat.zero_le 2
      · trivial

theorem isShallow_attempt (worker : Worker) (request : Request) :
    (worker.attempt request).1.IsShallow := by
  cases request with
  | fields fields => exact worker.isShallow_handle fields
  | unusable fault => trivial

/-! ### Responses -/

/-- An id that a response can repeat. -/
def IsRepeatable (id : Json) : Prop :=
  id.nesting < Json.writingLimit

instance (id : Json) : Decidable (IsRepeatable id) :=
  inferInstanceAs (Decidable (id.nesting < Json.writingLimit))

section Response

variable {id : Json} {outcome : Outcome}

/-- A response to a request is written exactly if its id can be repeated. -/
theorem isWritable_response (shallow : outcome.IsShallow) {response : Json}
    (responds : respond id outcome = some response) :
    response.isWritable = true ↔ IsRepeatable id := by
  unfold IsRepeatable Json.isWritable
  cases outcome with
  | ended name => cases responds
  | value value =>
      cases responds
      have depth : (Json.obj [("id", id), ("ok", .bool true), ("value", value)]).nesting =
          max id.nesting (max 0 (max value.nesting 0)) + 1 := rfl
      have small : value.nesting ≤ 2 := shallow
      rw [decide_eq_true_iff, depth, Json.writingLimit]
      omega
  | refused fault =>
      cases responds
      have depth : (Json.obj [("id", id), ("ok", .bool false), ("error", .str fault.text)]).nesting =
          max id.nesting (max 0 (max 0 0)) + 1 := rfl
      rw [decide_eq_true_iff, depth, Json.writingLimit]
      omega

/-- With an id that can be repeated, what comes of a request is what comes of working on it. -/
theorem delivered_of_isRepeatable (shallow : outcome.IsShallow) (fits : IsRepeatable id) :
    delivered id outcome = outcome := by
  have written : canWrite id outcome = true := by
    rw [canWrite]
    cases responds : respond id outcome with
    | none => rfl
    | some response => exact (isWritable_response shallow responds).mpr fits
  rw [delivered, if_pos written]

/-- An id that cannot be repeated ends the worker, whatever the answer was to be. -/
theorem delivered_of_not_isRepeatable (shallow : outcome.IsShallow) (deep : ¬ IsRepeatable id)
    {response : Json} (responds : respond id outcome = some response) :
    delivered id outcome = .ended writingFault.name := by
  have unwritten : ∀ {other : Outcome} {answer : Json}, other.IsShallow →
      respond id other = some answer → ¬ canWrite id other = true := by
    intro other answer given answers written
    rw [canWrite, answers] at written
    exact deep ((isWritable_response given answers).mp written)
  have excused : ¬ canWrite id (.refused writingFault) = true := unwritten trivial rfl
  rw [delivered, if_neg (unwritten shallow responds), if_neg excused]

end Response

theorem outcome_eq (worker : Worker) (request : Request) :
    worker.outcome request =
      (delivered request.id (worker.attempt request).1, (worker.attempt request).2) := rfl

/-- An id that can be repeated does not come between a worker and its answer. -/
theorem outcome_of_isRepeatable (worker : Worker) {request : Request}
    (fits : IsRepeatable request.id) : worker.outcome request = worker.attempt request := by
  rw [outcome_eq, delivered_of_isRepeatable (worker.isShallow_attempt request) fits]

end Worker
end AnswerKey
