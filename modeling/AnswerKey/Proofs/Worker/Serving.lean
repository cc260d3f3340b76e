import AnswerKey.Proofs.Json.Limits
import AnswerKey.Proofs.Json.Line
import AnswerKey.Proofs.Text.Visible
import AnswerKey.Proofs.Worker.Delivery

namespace AnswerKey
namespace Worker

/-!
Serving requests.

A worker goes through its input request by request.  Each request gets one answer, which has the id of
the request, and the worker goes on; a few requests end it instead.  This file says which they are and
what the responses of a whole input look like: nothing is left out, doubled or put out of order, and
without one of those few requests the worker is still reading at the end.
-/

/-! ### What a worker does with a request -/

/-- A request is for one of four operations, or it is refused. -/
theorem handle_cases (worker : Worker) (fields : List (String × Json)) :
    (field fields "op" .null = .str "load" ∧ worker.handle fields = worker.load fields) ∨
      (field fields "op" .null = .str "call" ∧ worker.handle fields = (worker.call fields, worker)) ∨
      (field fields "op" .null = .str "run" ∧ worker.handle fields = (run fields, worker)) ∨
      (field fields "op" .null = .str "ping" ∧
        worker.handle fields = (.value (.str "pong"), worker)) ∨
      ∃ fault, worker.handle fields = (.refused fault, worker) := by
  rw [handle]
  cases unhashable (field fields "op" .null) with
  | some fault => exact .inr (.inr (.inr (.inr ⟨fault, rfl⟩)))
  | none =>
      simp only []
      split
      · exact .inl ⟨‹_›, rfl⟩
      · exact .inr (.inl ⟨‹_›, rfl⟩)
      · exact .inr (.inr (.inl ⟨‹_›, rfl⟩))
      · exact .inr (.inr (.inr (.inl ⟨‹_›, rfl⟩)))
      · exact .inr (.inr (.inr (.inr ⟨_, rfl⟩)))

/-! ### Requests that end a worker -/

/-- A program is over for whoever runs it within a program of its own: it has come to its end or has
raised an ordinary exception. -/
def IsOrdinary : Program.Ending → Prop
  | .finished => True
  | .raised class_ _ => class_.isOrdinary = true
  | .timeUp => False

/-- A run has something to tell of how its program ended: an exit and the timer count as well. -/
def IsReported : Program.Ending → Prop
  | .raised class_ _ => class_ = Program.ErrorClass.systemExit ∨ class_.isOrdinary = true
  | _ => True

/-- The operation that a request asks for; null if it has none. -/
def Request.op : Request → Json
  | .fields given => field given "op" .null
  | .unusable _ => .null

/-- Why a request ends a worker. -/
inductive Ends (worker : Worker) : Request → Prop
  /-- No response can repeat the id. -/
  | deep {request : Request} (tooDeep : ¬ IsRepeatable request.id) : Ends worker request
  /-- What is to be loaded is a program that ends no ordinary way. -/
  | loading {fields : List (String × Json)} {source : String}
      (op : field fields "op" .null = .str "load")
      (name : (field fields "name" (.str "helper")).text.toList.contains '\x00' = false)
      (given : field fields "source" (.str "") = .str source)
      (foreign : Helper.ofSource? source = none)
      (ends : ¬ IsOrdinary (Program.runIn worker.names source).1) : Ends worker (.fields fields)
  /-- The program that is run ends in a way that a run does not tell of. -/
  | running {fields : List (String × Json)} {code : String}
      (op : field fields "op" .null = .str "run")
      (timer : setTimer (field fields "timeout" .null) = .ok ())
      (given : field fields "code" (.str "") = .str code)
      (ends : ¬ IsReported (Program.run code).1) : Ends worker (.fields fields)

namespace Outcome

/-- Whether the worker has ended. -/
def isEnded : Outcome → Bool
  | ended _ => true
  | _ => false

theorem isEnded_iff {outcome : Outcome} :
    outcome.isEnded = true ↔ ∃ name, outcome = .ended name := by
  cases outcome <;> simp [isEnded]

theorem isEnded_eq_false_iff {outcome : Outcome} {id : Json} :
    outcome.isEnded = false ↔ ∃ response, respond id outcome = some response := by
  cases outcome <;> simp [isEnded, respond]

end Outcome

theorem isEnded_load_iff (worker : Worker) (fields : List (String × Json)) :
    (worker.load fields).1.isEnded = true ↔
      (field fields "name" (.str "helper")).text.toList.contains '\x00' = false ∧
        ∃ source, field fields "source" (.str "") = .str source ∧
          Helper.ofSource? source = none ∧
            ¬ IsOrdinary (Program.runIn worker.names source).1 := by
  rw [load]
  cases zero : (field fields "name" (.str "helper")).text.toList.contains '\x00' with
  | true => simp [Outcome.isEnded]
  | false =>
      cases given : field fields "source" (.str "") with
      | str source =>
          simp only [loadSource, Bool.false_eq_true, if_false, true_and, Json.str.injEq,
            exists_eq_left']
          cases Helper.ofSource? source with
          | some helper => simp [Outcome.isEnded]
          | none =>
              rcases Program.runIn worker.names source with ⟨ending, progress⟩
              cases ending with
              | finished => simp [Outcome.isEnded, IsOrdinary]
              | timeUp => simp [Outcome.isEnded, IsOrdinary]
              | raised class_ arguments =>
                  cases ordinary : class_.isOrdinary <;>
                    simp [Outcome.isEnded, IsOrdinary, ordinary]
      | _ => simp [Outcome.isEnded]

theorem isEnded_ofCall (result : Except Fault Yield) : (Outcome.ofCall result).isEnded = false := by
  rcases result with fault | value | name <;> rfl

/-- Whatever comes of a call is an answer. -/
theorem isEnded_call (worker : Worker) (fields : List (String × Json)) :
    (worker.call fields).isEnded = false := by
  rw [call]
  cases unhashable (field fields "func" (.str "")) with
  | some fault => rfl
  | none =>
      simp only []
      split
      · exact isEnded_ofCall _
      · rfl

theorem isEnded_outcomeOf_iff (ending : Program.Ending) (output : String) :
    (outcomeOf ending output).isEnded = true ↔ ¬ IsReported ending := by
  cases ending with
  | finished => simp [outcomeOf, Outcome.isEnded, IsReported]
  | timeUp => simp [outcomeOf, Outcome.isEnded, IsReported]
  | raised class_ arguments =>
      rw [outcomeOf]
      split
      · rename_i exit
        simp [Outcome.isEnded, IsReported, exit]
      · rename_i other
        cases ordinary : class_.isOrdinary <;> simp [Outcome.isEnded, IsReported, other, ordinary]

theorem isEnded_run_iff (fields : List (String × Json)) :
    (run fields).isEnded = true ↔
      setTimer (field fields "timeout" .null) = .ok () ∧
        ∃ code, field fields "code" (.str "") = .str code ∧
          ¬ IsReported (Program.run code).1 := by
  rw [run]
  cases setTimer (field fields "timeout" .null) with
  | error fault => simp [Outcome.isEnded]
  | ok _ =>
      cases given : field fields "code" (.str "") with
      | str code =>
          simp only [true_and, Json.str.injEq, exists_eq_left']
          exact isEnded_outcomeOf_iff _ _
      | _ => simp [Outcome.isEnded]

/-- A worker has ended over a request exactly if there is a reason for it. -/
theorem isEnded_attempt_iff (worker : Worker) {request : Request} (fits : IsRepeatable request.id) :
    (worker.attempt request).1.isEnded = true ↔ Ends worker request := by
  cases request with
  | unusable fault =>
      refine ⟨nofun, ?_⟩
      rintro (tooDeep | _ | _)
      exact absurd fits tooDeep
  | fields fields =>
      constructor
      · intro ended
        rw [attempt] at ended
        rcases worker.handle_cases fields with
          ⟨op, does⟩ | ⟨_, does⟩ | ⟨op, does⟩ | ⟨_, does⟩ | ⟨fault, does⟩ <;> rw [does] at ended
        · rcases (worker.isEnded_load_iff fields).mp ended with
            ⟨name, source, given, foreign, ends⟩
          exact .loading op name given foreign ends
        · rw [worker.isEnded_call fields] at ended
          cases ended
        · rcases (isEnded_run_iff fields).mp ended with ⟨timer, code, given, ends⟩
          exact .running op timer given ends
        · cases ended
        · cases ended
      · intro reason
        cases reason with
        | deep tooDeep => exact absurd fits tooDeep
        | loading op name given foreign ends =>
            rw [attempt, handle, op]
            exact (worker.isEnded_load_iff fields).mpr ⟨name, _, given, foreign, ends⟩
        | running op timer given ends =>
            rw [attempt, handle, op]
            exact (isEnded_run_iff fields).mpr ⟨timer, _, given, ends⟩

theorem isEnded_outcome_iff (worker : Worker) (request : Request) :
    (worker.outcome request).1.isEnded = true ↔ Ends worker request := by
  by_cases fits : IsRepeatable request.id
  · rw [worker.outcome_of_isRepeatable fits]
    exact worker.isEnded_attempt_iff fits
  · refine ⟨fun _ => .deep fits, fun _ => ?_⟩
    rw [outcome_eq]
    cases ended : (worker.attempt request).1.isEnded with
    | true =>
        rcases Outcome.isEnded_iff.mp ended with ⟨name, made⟩
        rw [made]
        rfl
    | false =>
        rcases Outcome.isEnded_eq_false_iff.mp ended with ⟨response, responds⟩
        rw [delivered_of_not_isRepeatable (worker.isShallow_attempt request) fits responds]
        rfl

/-! ### Answers -/

/-- A response that answers a request of a worker.  Either there is a value, for an operation that
exists, and the value can be written, or the response tells of the fault that there was. -/
inductive IsAnswer (worker : Worker) (request : Request) : Json → Prop
  | value {value : Json}
      (known : request.op = .str "load" ∨ request.op = .str "call" ∨ request.op = .str "run" ∨
        request.op = .str "ping")
      (gives : (worker.attempt request).1 = .value value) (writable : value.isWritable = true) :
      IsAnswer worker request
        (.obj [("id", request.id), ("ok", .bool true), ("value", value)])
  | refusal {fault : Fault} (fails : (worker.attempt request).1 = .refused fault) :
      IsAnswer worker request
        (.obj [("id", request.id), ("ok", .bool false), ("error", .str fault.text)])

/-- Only an operation that exists has a value. -/
theorem op_of_value {worker : Worker} {request : Request} {value : Json}
    (gives : (worker.attempt request).1 = .value value) :
    request.op = .str "load" ∨ request.op = .str "call" ∨ request.op = .str "run" ∨
      request.op = .str "ping" := by
  cases request with
  | unusable fault => cases gives
  | fields fields =>
      rw [attempt] at gives
      rcases worker.handle_cases fields with
        ⟨op, -⟩ | ⟨op, -⟩ | ⟨op, -⟩ | ⟨op, -⟩ | ⟨fault, does⟩
      · exact .inl op
      · exact .inr (.inl op)
      · exact .inr (.inr (.inl op))
      · exact .inr (.inr (.inr op))
      · rw [does] at gives
        cases gives

/-- What does not end a worker is answered. -/
theorem isAnswer_of_respond {worker : Worker} {request : Request} {response : Json}
    (stays : ¬ Ends worker request)
    (responds : respond request.id (worker.outcome request).1 = some response) :
    IsAnswer worker request response := by
  have fits : IsRepeatable request.id :=
    Decidable.byContradiction fun deep => stays (.deep deep)
  have shallow := worker.isShallow_attempt request
  rw [worker.outcome_of_isRepeatable fits] at responds
  cases attempted : (worker.attempt request).1 with
  | ended name =>
      rw [attempted] at responds
      cases responds
  | value value =>
      rw [attempted] at responds shallow
      cases responds
      have small : value.nesting ≤ 2 := shallow
      refine .value (op_of_value attempted) attempted (decide_eq_true ?_)
      exact Nat.le_trans small (by decide)
  | refused fault =>
      rw [attempted] at responds
      cases responds
      exact .refusal attempted

/-- Only what is to be loaded changes a worker. -/
theorem outcome_keeps {worker : Worker} {request : Request} (other : request.op ≠ .str "load") :
    (worker.outcome request).2 = worker := by
  rw [outcome_eq]
  cases request with
  | unusable fault => rfl
  | fields fields =>
      rw [attempt]
      rcases worker.handle_cases fields with
        ⟨op, -⟩ | ⟨-, does⟩ | ⟨-, does⟩ | ⟨-, does⟩ | ⟨fault, does⟩
      · exact absurd op other
      all_goals rw [does]

/-! ### Whole inputs -/

/-- The requests on some lines.  Blank lines are none. -/
def requestsOf (lines : List (List Char)) : List Request :=
  (lines.filter fun line => !(Text.trim line).isEmpty).map Request.ofLine

/-- The worker that a request finds: it has worked on the requests in front of that one. -/
def before (worker : Worker) (requests : List Request) (place : Nat) : Worker :=
  (requests.take place).foldl (fun worker request => (worker.outcome request).2) worker

/-- Everything that a worker writes: that it is ready, and one line for each response. -/
def output (worker : Worker) (lines : List (List Char)) : List String :=
  (greeting :: (worker.serve lines).1).map Json.write

/-- How a worker gets through some requests.  It answers one after the other until there are no more,
or until one of them ends it. -/
inductive Session : Worker → List Request → List Json → Ending → Prop
  | idle {worker : Worker} : Session worker [] [] .endOfInput
  | answer {worker : Worker} {request : Request} {requests : List Request} {response : Json}
      {responses : List Json} {ending : Ending} (stays : ¬ Ends worker request)
      (answers : IsAnswer worker request response)
      (others : Session (worker.outcome request).2 requests responses ending) :
      Session worker (request :: requests) (response :: responses) ending
  | ended {worker : Worker} {request : Request} {requests : List Request} {name : String}
      (ends : Ends worker request) : Session worker (request :: requests) [] (.ended name)

theorem requestsOf_blank {line : List Char} (blank : (Text.trim line).isEmpty = true)
    (rest : List (List Char)) : requestsOf (line :: rest) = requestsOf rest := by
  simp [requestsOf, blank]

section Lines

variable {worker : Worker} {line : List Char} (shown : (Text.trim line).isEmpty = false)
  (rest : List (List Char))

include shown

theorem requestsOf_cons : requestsOf (line :: rest) = Request.ofLine line :: requestsOf rest := by
  simp [requestsOf, shown]

theorem serve_of_ended {name : String}
    (ended : (worker.outcome (.ofLine line)).1 = .ended name) :
    worker.serve (line :: rest) = ([], .ended name) := by
  rw [serve, if_neg (Bool.eq_false_iff.mp shown)]
  rcases outcome : worker.outcome (.ofLine line) with ⟨made, after⟩
  rw [outcome] at ended
  cases ended
  simp only [outcome]

theorem serve_of_respond {response : Json}
    (responds : respond (Request.ofLine line).id (worker.outcome (.ofLine line)).1 = some response) :
    worker.serve (line :: rest) =
      (response :: ((worker.outcome (.ofLine line)).2.serve rest).1,
        ((worker.outcome (.ofLine line)).2.serve rest).2) := by
  rw [serve, if_neg (Bool.eq_false_iff.mp shown)]
  rcases outcome : worker.outcome (.ofLine line) with ⟨made, after⟩
  rw [outcome] at responds
  cases made with
  | ended name => cases responds
  | _ =>
      cases responds
      simp only [outcome, respond, Option.toList_some, List.singleton_append]

end Lines

/-- What a worker does with the lines of an input. -/
theorem session_serve (worker : Worker) (lines : List (List Char)) :
    Session worker (requestsOf lines) (worker.serve lines).1 (worker.serve lines).2 := by
  induction lines generalizing worker with
  | nil => exact .idle
  | cons line rest ih =>
      have reason := worker.isEnded_outcome_iff (.ofLine line)
      cases blank : (Text.trim line).isEmpty with
      | true =>
          rw [requestsOf_blank blank, serve, if_pos blank]
          exact ih worker
      | false =>
          rw [requestsOf_cons blank]
          cases ended : (worker.outcome (.ofLine line)).1.isEnded with
          | true =>
              rcases Outcome.isEnded_iff.mp ended with ⟨name, made⟩
              rw [serve_of_ended blank rest made]
              exact .ended (reason.mp ended)
          | false =>
              have stays : ¬ Ends worker (.ofLine line) := by
                rw [← reason, ended]
                exact Bool.false_ne_true
              rcases Outcome.isEnded_eq_false_iff.mp ended with ⟨response, responds⟩
              rw [serve_of_respond blank rest responds]
              exact .answer stays (isAnswer_of_respond stays responds) (ih _)

namespace Session

variable {worker : Worker} {requests : List Request} {responses : List Json} {ending : Ending}

/-- Every response answers the request in its place. -/
theorem answers_in_place (session : Session worker requests responses ending) {place : Nat}
    {response : Json} (given : responses[place]? = some response) :
    ∃ request, requests[place]? = some request ∧
      IsAnswer (worker.before requests place) request response := by
  induction session generalizing place with
  | idle => cases given
  | ended => cases given
  | answer stays answers others ih =>
      cases place with
      | zero =>
          cases given
          exact ⟨_, rfl, answers⟩
      | succ place => exact ih given

/-- No request that has been answered is one that ends the worker. -/
theorem not_ends_of_lt (session : Session worker requests responses ending) {place : Nat}
    {request : Request} (asked : requests[place]? = some request)
    (answered : place < responses.length) : ¬ Ends (worker.before requests place) request := by
  induction session generalizing place with
  | idle => cases asked
  | ended => cases answered
  | answer stays answers others ih =>
      cases place with
      | zero =>
          cases asked
          exact stays
      | succ place => exact ih asked (Nat.lt_of_succ_lt_succ answered)

/-- A worker that is still reading has answered everything. -/
theorem length_eq (session : Session worker requests responses .endOfInput) :
    responses.length = requests.length := by
  generalize reading : Ending.endOfInput = ending at session
  induction session with
  | idle => rfl
  | ended => cases reading
  | answer stays answers others ih => exact congrArg (· + 1) (ih reading)

/-- A worker that has ended has done so over the request behind those that it has answered. -/
theorem ends_of_ended {name : String} (session : Session worker requests responses (.ended name)) :
    ∃ request, requests[responses.length]? = some request ∧
      Ends (worker.before requests responses.length) request := by
  generalize given : Ending.ended name = ending at session
  induction session with
  | idle => cases given
  | ended ends => exact ⟨_, rfl, ends⟩
  | answer stays answers others ih => exact ih given

end Session

/-- How a worker deals with the lines of an input. -/
structure Protocol (worker : Worker) (lines : List (List Char)) : Prop where
  /-- The first line that is written tells that the worker is ready, and then comes one for each
  response; none of them is broken. -/
  greets : worker.output lines = greeting.write :: (worker.serve lines).1.map Json.write
  oneLine : ∀ line ∈ worker.output lines, '\n' ∉ line.toList
  /-- Each response answers the request in its place, with the id of that request. -/
  answers : ∀ place response, (worker.serve lines).1[place]? = some response →
    ∃ request, (requestsOf lines)[place]? = some request ∧
      IsAnswer (worker.before (requestsOf lines) place) request response
  /-- The worker is still reading at the end exactly if none of the requests ends it. -/
  reads : (worker.serve lines).2 = .endOfInput ↔ ∀ place request,
    (requestsOf lines)[place]? = some request →
      ¬ Ends (worker.before (requestsOf lines) place) request
  /-- Then every request has been answered. -/
  all : (worker.serve lines).2 = .endOfInput →
    (worker.serve lines).1.length = (requestsOf lines).length
  /-- Otherwise it has answered all requests in front of the one that ended it. -/
  ended : ∀ name, (worker.serve lines).2 = .ended name →
    ∃ request, (requestsOf lines)[(worker.serve lines).1.length]? = some request ∧
      Ends (worker.before (requestsOf lines) (worker.serve lines).1.length) request
  /-- Only a request to load something changes what has been loaded. -/
  keeps : ∀ place request, (requestsOf lines)[place]? = some request →
    request.op ≠ .str "load" →
      worker.before (requestsOf lines) (place + 1) = worker.before (requestsOf lines) place

theorem before_succ (worker : Worker) {requests : List Request} {place : Nat} {request : Request}
    (asked : requests[place]? = some request) :
    worker.before requests (place + 1) = ((worker.before requests place).outcome request).2 := by
  rw [before, before, List.take_add_one, asked]
  simp [List.foldl_append]

/-- The field of an id that is arrays in arrays, as it stands at the end of a request. -/
def nestedIdText (depth : Nat) : List Char :=
  '"' :: 'i' :: 'd' :: '"' :: ':' :: Json.nestedText depth ['\x7d']

/-- A request for a sign of life, with an id that is arrays in arrays. -/
def nestedPing (depth : Nat) : List Char :=
  '\x7b' :: '"' :: 'o' :: 'p' :: '"' :: ':' :: ("\"ping\",".toList ++ nestedIdText depth)

section NestedPing

open Json

variable {depth : Nat}

theorem readFields_nestedIdText {fuel limit : Nat} (seen : List (String × Json))
    (enough : 2 * depth < fuel) (allowed : depth < limit) :
    readFields (fuel + 1) limit seen (nestedIdText depth) =
      .ok (obj (insertField "id" (nested depth) seen), []) := by
  have id : readValue fuel limit (skipSpace (nestedText depth ['\x7d'])) =
      .ok (nested depth, ['\x7d']) := by
    rw [skipSpace_nestedText]
    exact readValue_nestedText _ enough allowed
  rw [nestedIdText, readFields_cons rfl rfl id]
  rfl

theorem readValue_nestedPing {fuel limit : Nat} (enough : 2 * depth < fuel)
    (allowed : depth < limit) :
    readValue (fuel + 3) (limit + 1) (nestedPing depth) =
      .ok (obj [("op", str "ping"), ("id", nested depth)], []) := by
  have op : readValue (fuel + 1) limit (skipSpace ("\"ping\",".toList ++ nestedIdText depth)) =
      .ok (str "ping", ',' :: nestedIdText depth) := rfl
  have fields : readFields (fuel + 2) limit []
      ('"' :: 'o' :: 'p' :: '"' :: ':' :: ("\"ping\",".toList ++ nestedIdText depth)) =
        .ok (obj [("op", str "ping"), ("id", nested depth)], []) := by
    rw [readFields_cons rfl rfl op]
    exact readFields_nestedIdText [("op", str "ping")] enough allowed
  exact fields

/-- As long as the reader goes as deep as the id, the line is a request with that id. -/
theorem ofLine_nestedPing (allowed : depth + 1 < nestingLimit) :
    Request.ofLine (nestedPing depth) =
      .fields [("op", .str "ping"), ("id", nested depth)] := by
  have long : depth < (nestedPing depth).length := by
    have inside := lt_length_nestedText depth ['\x7d']
    simp only [nestedPing, nestedIdText, List.length_cons, List.length_append]
    omega
  have space : skipSpace (nestedPing depth) = nestedPing depth := rfl
  have body : Json.read (nestedPing depth) = read.readBody (nestedPing depth) := rfl
  obtain ⟨fuel, size⟩ : ∃ fuel, 2 * (nestedPing depth).length + 2 = fuel + 3 :=
    ⟨2 * (nestedPing depth).length - 1, by omega⟩
  have value : readValue (fuel + 3) 994 (nestedPing depth) =
      .ok (obj [("op", str "ping"), ("id", nested depth)], []) :=
    readValue_nestedPing (by omega) (Nat.lt_of_succ_lt_succ allowed)
  rw [Request.ofLine, body, read.readBody, space, size, nestingLimit, value]
  rfl

end NestedPing

instance (ending : Program.Ending) : Decidable (IsReported ending) :=
  match ending with
  | .finished => .isTrue trivial
  | .timeUp => .isTrue trivial
  | .raised _ _ => inferInstanceAs (Decidable (_ ∨ _))

section Endings

variable {ending : Program.Ending}

/-- An end that a run tells of leaves no error exactly if the program has come to its end. -/
theorem exists_outcomeOf (reported : IsReported ending) (output : String) :
    ∃ error, outcomeOf ending output = .value (runResult (.str output) error) ∧
      (error = none ↔ ending = .finished) := by
  cases ending with
  | finished => exact ⟨none, rfl, iff_of_true rfl rfl⟩
  | timeUp => exact ⟨some timeoutMessage, rfl, by simp⟩
  | raised class_ arguments =>
      rw [outcomeOf]
      by_cases exit : class_ = Program.ErrorClass.systemExit
      · rw [if_pos exit]
        exact ⟨_, rfl, by simp⟩
      · have ordinary : class_.isOrdinary = true := reported.resolve_left exit
        rw [if_neg exit, if_pos ordinary]
        exact ⟨_, rfl, by simp⟩

theorem exists_outcomeOf_ended (silent : ¬ IsReported ending) (output : String) :
    ∃ name, outcomeOf ending output = .ended name :=
  Outcome.isEnded_iff.mp ((isEnded_outcomeOf_iff ending output).mpr silent)

end Endings

/-! ### Requests to run a program -/

/-- A request to run a program.  Its timer can be set, and its id can be repeated. -/
structure AsksToRun (fields : List (String × Json)) (code : String) : Prop where
  op : field fields "op" .null = .str "run"
  timer : setTimer (field fields "timeout" .null) = .ok ()
  given : field fields "code" (.str "") = .str code
  id : IsRepeatable (field fields "id" .null)

/-- A program whose end a run tells of. -/
structure Reports (code : String) : Prop where
  ending : IsReported (Program.run code).1

instance (code : String) : Decidable (Reports code) :=
  decidable_of_iff (IsReported (Program.run code).1) ⟨.mk, Reports.ending⟩

/-- What a run tells of a program: all that it has printed, and an error unless it has come to its
end. -/
def Tells (code : String) (value : Json) : Prop :=
  ∃ error, value = runResult (.str (Program.run code).2) error ∧
    (error = none ↔ (Program.run code).1 = .finished)

section Requests

variable {fields : List (String × Json)} {code : String} (asks : AsksToRun fields code)
  (worker : Worker)

include asks

theorem AsksToRun.attempt_eq : worker.attempt (.fields fields) =
    (outcomeOf (Program.run code).1 (Program.run code).2, worker) := by
  rw [attempt, handle, asks.op]
  simp only [unhashable, run, asks.timer, asks.given]

theorem AsksToRun.outcome_eq : worker.outcome (.fields fields) =
    (outcomeOf (Program.run code).1 (Program.run code).2, worker) := by
  rw [@outcome_of_isRepeatable worker (.fields fields) asks.id, asks.attempt_eq]

/-- Only the end of its program lets such a request end a worker. -/
theorem AsksToRun.ends_iff : Ends worker (.fields fields) ↔ ¬ Reports code := by
  rw [← isEnded_outcome_iff, asks.outcome_eq, isEnded_outcomeOf_iff]
  exact not_congr ⟨.mk, Reports.ending⟩

end Requests

/-! ### Runs among other requests -/

section Inputs

variable {worker : Worker} {requests : List Request} {responses : List Json} {ending : Ending}
  {place : Nat} {request : Request}

/-- Where a worker has come to a request, it answers it unless the request ends it. -/
theorem Session.lt_length_iff (session : Session worker requests responses ending)
    (asked : requests[place]? = some request) (reached : place ≤ responses.length) :
    place < responses.length ↔ ¬ Ends (worker.before requests place) request := by
  refine ⟨session.not_ends_of_lt asked, fun stays => ?_⟩
  refine Decidable.byContradiction fun beyond => ?_
  obtain rfl : place = responses.length := by omega
  have inside := (List.getElem?_eq_some_iff.mp asked).1
  cases ending with
  | endOfInput => exact beyond (session.length_eq ▸ inside)
  | ended name =>
      obtain ⟨other, found, ends⟩ := session.ends_of_ended
      obtain rfl : request = other := Option.some.inj (asked.symm.trans found)
      exact stays ends

theorem Session.ending_of_length_eq (session : Session worker requests responses ending)
    (asked : requests[responses.length]? = some request) : ∃ name, ending = .ended name := by
  cases ending with
  | ended name => exact ⟨name, rfl⟩
  | endOfInput =>
      have inside := (List.getElem?_eq_some_iff.mp asked).1
      exact absurd inside (session.length_eq ▸ Nat.lt_irrefl _)

end Inputs

section Serving

variable {fields : List (String × Json)} {code : String} {worker : Worker}
  {lines : List (List Char)} {place : Nat} (asks : AsksToRun fields code)
  (asked : (requestsOf lines)[place]? = some (.fields fields))
  (reached : place ≤ (worker.serve lines).1.length)

include asks asked reached

/-- A run that has something to tell is answered in its place, whatever was asked before.  The
worker is the same after it and answers the next request, unless that one ends it by itself. -/
theorem serve_run_reported (reported : Reports code) :
    ∃ value, Tells code value ∧
      (worker.serve lines).1[place]? =
        some (.obj [("id", field fields "id" .null), ("ok", .bool true), ("value", value)]) ∧
      worker.before (requestsOf lines) (place + 1) = worker.before (requestsOf lines) place ∧
      ∀ next, (requestsOf lines)[place + 1]? = some next →
        ¬ Ends (worker.before (requestsOf lines) place) next →
          place + 1 < (worker.serve lines).1.length := by
  have session := worker.session_serve lines
  have answered : place < (worker.serve lines).1.length :=
    (session.lt_length_iff asked reached).mpr fun ends => (asks.ends_iff _).mp ends reported
  have same : worker.before (requestsOf lines) (place + 1) =
      worker.before (requestsOf lines) place := by
    rw [worker.before_succ asked, asks.outcome_eq]
  obtain ⟨error, outcome, isFinished⟩ := exists_outcomeOf reported.ending (Program.run code).2
  refine ⟨_, ⟨error, rfl, isFinished⟩, ?_, same, fun next following stays => ?_⟩
  · obtain ⟨response, given⟩ : ∃ response, (worker.serve lines).1[place]? = some response :=
      ⟨_, List.getElem?_eq_getElem answered⟩
    obtain ⟨request, found, answers⟩ := session.answers_in_place given
    obtain rfl : Request.fields fields = request := Option.some.inj (asked.symm.trans found)
    have attempted := congrArg Prod.fst (asks.attempt_eq (worker.before (requestsOf lines) place))
    rw [given]
    cases answers with
    | refusal fails =>
        rw [fails] at attempted
        exact nomatch attempted.trans outcome
    | value known gives writable =>
        rw [gives] at attempted
        cases attempted.trans outcome
        rfl
  · exact (session.lt_length_iff following answered).mpr (same ▸ stays)

/-- A run that has nothing to tell ends the worker, and there is no response to it. -/
theorem serve_run_silent (silent : ¬ Reports code) :
    (worker.serve lines).1.length = place ∧ ∃ name, (worker.serve lines).2 = .ended name := by
  have session := worker.session_serve lines
  have unanswered : ¬ place < (worker.serve lines).1.length := fun answered =>
    (session.lt_length_iff asked reached).mp answered ((asks.ends_iff _).mpr silent)
  obtain rfl : place = (worker.serve lines).1.length := by omega
  exact ⟨rfl, session.ending_of_length_eq asked⟩

end Serving

end Worker
end AnswerKey
