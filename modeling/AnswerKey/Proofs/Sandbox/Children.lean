import AnswerKey.Proofs.Worker.Delivery
import AnswerKey.Sandbox.Child

namespace AnswerKey

/-!
What happens to children.

An event of the world concerns one child.  It touches no other child, it makes no child run again,
and it leaves every helper in place that the child has loaded: a helper is gone only with its
child.  These facts are collected in `Sandbox.World.Concerns`.
-/

/-! ### Helpers of a worker -/

namespace Worker

theorem mem_helpers_loadSource (worker : Worker) (source : String) {helper : Helper}
    (member : helper ∈ worker.helpers) : helper ∈ (worker.loadSource source).2.helpers := by
  rw [loadSource]
  cases Helper.ofSource? source with
  | some loaded => exact List.mem_insert_of_mem member
  | none =>
      rcases Program.runIn worker.names source with ⟨ending, progress⟩
      cases ending with
      | raised class_ arguments =>
          simp only []
          split <;> exact member
      | _ => exact member

theorem mem_helpers_load (worker : Worker) (request : List (String × Json)) {helper : Helper}
    (member : helper ∈ worker.helpers) : helper ∈ (worker.load request).2.helpers := by
  rw [load]
  split
  · exact member
  · cases field request "source" (.str "") with
    | str source => exact worker.mem_helpers_loadSource source member
    | _ => exact member

/-- No request makes a worker lose a helper. -/
theorem mem_helpers_handle (worker : Worker) (request : List (String × Json)) {helper : Helper}
    (member : helper ∈ worker.helpers) : helper ∈ (worker.handle request).2.helpers := by
  rw [handle]
  cases unhashable (field request "op" .null) with
  | some fault => exact member
  | none =>
      simp only []
      split
      · exact worker.mem_helpers_load request member
      all_goals exact member

theorem mem_helpers_answer (worker : Worker) (request : Request) {helper : Helper}
    (member : helper ∈ worker.helpers) : helper ∈ (worker.answer request).2.helpers := by
  cases request with
  | fields fields => exact worker.mem_helpers_handle fields member
  | unusable fault => exact member

theorem ofSource?_source (helper : Helper) : Helper.ofSource? helper.source = some helper := by
  cases helper <;> decide

theorem name_has_no_zero (helper : Helper) : helper.name.toList.contains '\x00' = false := by
  cases helper <;> decide

/-- A number is repeated in a response as it stands. -/
theorem isRepeatable_number (number : Int) : IsRepeatable (.int number) :=
  (by decide : 0 < Json.writingLimit)

/-- What comes of a request with a number is what comes of working on it. -/
theorem outcome_of_number (worker : Worker) (number : Int) (fields : List (String × Json)) :
    worker.outcome (.fields (("id", .int number) :: fields)) =
      worker.handle (("id", .int number) :: fields) :=
  worker.outcome_of_isRepeatable (isRepeatable_number number)

/-- A worker that is asked to load a helper has it afterwards. -/
theorem outcome_load (worker : Worker) (number : Int) (helper : Helper) :
    worker.outcome (.fields [("id", .int number), ("op", .str "load"),
      ("name", .str helper.name), ("source", .str helper.source)]) =
        (.value (.bool true), { worker with helpers := worker.helpers.insert helper }) := by
  have name : field [("id", .int number), ("op", .str "load"), ("name", .str helper.name),
      ("source", .str helper.source)] "name" (.str "helper") = .str helper.name := rfl
  have source : field [("id", .int number), ("op", .str "load"), ("name", .str helper.name),
      ("source", .str helper.source)] "source" (.str "") = .str helper.source := rfl
  rw [outcome_of_number, handle]
  change load worker _ = _
  rw [load, name, source, Json.text, name_has_no_zero]
  simp only [loadSource, ofSource?_source]
  rfl

/-- A function can be called by its name once its helper is loaded. -/
theorem find?_name {helpers : List Helper} {function : Function}
    (loaded : function.helper ∈ helpers) :
    Function.find? helpers function.name = some function := by
  cases function <;> simp [Function.find?, Function.all, Function.name, loaded]

/-- A worker that has the helper of a function calls the function. -/
theorem outcome_calling (worker : Worker) (number : Int) {function : Function}
    (loaded : function.helper ∈ worker.helpers) (arguments : List Json) :
    (worker.outcome (.fields [("id", .int number), ("op", .str "call"),
      ("func", .str function.name), ("args", .arr arguments)])).1 =
        .ofCall (function.call (.arr arguments)) := by
  have answered : (worker.handle [("id", .int number), ("op", .str "call"),
      ("func", .str function.name), ("args", .arr arguments)]).1 =
        worker.call [("id", .int number), ("op", .str "call"), ("func", .str function.name),
          ("args", .arr arguments)] := rfl
  have func : field [("id", .int number), ("op", .str "call"), ("func", .str function.name),
      ("args", .arr arguments)] "func" (.str "") = .str function.name := rfl
  have args : field [("id", .int number), ("op", .str "call"), ("func", .str function.name),
      ("args", .arr arguments)] "args" (.arr []) = .arr arguments := rfl
  rw [outcome_of_number, answered, call, func, args]
  simp only [unhashable, find?_name loaded]

/-- A worker that has the helper of a function gives what the function gives. -/
theorem outcome_call (worker : Worker) (number : Int) {function : Function}
    {arguments : List Json} {value : Json} (loaded : function.helper ∈ worker.helpers)
    (gives : function.call (.arr arguments) = .ok (.value value)) :
    (worker.outcome (.fields [("id", .int number), ("op", .str "call"),
      ("func", .str function.name), ("args", .arr arguments)])).1 = .value value := by
  rw [worker.outcome_calling number loaded, gives]
  rfl

end Worker

namespace Sandbox

/-- The response of a worker comes back as a line. -/
theorem Child.answer_worker {child : Child} {id request response : Json}
    (responded : (child.worker.answer (.ofJson request)).1 = some response) :
    (child.answer id request .worker).1 = .line (.ok response) := by
  rw [Child.answer]
  cases answered : child.worker.answer (.ofJson request) with
  | mk given worker =>
      rw [answered] at responded
      cases responded
      rfl

namespace World

/-- The helpers that a child has loaded. -/
def helpersOf (world : World) (child : Nat) : List Worker.Helper :=
  ((world.children[child]?).map (·.worker.helpers)).getD []

theorem helpersOf_eq {world : World} {child : Nat} {partner : Child}
    (known : world.children[child]? = some partner) :
    world.helpersOf child = partner.worker.helpers := by
  rw [helpersOf, known]
  rfl

/-- An event that concerns one child. -/
structure Concerns (child : Nat) (before after : World) : Prop where
  length : after.children.length = before.children.length
  others : ∀ other, other ≠ child → after.children[other]? = before.children[other]?
  helpers : ∀ helper ∈ before.helpersOf child, helper ∈ after.helpersOf child

/-- The journal is not about children. -/
theorem Concerns.ofRecord {child : Nat} {before after : World} {event : Event}
    (concerns : Concerns child (before.record event) after) : Concerns child before after :=
  ⟨concerns.length, concerns.others, concerns.helpers⟩

/-! ### Launches -/

section Launch

variable {world : World} (interpreter : Option String) (limit : Option Int)

/-- The next launch; where nothing is laid down, it goes well. -/
def nextLaunch (world : World) : Launch :=
  world.launches.head?.getD {}

/-- A launch that is refused makes no child. -/
theorem launch_refused {text : String} (refusal : world.nextLaunch.refusal = some text) :
    world.launch interpreter limit =
      (.error text, { world with launches := world.launches.tail }.record
        (.launched none interpreter (world.nextLaunch.measures limit))) := by
  rw [nextLaunch] at refusal ⊢
  rw [launch]
  simp only [refusal]

/-- Any other launch adds a child. -/
theorem launch_accepted (accepted : world.nextLaunch.refusal = none) :
    world.launch interpreter limit =
      (.ok world.children.length,
        { world with
          launches := world.launches.tail
          children := world.children ++ [Child.ofLaunch world.nextLaunch] }.record
            (.launched (some world.children.length) interpreter
              (world.nextLaunch.measures limit))) := by
  rw [nextLaunch] at accepted ⊢
  rw [launch]
  simp only [accepted]

end Launch

/-! ### The ends of children -/

theorem concerns_exit (world : World) (child : Nat) : Concerns child world (world.exit child) where
  length := List.length_modify _ _ _
  others _ different := List.getElem?_modify_ne _ _ different.symm
  helpers helper member := by
    have kept : (world.exit child).helpersOf child = world.helpersOf child := by
      rw [helpersOf, helpersOf, exit, List.getElem?_modify_eq]
      cases world.children[child]? <;> rfl
    rwa [kept]

theorem concerns_kill (world : World) (child : Nat) : Concerns child world (world.kill child) := by
  rw [kill]
  split
  · exact (concerns_exit (world.record (.killed child)) child).ofRecord
  · exact ⟨rfl, fun _ _ => rfl, fun _ member => member⟩

theorem concerns_shutDown (world : World) (child : Nat) :
    Concerns child world (world.shutDown child) := by
  rw [shutDown]
  split
  · exact (concerns_kill (world.record (.closedInput child)) child).ofRecord
  · exact (concerns_exit (world.record (.closedInput child)) child).ofRecord

theorem replies_exit (world : World) (child : Nat) : (world.exit child).replies = world.replies :=
  rfl

theorem replies_kill (world : World) (child : Nat) :
    (world.kill child).replies = world.replies := by
  rw [kill]
  split <;> rfl

theorem replies_shutDown (world : World) (child : Nat) :
    (world.shutDown child).replies = world.replies := by
  rw [shutDown]
  split
  · rw [replies_kill]
    rfl
  · rfl

/-! ### Exchanges -/

section Exchange

variable {world : World} {child : Nat} {partner : Child} (id request : Json) (hasTime : Bool)

/-- The next reply; where nothing is laid down, the worker answers. -/
def nextReply (world : World) : Reply :=
  world.replies.head?.getD .worker

theorem children_exchange (known : world.children[child]? = some partner) :
    (world.exchange child id request hasTime).2.children =
      world.children.set child (partner.answer id request world.nextReply).2 := by
  rw [exchange, known]
  simp only [nextReply]
  split
  · rfl
  · split <;> rfl
  · rfl

theorem replies_exchange (known : world.children[child]? = some partner) :
    (world.exchange child id request hasTime).2.replies = world.replies.tail := by
  rw [exchange, known]
  simp only []
  split
  · rfl
  · split <;> rfl
  · rfl

/-- With time to read, what comes back is what the child answers. -/
theorem answer_exchange (known : world.children[child]? = some partner) :
    (world.exchange child id request true).1 = (partner.answer id request world.nextReply).1 := by
  rw [exchange, known]
  simp only [nextReply]
  split
  · next text found => exact found.symm
  · next content found => exact found.symm
  · rfl

theorem concerns_exchange (known : world.children[child]? = some partner) :
    Concerns child world (world.exchange child id request hasTime).2 := by
  have children := children_exchange id request hasTime known
  rcases List.getElem?_eq_some_iff.mp known with ⟨inside, -⟩
  constructor
  · rw [children, List.length_set]
  · intro other different
    rw [children, List.getElem?_set_ne different.symm]
  · intro helper member
    have now : (world.exchange child id request hasTime).2.children[child]? =
        some (partner.answer id request world.nextReply).2 := by
      rw [children, List.getElem?_set_self inside]
    rw [helpersOf_eq known] at member
    rw [helpersOf_eq now]
    cases world.nextReply with
    | worker => exact partner.worker.mem_helpers_answer _ member
    | _ => exact member

end Exchange
end World
end Sandbox
end AnswerKey
