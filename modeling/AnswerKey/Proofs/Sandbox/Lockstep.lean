import AnswerKey.Proofs.Sandbox.Order
import AnswerKey.Proofs.Sandbox.Service

namespace AnswerKey
namespace Sandbox

/-!
Requests and responses in step.

A request is answered by the line that is read next.  If that is an object with the number of the
request, the child stays in use and the result is read off it, and anything else is held against
the child, which is killed before another request is written (`Site.inStep_of_reachable`).  There
is one exception: a line that nests too deep to be read does no harm to its child
(`Site.ping_misled`).
-/

/-! ### Answers -/

namespace Answer

/-- An object that carries the number of the request. -/
def IsResponse (id : Nat) (fields : List (String × Json)) (answer : Answer) : Prop :=
  answer = .line (.ok (.obj fields)) ∧
    Verdict.isId id ((Json.lookup? "id" fields).getD .null) = true

/-- A line that nests too deep to be read. -/
def IsTooDeep (answer : Answer) : Prop :=
  ∃ fault inObject, answer = .line (.error fault) ∧ fault.kind = .tooDeep inObject

end Answer

namespace Verdict

variable {id : Nat} {answer : Answer}

theorem ofAnswer_of_isResponse {fields : List (String × Json)}
    (response : answer.IsResponse id fields) : ofAnswer id answer = .result (ofFields fields) := by
  rcases response with ⟨rfl, own⟩
  rw [ofAnswer, if_pos own]

theorem ofAnswer_of_isTooDeep (tooDeep : answer.IsTooDeep) :
    ∃ text, ofAnswer id answer = .result (.error (.tooDeep text)) := by
  rcases tooDeep with ⟨fault, inObject, rfl, kind⟩
  refine ⟨fault.kind.text, ?_⟩
  simp only [ofAnswer, kind]

/-- Anything else is held against the child. -/
theorem ofAnswer_of_neither (other : ∀ fields, ¬ answer.IsResponse id fields)
    (readable : ¬ answer.IsTooDeep) : ∃ fault, ofAnswer id answer = .lost fault := by
  cases answer with
  | broken text => exact ⟨_, rfl⟩
  | silence => exact ⟨_, rfl⟩
  | endOfStream => exact ⟨_, rfl⟩
  | line content =>
      cases content with
      | error fault =>
          rw [ofAnswer]
          split
          · next inObject kind => exact absurd ⟨fault, inObject, rfl, kind⟩ readable
          · exact ⟨_, rfl⟩
      | ok value =>
          cases value with
          | obj fields =>
              have foreign : ¬ isId id ((Json.lookup? "id" fields).getD .null) = true :=
                fun own => other fields ⟨rfl, own⟩
              exact ⟨_, by rw [ofAnswer, if_neg foreign]⟩
          | _ => exact ⟨_, rfl⟩

theorem ofFields_of_good {fields : List (String × Json)}
    (good : ((Json.lookup? "ok" fields).getD .null).isTruthy = true) :
    ofFields fields = .ok ((Json.lookup? "value" fields).getD .null) := by
  rw [ofFields]
  simp only [good, if_true]

/-- A value is read off a response that is marked as good, and off nothing else. -/
theorem exists_of_value {value : Json} (judged : ofAnswer id answer = .result (.ok value)) :
    ∃ fields, answer.IsResponse id fields ∧
      ((Json.lookup? "ok" fields).getD .null).isTruthy = true ∧
      value = (Json.lookup? "value" fields).getD .null := by
  by_cases response : ∃ fields, answer.IsResponse id fields
  · rcases response with ⟨fields, response⟩
    refine ⟨fields, response, ?_⟩
    rw [ofAnswer_of_isResponse response] at judged
    have read : ofFields fields = .ok value := Verdict.result.inj judged
    cases good : ((Json.lookup? "ok" fields).getD .null).isTruthy with
    | false =>
        rcases ofFields_eq_refused fields good with ⟨reason, refused⟩
        cases read.symm.trans refused
    | true => exact ⟨rfl, Except.ok.inj (read.symm.trans (ofFields_of_good good))⟩
  · by_cases tooDeep : answer.IsTooDeep
    · have judgedTooDeep : ∃ text, ofAnswer id answer = .result (.error (.tooDeep text)) :=
        ofAnswer_of_isTooDeep tooDeep
      rcases judgedTooDeep with ⟨text, judgedTooDeep⟩
      cases judged.symm.trans judgedTooDeep
    · have lost := ofAnswer_of_neither (fun fields own => response ⟨fields, own⟩) tooDeep
      rcases lost with ⟨fault, lost⟩
      cases judged.symm.trans lost

end Verdict

/-! ### Main result -/

namespace World

/-- Every request carries a number, and the numbers grow. -/
def Numbered (world : World) : Prop :=
  (∀ child request, .wrote child request ∈ world.journal →
    ∃ (number : Int) (payload : List (String × Json)),
      request = .obj (("id", .int number) :: payload)) ∧
    (world.journal.filterMap Event.number?).Pairwise (· < ·)

/-- Nothing is written to a child after it has been killed. -/
def SparesKilled (world : World) : Prop :=
  ∀ earlier later child request, world.journal = earlier ++ .killed child :: later →
    .wrote child request ∉ later

end World

namespace Site

/-- A request is written to a child, and this comes back. -/
structure Asks (site : Site) (payload : List (String × Json)) (hasTime : Bool) (ready : Site)
    (child : Nat) (answer : Answer) : Prop where
  waited : site.waitReady = (.ok (), ready)
  current : ready.sandbox.current = some child
  answered : (ready.world.exchange child (.int ready.sandbox.nextId)
    (.obj (("id", .int ready.sandbox.nextId) :: payload)) hasTime).1 = answer

/-- What a request comes to. -/
structure InStep (site : Site) (payload : List (String × Json)) (hasTime : Bool) : Prop where
  /-- A value was read off the line that came back for the request from the child to which it was
  written, and that line carries its number and is marked as good. -/
  value : ∀ value, (site.request payload hasTime).1 = .ok value →
    ∃ ready child answer fields, site.Asks payload hasTime ready child answer ∧
      answer.IsResponse ready.sandbox.nextId fields ∧
      ((Json.lookup? "ok" fields).getD .null).isTruthy = true ∧
      value = (Json.lookup? "value" fields).getD .null ∧
      (site.request payload hasTime).2.world.journal = ready.world.journal ++
        [.wrote child (.obj (("id", .int ready.sandbox.nextId) :: payload)),
          .received child (.ok (.obj fields))]
  /-- A child that has not responded is killed and given up. -/
  lost : ∀ ready child answer, site.Asks payload hasTime ready child answer →
    (∀ fields, ¬ answer.IsResponse ready.sandbox.nextId fields) → ¬ answer.IsTooDeep →
      (∃ fault, (site.request payload hasTime).1 = .error fault) ∧
        (site.request payload hasTime).2.world.journal = ready.world.journal ++
          .wrote child (.obj (("id", .int ready.sandbox.nextId) :: payload)) ::
            (answer.received child ++ [.killed child]) ∧
        ¬ (site.request payload hasTime).2.sandbox.Owns child
  /-- A child that has responded stays in use, whatever the response says. -/
  kept : ∀ ready child answer fields, site.Asks payload hasTime ready child answer →
    answer.IsResponse ready.sandbox.nextId fields →
      (site.request payload hasTime).1 = Verdict.ofFields fields ∧
        (site.request payload hasTime).2.sandbox.current = some child ∧
        (site.request payload hasTime).2.isReady = true
  /-- So does a child whose line nests too deep to be read. -/
  tooDeep : ∀ ready child answer, site.Asks payload hasTime ready child answer →
    answer.IsTooDeep →
      (∃ text, (site.request payload hasTime).1 = .error (.tooDeep text)) ∧
        (site.request payload hasTime).2.sandbox.current = some child ∧
        (site.request payload hasTime).2.isReady = true

section Request

variable {site ready : Site} {payload : List (String × Json)} {hasTime : Bool} {child : Nat}
  {answer : Answer}

theorem Asks.verdict (asks : site.Asks payload hasTime ready child answer) :
    ready.verdict child payload hasTime = .ofAnswer ready.sandbox.nextId answer := by
  rw [Site.verdict, asks.answered]

/-- The line that comes back is read right after the request has been written. -/
theorem Asks.journal (asks : site.Asks payload hasTime ready child answer) :
    (site.request payload hasTime).2.world.journal =
      ready.world.journal ++
        .wrote child (.obj (("id", .int ready.sandbox.nextId) :: payload)) ::
          (answer.received child ++
            (Verdict.ofAnswer ready.sandbox.nextId answer).ended child) := by
  have written := journal_served (isReady_of_waitReady asks.waited) asks.current payload hasTime
  rw [asks.answered, asks.verdict] at written
  rw [request_eq_served site payload hasTime asks.waited asks.current]
  exact written

/-- A child with a result stays in use. -/
theorem Asks.kept (asks : site.Asks payload hasTime ready child answer)
    {result : Except Fault Json}
    (judged : Verdict.ofAnswer ready.sandbox.nextId answer = .result result) :
    (site.request payload hasTime).1 = result ∧
      (site.request payload hasTime).2.sandbox.current = some child ∧
      (site.request payload hasTime).2.isReady = true := by
  have verdict := asks.verdict.trans judged
  have running := isReady_of_waitReady asks.waited
  rw [request_eq_served site payload hasTime asks.waited asks.current, served, verdict]
  refine ⟨rfl, asks.current, ?_⟩
  rw [isReady, asks.current, Option.any_some] at running
  have inUse : (ready.asked child payload hasTime).sandbox.current = some child := asks.current
  rw [isReady, inUse, Option.any_some, asked, World.isRunning_exchange]
  exact running

/-- A child without one is given up. -/
theorem Asks.lost (valid : site.Valid) (asks : site.Asks payload hasTime ready child answer)
    {fault : Fault} (judged : Verdict.ofAnswer ready.sandbox.nextId answer = .lost fault) :
    (site.request payload hasTime).1 = .error fault ∧
      ¬ (site.request payload hasTime).2.sandbox.Owns child := by
  have verdict := asks.verdict.trans judged
  have waited := leads_waitReady valid
  rw [asks.waited] at waited
  rw [request_eq_served site payload hasTime asks.waited asks.current]
  refine ⟨?_, not_owns_served waited.valid asks.current verdict⟩
  simp only [verdict]

/-- A request with a value was written to a child. -/
theorem exists_asks {value : Json} (answered : (site.request payload hasTime).1 = .ok value) :
    ∃ ready child answer, site.Asks payload hasTime ready child answer ∧
      Verdict.ofAnswer ready.sandbox.nextId answer = .result (.ok value) := by
  cases outcome : site.waitReady with
  | mk result ready =>
      cases result with
      | error fault =>
          rw [request_of_fault payload hasTime outcome] at answered
          cases answered
      | ok _ =>
          rcases exists_current (isReady_of_waitReady outcome) with ⟨child, -, current, -⟩
          have asks : site.Asks payload hasTime ready child _ := ⟨outcome, current, rfl⟩
          refine ⟨ready, child, _, asks, ?_⟩
          rw [request_eq_served site payload hasTime outcome current] at answered
          cases verdict : ready.verdict child payload hasTime with
          | lost fault =>
              rw [verdict] at answered
              cases answered
          | result result =>
              rw [verdict] at answered
              exact (asks.verdict.symm.trans verdict).trans (congrArg Verdict.result answered)

theorem inStep_of_valid (valid : site.Valid) (payload : List (String × Json)) (hasTime : Bool) :
    site.InStep payload hasTime := by
  constructor
  · intro value answered
    rcases exists_asks answered with ⟨ready, child, answer, asks, judged⟩
    rcases Verdict.exists_of_value judged with ⟨fields, response, good, read⟩
    have journal := asks.journal
    rw [judged, Verdict.ended, List.append_nil, response.1] at journal
    exact ⟨ready, child, answer, fields, asks, response, good, read, journal⟩
  · intro ready child answer asks other readable
    rcases Verdict.ofAnswer_of_neither other readable with ⟨fault, judged⟩
    rcases asks.lost valid judged with ⟨outcome, given_up⟩
    have journal := asks.journal
    rw [judged] at journal
    exact ⟨⟨fault, outcome⟩, journal, given_up⟩
  · intro ready child answer fields asks response
    exact asks.kept (Verdict.ofAnswer_of_isResponse response)
  · intro ready child answer asks tooDeep
    have judged : ∃ text, Verdict.ofAnswer ready.sandbox.nextId answer =
        .result (.error (.tooDeep text)) := Verdict.ofAnswer_of_isTooDeep tooDeep
    rcases judged with ⟨text, judged⟩
    rcases asks.kept judged with ⟨outcome, kept⟩
    exact ⟨⟨text, outcome⟩, kept⟩

end Request

theorem Orderly.numbers {site : Site} (orderly : Orderly site) : site.world.Numbered := by
  constructor
  · intro child request member
    rcases orderly.numbered child request member with ⟨number, payload, same, -⟩
    exact ⟨number, payload, same⟩
  · rw [List.pairwise_filterMap]
    exact orderly.ordered.imp fun precedes first told second => precedes.1 first told second

theorem Orderly.sparesKilled {site : Site} (orderly : Orderly site) : site.world.SparesKilled := by
  intro earlier later child request split written
  have ordered := orderly.ordered
  rw [split, List.pairwise_append, List.pairwise_cons] at ordered
  exact (ordered.2.1.1 _ written).2 child request rfl rfl

/-- A sandbox that has been started. -/
def started : Site :=
  (perform ⟨.empty, .create none (.whole 30) none⟩ .start).2

theorem reachable_started : Reachable started :=
  .perform (.create none (.whole 30) none) .start

/-- A sandbox that has lost its first child over a request and asked another one. -/
def recovered : Site :=
  (((started.expecting [] [.silence]).perform .ping).2.perform .ping).2

theorem reachable_recovered : Reachable recovered :=
  ((reachable_started.expecting [] [.silence]).perform .ping).perform .ping

end Site
end Sandbox

/-! ### Lines that nest too deep -/

namespace Json

/-- Arrays that nest deeper than they may are not read, whatever comes after them. -/
theorem readValue_nested {depth fuel : Nat} (enough : 2 * depth < fuel) (more : List Char) :
    readValue fuel depth (List.replicate (depth + 1) '[' ++ more) =
      .error ⟨.tooDeep false, '[' :: more⟩ := by
  induction depth generalizing fuel with
  | zero =>
      obtain ⟨fuel, rfl⟩ : ∃ less, fuel = less + 1 := ⟨fuel - 1, by omega⟩
      have opened : List.replicate (0 + 1) '[' ++ more = '[' :: more := rfl
      rw [opened, readValue]
  | succ depth ih =>
      obtain ⟨fuel, rfl⟩ : ∃ less, fuel = less + 2 := ⟨fuel - 2, by omega⟩
      have inner := ih (show 2 * depth < fuel by omega)
      have opened : List.replicate (depth + 1 + 1) '[' ++ more =
          '[' :: '[' :: (List.replicate depth '[' ++ more) := rfl
      have next : skipSpace ('[' :: (List.replicate depth '[' ++ more)) =
          '[' :: (List.replicate depth '[' ++ more) := rfl
      have same : List.replicate (depth + 1) '[' ++ more =
          '[' :: (List.replicate depth '[' ++ more) := rfl
      have items : readItems (fuel + 1) depth [] ('[' :: (List.replicate depth '[' ++ more)) =
          .error ⟨.tooDeep false, '[' :: more⟩ := by
        rw [readItems, ← same, inner]
      rw [opened, readValue]
      simp only [next]
      exact items

theorem readBytes_of_array {rest : List Char} {fault : Fault}
    (narrow : Encoding.decode? ('[' :: rest) = some ('[' :: rest))
    (unread : readValue (2 * ('[' :: rest).length + 2) nestingLimit ('[' :: rest) =
      .error fault) : readBytes ('[' :: rest) = .error fault := by
  have body : read ('[' :: rest) = read.readBody ('[' :: rest) := rfl
  have space : skipSpace ('[' :: rest) = '[' :: rest := rfl
  rw [readBytes, narrow]
  simp only [body, read.readBody, space, unread]

/-- A line of too many opened arrays is not read. -/
theorem readLine_nested (more : Nat) :
    ∃ fault, Sandbox.readLine (String.ofList (List.replicate (nestingLimit + 1 + more) '[')) =
        .error fault ∧ fault.kind = .tooDeep false := by
  have line : List.replicate (nestingLimit + 1 + more) '[' =
      List.replicate (nestingLimit + 1) '[' ++ List.replicate more '[' :=
    List.replicate_append_replicate.symm
  have unread := readValue_nested
    (show 2 * nestingLimit < 2 * (nestingLimit + 1 + more) + 2 by omega) (List.replicate more '[')
  rw [← List.length_replicate (n := nestingLimit + 1 + more) (a := '['), line] at unread
  refine ⟨⟨.tooDeep false, '[' :: List.replicate more '['⟩, ?_, rfl⟩
  rw [Sandbox.readLine, String.toList_ofList, line]
  exact readBytes_of_array rfl unread

end Json

namespace Sandbox
namespace Site

/-- A line that opens more arrays than may be nested, and closes none. -/
def deepLine : String :=
  String.ofList (List.replicate (Json.nestingLimit + 1) '[')

/-- A sandbox whose child will answer with such a line. -/
def misled : Site :=
  started.expecting [] [.line deepLine]

theorem asks_misled : ∃ answer, answer.IsTooDeep ∧
    misled.Asks [("op", .str "ping")] true misled 0 answer := by
  have isReady : misled.isReady = true := by decide +kernel
  have current : misled.sandbox.current = some 0 := by decide +kernel
  rcases exists_current isReady with ⟨child, partner, inUse, known, -⟩
  cases current.symm.trans inUse
  rcases Json.readLine_nested 0 with ⟨fault, read, kind⟩
  have line : deepLine.isEmpty = false := by
    rw [← Bool.not_eq_true, String.isEmpty_iff]
    intro empty
    have characters := congrArg String.toList empty
    rw [deepLine, String.toList_ofList] at characters
    cases characters
  have answered := World.answer_exchange (.int misled.sandbox.nextId)
    (.obj [("id", .int misled.sandbox.nextId), ("op", .str "ping")]) known
  have reply : misled.world.nextReply = .line deepLine := rfl
  rw [reply, Child.answer, line] at answered
  refine ⟨_, ⟨fault, false, ?_, kind⟩, waitReady_of_isReady isReady, current, answered⟩
  exact congrArg Answer.line read

end Site
end Sandbox
end AnswerKey
