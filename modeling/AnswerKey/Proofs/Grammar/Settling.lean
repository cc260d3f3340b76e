import AnswerKey.Proofs.Grammar.Reading
import AnswerKey.Proofs.Snippet.Enclosing

namespace AnswerKey
namespace Snippet

/-!
Parsers that look no further than the end of an expression.

An expression ends at every mark of layout and where a bracket closes that it has not opened.  What a
parser reads up to there is settled if it does not depend on which of these it is
(`Parser.Settles`).  A closing bracket is no end for what stands inside brackets, so the brackets that
are still open are counted along the way (`Shuts`).  Every way to put parsers together keeps this.
-/

/-- Whether no expression goes on with a token. -/
def Token.isStop : Token → Bool
  | .lineEnd => true
  | .indent => true
  | .dedent => true
  | .finish => true
  | .symbol shown => shown == ")"
  | _ => false

/-- Tokens in front of which an expression ends. -/
def Stops (tokens : List Token) : Prop :=
  ∃ token rest, tokens = token :: rest ∧ token.isStop = true

/-- A token that is neither a bracket nor a stop. -/
def Token.isPlain (token : Token) : Bool :=
  !(token.opens || token.closes || token.isStop)

/-- Tokens that close all brackets that they open, and a number of others. -/
def Shuts : Nat → List Token → Prop
  | count, [] => count = 0
  | count, token :: rest => (token.closes = true → 0 < count) ∧ Shuts (token.openedBehind count) rest

namespace Shuts

variable {token : Token} {tokens : List Token} {count : Nat}

theorem tail_of_plain (plain : token.opens = false ∧ token.closes = false)
    (shuts : Shuts count (token :: tokens)) : Shuts count tokens := by
  have behind := shuts.2
  rwa [Token.openedBehind_of_plain plain] at behind

theorem tail_of_opens (opening : token.opens = true) (shuts : Shuts count (token :: tokens)) :
    Shuts (count + 1) tokens := by
  have behind := shuts.2
  rwa [Token.openedBehind_of_opens opening] at behind

theorem tail_of_closes (closing : token.closes = true) (shuts : Shuts (count + 1) (token :: tokens)) :
    Shuts count tokens := by
  have behind := shuts.2
  rwa [Token.openedBehind_of_closes closing] at behind

end Shuts

namespace Parser

variable {α β : Type}

/-- What a parser reads is settled by the tokens in front of the stop.  It takes a least number of
them, and leaves some that close a number of brackets. -/
def SettlesOn (tokens : List Token) (depth least : Nat) (p : Parser α) : Prop :=
  ∃ outcome : Option (α × List Token),
    (∀ rest, Stops rest → p (tokens ++ rest) = outcome.map fun found => (found.1, found.2 ++ rest)) ∧
    ∀ value left, outcome = some (value, left) → Shuts depth left ∧ left.length + least ≤ tokens.length

/-- What a parser reads is always settled.  It closes a number of brackets more than it opens, and
takes a least number of tokens. -/
def Settles (least closed : Nat) (p : Parser α) : Prop :=
  ∀ depth tokens, Shuts (depth + closed) tokens → SettlesOn tokens depth least p

namespace SettlesOn

variable {tokens left : List Token} {depth middle least more : Nat} {p : Parser α} {f : α → Parser β}

theorem fails (none : ∀ rest, Stops rest → p (tokens ++ rest) = none) :
    SettlesOn tokens depth least p :=
  ⟨Option.none, none, by simp⟩

theorem reads {value : α} (some : ∀ rest, Stops rest → p (tokens ++ rest) = some (value, left ++ rest))
    (shuts : Shuts depth left) (shorter : left.length + least ≤ tokens.length) :
    SettlesOn tokens depth least p := by
  refine ⟨Option.some (value, left), some, ?_⟩
  rintro _ _ ⟨⟩
  exact ⟨shuts, shorter⟩

theorem congr {q : Parser α} (same : ∀ rest, Stops rest → q (tokens ++ rest) = p (tokens ++ rest))
    (settles : SettlesOn tokens depth least p) : SettlesOn tokens depth least q := by
  obtain ⟨outcome, reads, goes⟩ := settles
  exact ⟨outcome, fun rest stops => (same rest stops).trans (reads rest stops), goes⟩

theorem mono (settles : SettlesOn tokens depth more p) (fewer : least ≤ more) :
    SettlesOn tokens depth least p := by
  obtain ⟨outcome, reads, goes⟩ := settles
  refine ⟨outcome, reads, fun value left same => ?_⟩
  obtain ⟨shuts, shorter⟩ := goes value left same
  exact ⟨shuts, by omega⟩

theorem bind (first : SettlesOn tokens middle least p)
    (second : ∀ value left, Shuts middle left → SettlesOn left depth more (f value)) :
    SettlesOn tokens depth (least + more) (p >>= f) := by
  have onward (rest : List Token) :
      (p >>= f) (tokens ++ rest) = (p (tokens ++ rest)).bind fun found => f found.1 found.2 := rfl
  obtain ⟨_ | ⟨value, left⟩, reads, goes⟩ := first
  · exact fails fun rest stops => by rw [onward, reads rest stops]; rfl
  · obtain ⟨shutsLeft, shorter⟩ := goes value left rfl
    obtain ⟨outcome, readsLeft, goesLeft⟩ := second value left shutsLeft
    refine ⟨outcome, fun rest stops => ?_, fun last behind same => ?_⟩
    · rw [onward, reads rest stops]
      exact readsLeft rest stops
    · obtain ⟨shutsBehind, shortest⟩ := goesLeft last behind same
      exact ⟨shutsBehind, by omega⟩

end SettlesOn

namespace Settles

variable {least closed : Nat} {p : Parser α} {f : α → Parser β}

protected theorem pure (value : α) : Settles 0 0 (pure value) :=
  fun _ _ shuts => .reads (fun _ _ => rfl) shuts le_rfl

protected theorem failure : Settles least closed (failure : Parser α) :=
  fun _ _ _ => .fails fun _ _ => rfl

theorem bind (first : Settles 0 0 p) (second : ∀ value, Settles 0 closed (f value)) :
    Settles 0 closed (p >>= f) :=
  fun depth tokens shuts => (first _ tokens shuts).bind fun value left => second value depth left

/-- A parser that takes a token, in front of others. -/
theorem behind (first : Settles 1 0 p) (second : ∀ value, Settles 0 closed (f value)) :
    Settles 1 closed (p >>= f) :=
  fun depth tokens shuts => (first _ tokens shuts).bind fun value left => second value depth left

/-- A parser that takes a token, behind another one. -/
theorem before (first : Settles 0 0 p) (second : ∀ value, Settles 1 closed (f value)) :
    Settles 1 closed (p >>= f) :=
  fun depth tokens shuts => (first _ tokens shuts).bind fun value left => second value depth left

/-- A parser that closes brackets, in front of others. -/
theorem closing (first : Settles 0 closed p) (second : ∀ value, Settles 0 0 (f value)) :
    Settles 0 closed (p >>= f) :=
  fun depth tokens shuts => (first depth tokens shuts).bind fun value left => second value depth left

theorem free (settles : Settles least closed p) : Settles 0 closed p :=
  fun depth tokens shuts => (settles depth tokens shuts).mono (Nat.zero_le _)

theorem ite {condition : Prop} [Decidable condition] {q : Parser α} (first : Settles least closed p)
    (second : Settles least closed q) : Settles least closed (if condition then p else q) := by
  split
  · exact first
  · exact second

theorem map {g : α → β} (first : Settles 0 closed p) : Settles 0 closed (g <$> p) :=
  fun depth tokens shuts => by
    have pure (value : α) (left : List Token) (shuts : Shuts depth left) :
        SettlesOn left depth 0 (Pure.pure (g value) : Parser β) := .reads (fun _ _ => rfl) shuts le_rfl
    exact (first depth tokens shuts).bind pure

end Settles

/-! ### Single tokens -/

/-- Behind a token, brackets are left to be closed, and with none to be closed it ends nothing. -/
def Turns (token : Token) (closed inner : Nat) : Prop :=
  (closed = 0 → token.isStop = false) ∧
    ∀ depth tokens, Shuts (depth + closed) (token :: tokens) → Shuts (depth + inner) tokens

section Tokens

variable {closed inner least depth : Nat} {token : Token} {tokens : List Token} {p q r : Parser α}

theorem turns_of_isPlain (plain : token.isPlain = true) : Turns token closed closed := by
  simp only [Token.isPlain, Bool.not_eq_true', Bool.or_eq_false_iff] at plain
  exact ⟨fun _ => plain.2, fun _ _ shuts => shuts.tail_of_plain plain.1⟩

theorem turns_keyword (word : String) : Turns (.keyword word) closed closed :=
  turns_of_isPlain rfl

theorem turns_of_opens (opening : token.opens = true) : Turns token closed (closed + 1) := by
  refine ⟨fun _ => ?_, fun _ _ shuts => shuts.tail_of_opens opening⟩
  cases token with
  | symbol shown =>
      simp only [Token.opens, List.contains_iff_mem, List.mem_cons, List.not_mem_nil, or_false] at opening
      rcases opening with rfl | rfl | rfl <;> decide
  | _ => cases opening

theorem turns_of_closes (closing : token.closes = true) : Turns token (closed + 1) closed :=
  ⟨fun none => absurd none (Nat.succ_ne_zero closed),
    fun _ _ shuts => shuts.tail_of_closes closing⟩

/-- A parser that does one thing behind a token and another in front of anything else. -/
theorem SettlesOn.probe (taken : ∀ left, q (token :: left) = p left)
    (other : ∀ tokens, tokens.head? ≠ some token → q tokens = r tokens)
    (apart : tokens = [] → token.isStop = false)
    (found : ∀ left, tokens = token :: left → SettlesOn left depth 0 p)
    (missing : SettlesOn tokens depth least r) (fewer : least ≤ 1) :
    SettlesOn tokens depth least q := by
  by_cases here : tokens.head? = some token
  · obtain ⟨left, rfl⟩ := List.head?_eq_some_iff.mp here
    obtain ⟨outcome, reads, goes⟩ := found left rfl
    refine ⟨outcome, fun rest stops => (taken _).trans (reads rest stops), fun value end_ same => ?_⟩
    obtain ⟨shuts, shorter⟩ := goes value end_ same
    exact ⟨shuts, by simp only [List.length_cons]; omega⟩
  · refine missing.congr fun rest stops => other _ ?_
    cases tokens with
    | nil =>
        obtain ⟨stop, more, rfl, isStop⟩ := stops
        rintro ⟨⟩
        rw [apart rfl] at isStop
        cases isStop
    | cons first tokens => exact here

theorem Settles.probe (taken : ∀ left, q (token :: left) = p left)
    (other : ∀ tokens, tokens.head? ≠ some token → q tokens = r tokens) (turns : Turns token closed inner)
    (found : Settles 0 inner p) (missing : Settles least closed r) (fewer : least ≤ 1) :
    Settles least closed q := by
  intro depth tokens shuts
  refine .probe taken other ?_ ?_ (missing depth tokens shuts) fewer
  · rintro rfl
    exact turns.1 (Nat.eq_zero_of_add_eq_zero_left shuts)
  · rintro left rfl
    exact found depth left (turns.2 depth left shuts)

theorem symbol_of_ne {shown : String} (apart : tokens.head? ≠ some (.symbol shown)) :
    symbol shown tokens = none := by
  cases read : symbol shown tokens with
  | none => rfl
  | some found =>
      rw [eq_of_symbol read] at apart
      exact (apart rfl).elim

theorem keyword_of_ne {word : String} (apart : tokens.head? ≠ some (.keyword word)) :
    keyword word tokens = none := by
  cases read : keyword word tokens with
  | none => rfl
  | some found =>
      rw [eq_of_keyword read] at apart
      exact (apart rfl).elim

theorem symbol_self (shown : String) (left : List Token) :
    symbol shown (.symbol shown :: left) = some ((), left) :=
  if_pos rfl

theorem keyword_self (word : String) (left : List Token) :
    keyword word (.keyword word :: left) = some ((), left) :=
  if_pos rfl

end Tokens

namespace Settles

variable {closed inner least : Nat} {shown word : String} {p r : Parser α} {f : Unit → Parser α}

theorem symbol (turns : Turns (.symbol shown) closed inner) (second : Settles 0 inner (f ())) :
    Settles 1 closed (Parser.symbol shown >>= f) := by
  refine .probe (fun left => ?_) (fun tokens apart => ?_) turns second .failure le_rfl
  · change (Parser.symbol shown _).bind _ = _
    rw [symbol_self]
    rfl
  · change (Parser.symbol shown _).bind _ = _
    rw [symbol_of_ne apart]
    rfl

theorem keyword (second : Settles 0 closed (f ())) : Settles 1 closed (Parser.keyword word >>= f) := by
  refine .probe (fun left => ?_) (fun tokens apart => ?_) (turns_keyword word) second .failure le_rfl
  · change (Parser.keyword word _).bind _ = _
    rw [keyword_self]
    rfl
  · change (Parser.keyword word _).bind _ = _
    rw [keyword_of_ne apart]
    rfl

theorem keyword_only : Settles 1 0 (Parser.keyword word) := by
  simpa using keyword (.pure ())

/-- A symbol that decides between two ways to go on. -/
theorem ifSymbol (turns : Turns (.symbol shown) closed inner) (found : Settles 0 inner p)
    (missing : Settles least closed r) (fewer : least ≤ 1) : Settles least closed
      (takeSymbol shown >>= fun present => if present = true then p else r) := by
  refine .probe (fun left => ?_) (fun tokens apart => ?_) turns found missing fewer
  · change (takeSymbol shown _).bind _ = _
    rw [takeSymbol, symbol_self]
    rfl
  · change (takeSymbol shown _).bind _ = _
    rw [takeSymbol, symbol_of_ne apart]
    rfl

theorem ifKeyword (found : Settles 0 closed p) (missing : Settles least closed r) (fewer : least ≤ 1) :
    Settles least closed (takeKeyword word >>= fun present => if present = true then p else r) := by
  refine .probe (fun left => ?_) (fun tokens apart => ?_) (turns_keyword word) found missing fewer
  · change (takeKeyword word _).bind _ = _
    rw [takeKeyword, keyword_self]
    rfl
  · change (takeKeyword word _).bind _ = _
    rw [takeKeyword, keyword_of_ne apart]
    rfl

theorem takeSymbol (plain : (Token.symbol shown).isPlain = true) :
    Settles 0 0 (Parser.takeSymbol shown) :=
  .probe (fun left => by rw [Parser.takeSymbol, symbol_self]; rfl)
    (fun tokens apart => by rw [Parser.takeSymbol, symbol_of_ne apart]; rfl)
    (turns_of_isPlain plain) (.pure true) (.pure false) (Nat.zero_le 1)

theorem takeKeyword : Settles 0 0 (Parser.takeKeyword word) :=
  .probe (fun left => by rw [Parser.takeKeyword, keyword_self]; rfl)
    (fun tokens apart => by rw [Parser.takeKeyword, keyword_of_ne apart]; rfl)
    (turns_keyword word) (.pure true) (.pure false) (Nat.zero_le 1)

theorem name : Settles 1 0 Parser.name := by
  rintro depth (_ | ⟨token, left⟩) shuts
  · refine .fails ?_
    rintro _ ⟨stop, more, rfl, isStop⟩
    cases stop <;> first | rfl | cases isStop
  · cases token with
    | name id isPlain => exact .reads (fun _ _ => rfl) shuts.2 le_rfl
    | _ => exact .fails fun _ _ => rfl

/-- Looking ahead, as far as no stop makes a difference. -/
theorem look {q : Parser α} (value : List Token → α)
    (seen : ∀ tokens rest, Stops rest → q (tokens ++ rest) = some (value tokens, tokens ++ rest)) :
    Settles 0 0 q :=
  fun _ tokens shuts => .reads (seen tokens) shuts le_rfl

theorem atSymbol (noStop : (Token.symbol shown).isStop = false) :
    Settles 0 0 (Parser.atSymbol shown) := by
  refine look (fun tokens => tokens.head? == some (.symbol shown)) ?_
  rintro (_ | ⟨token, tokens⟩) _ ⟨stop, more, rfl, isStop⟩
  · have apart : stop ≠ .symbol shown := by
      rintro rfl
      rw [noStop] at isStop
      cases isStop
    simp [Parser.atSymbol, apart]
  · rfl

theorem atKeyword : Settles 0 0 (Parser.atKeyword word) := by
  refine look (fun tokens => tokens.head? == some (.keyword word)) ?_
  rintro (_ | ⟨token, tokens⟩) _ ⟨stop, more, rfl, isStop⟩
  · have apart : stop ≠ .keyword word := by
      rintro rfl
      cases isStop
    simp [Parser.atKeyword, apart]
  · rfl

theorem atNameThen (noStop : (Token.symbol shown).isStop = false) :
    Settles 0 0 (Parser.atNameThen shown) := by
  refine look (fun tokens => (Parser.atNameThen shown tokens).elim false (·.1)) ?_
  rintro (_ | ⟨first, _ | ⟨second, tokens⟩⟩) _ ⟨stop, more, rfl, isStop⟩
  · cases stop <;> first | rfl | cases isStop
  · cases first with
    | name id isPlain =>
        cases stop with
        | symbol other =>
            have apart : (other == shown) = false := by
              rw [beq_eq_false_iff_ne]
              rintro rfl
              rw [noStop] at isStop
              cases isStop
            exact congrArg (fun found => some (found, _)) apart
        | _ => rfl
    | _ => rfl
  · cases first <;> cases second <;> rfl

theorem lift (value? : Option α) : Settles 0 0 (Parser.lift value?) := by
  cases value? with
  | none => exact .failure
  | some value => exact .pure value

theorem maybe (settles : Settles 0 0 p) : Settles 0 0 (Parser.maybe p) := by
  intro depth tokens shuts
  obtain ⟨_ | ⟨value, left⟩, reads, goes⟩ := settles depth tokens shuts
  · have seen : ∀ rest, Stops rest →
        Parser.maybe p (tokens ++ rest) = some (none, tokens ++ rest) := fun rest stops => by
      rw [Parser.maybe, reads rest stops]
      rfl
    exact .reads seen shuts le_rfl
  · obtain ⟨shutsLeft, shorter⟩ := goes value left rfl
    have seen : ∀ rest, Stops rest →
        Parser.maybe p (tokens ++ rest) = some (some value, left ++ rest) := fun rest stops => by
      rw [Parser.maybe, reads rest stops]
      rfl
    exact .reads seen shutsLeft shorter

/-- Repeating a parser that takes tokens, as often as the number of tokens allows. -/
theorem repeatUpTo (settles : Settles 1 0 p) {depth : Nat} {tokens : List Token}
    (shuts : Shuts depth tokens) : ∃ values left, Shuts depth left ∧ left.length ≤ tokens.length ∧
      ∀ count rest, tokens.length < count → Stops rest →
        Parser.repeatUpTo p count (tokens ++ rest) = some (values, left ++ rest) := by
  induction size : tokens.length using Nat.strong_induction_on generalizing tokens with
  | _ size ih =>
      obtain ⟨_ | ⟨value, left⟩, reads, goes⟩ := settles depth tokens shuts
      · refine ⟨[], tokens, shuts, size.le, fun count rest enough stops => ?_⟩
        obtain ⟨count, rfl⟩ := Nat.exists_eq_add_one_of_ne_zero (Nat.ne_zero_of_lt enough)
        simp only [Parser.repeatUpTo, reads rest stops, Option.map_none]
      · obtain ⟨shutsLeft, shorter⟩ := goes value left rfl
        obtain ⟨values, last, shutsLast, shortest, onward⟩ := ih _ (by omega) shutsLeft rfl
        refine ⟨value :: values, last, shutsLast, by omega, fun count rest enough stops => ?_⟩
        obtain ⟨count, rfl⟩ := Nat.exists_eq_add_one_of_ne_zero (Nat.ne_zero_of_lt enough)
        simp only [Parser.repeatUpTo, reads rest stops, Option.map_some]
        rw [onward count rest (by omega) stops]
        rfl

theorem many (settles : Settles 1 0 p) : Settles 0 0 (Parser.many p) := by
  intro depth tokens shuts
  obtain ⟨_ | ⟨value, left⟩, reads, goes⟩ := settles depth tokens shuts
  · have seen : ∀ rest, Stops rest →
        Parser.many p (tokens ++ rest) = some ([], tokens ++ rest) := fun rest stops => by
      rw [Parser.many, reads rest stops]
      rfl
    exact .reads seen shuts le_rfl
  · obtain ⟨shutsLeft, shorter⟩ := goes value left rfl
    obtain ⟨values, last, shutsLast, shortest, onward⟩ := settles.repeatUpTo shutsLeft
    have seen : ∀ rest, Stops rest →
        Parser.many p (tokens ++ rest) = some (value :: values, last ++ rest) := fun rest stops => by
      have enough : left.length < (left ++ rest).length := by
        obtain ⟨stop, more, rfl, -⟩ := stops
        simp
      rw [Parser.many, reads rest stops]
      simp only [Option.map_some]
      rw [onward _ rest enough stops]
      rfl
    exact .reads seen shutsLast (by omega)

theorem separated {separator : Parser Unit} (takes : Settles 1 0 separator) (settles : Settles 0 0 p) :
    Settles 0 0 (Parser.separated separator p) :=
  settles.bind fun _ => (many (takes.behind fun _ => settles)).bind fun _ => .pure _

theorem commaList (settles : Settles 0 0 p) : Settles 0 0 (Parser.commaList p) :=
  settles.bind fun _ => (many (.symbol (turns_of_isPlain rfl) settles)).bind fun _ =>
    (takeSymbol rfl).bind fun _ => .pure _

theorem chain {operand : Parser Tree} {operator : Parser (Tree → Tree → Tree)}
    (settles : Settles 0 0 operand) (takes : Settles 1 0 operator) :
    Settles 0 0 (Parser.chain operand operator) :=
  settles.bind fun _ => (many (takes.behind fun _ => settles.bind fun _ => .pure _)).bind fun _ =>
    .pure _

end Settles

end Parser
end Snippet
end AnswerKey
