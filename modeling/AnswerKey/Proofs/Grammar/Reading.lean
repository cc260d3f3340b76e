import AnswerKey.Proofs.Grammar.Tally
import AnswerKey.Snippet.Parse

namespace AnswerKey
namespace Snippet

/-!
What parsers read.

A parser leads from a tally to others if the tokens that it takes do, whatever it is applied to
(`Leads`).  For each way to put parsers together there is one rule.  A parser whose values hold
something reads what they hold (`Reads`), and so do its repetitions.
-/

namespace Parser

section Tokens

variable {shown id : String} {token : Token} {tokens rest : List Token} {taken : Unit}

theorem eq_of_symbol (read : symbol shown tokens = some (taken, rest)) :
    tokens = .symbol shown :: rest := by
  unfold symbol at read
  split at read
  · split at read
    · next same =>
        cases read
        rw [same]
    · cases read
  · cases read

theorem eq_of_keyword (read : keyword shown tokens = some (taken, rest)) :
    tokens = .keyword shown :: rest := by
  unfold keyword at read
  split at read
  · split at read
    · next same =>
        cases read
        rw [same]
    · cases read
  · cases read

theorem eq_of_word (read : word id tokens = some (taken, rest)) :
    tokens = .name id true :: rest := by
  unfold word at read
  split at read
  · split at read
    · next same =>
        cases read
        rw [same]
    · cases read
  · cases read

theorem eq_of_mark (read : mark token tokens = some (taken, rest)) : tokens = token :: rest := by
  unfold mark at read
  split at read
  · split at read
    · next same =>
        cases read
        rw [same]
    · cases read
  · cases read

theorem exists_of_name (read : name tokens = some (id, rest)) :
    ∃ isPlain, tokens = .name id isPlain :: rest := by
  unfold name at read
  split at read
  · cases read
    exact ⟨_, rfl⟩
  · cases read

end Tokens

/-- A parser that only looks ahead. -/
def IsStill {α : Type} (p : Parser α) : Prop :=
  ∀ tokens value rest, p tokens = some (value, rest) → rest = tokens

theorem isStill_peek : IsStill peek := by
  intro tokens value rest read
  unfold peek at read
  split at read <;> cases read <;> rfl

theorem isStill_atSymbol (shown : String) : IsStill (atSymbol shown) := by
  rintro tokens value rest ⟨⟩
  rfl

theorem isStill_atKeyword (shown : String) : IsStill (atKeyword shown) := by
  rintro tokens value rest ⟨⟩
  rfl

theorem isStill_atNameThen (shown : String) : IsStill (atNameThen shown) := by
  intro tokens value rest read
  unfold atNameThen at read
  split at read <;> cases read <;> rfl

end Parser

open Snippet.Parser

/-- Whatever a parser takes leads from one tally to another that goes with the value. -/
def Leads {α : Type} (tally : Tally) (p : Parser α) (goal : α → Tally → Prop) : Prop :=
  ∀ tokens value rest, p tokens = some (value, rest) →
    ∃ used after, tokens = used ++ rest ∧ tally.run? used = some after ∧ goal value after

namespace Leads

variable {α β : Type} {tally after : Tally} {p : Parser α} {f : α → Parser β}
  {between : α → Tally → Prop} {goal : β → Tally → Prop}

theorem pure {value : β} (reached : goal value tally) :
    Leads tally (Pure.pure value) goal := by
  rintro tokens _ _ ⟨⟩
  exact ⟨[], tally, rfl, rfl, reached⟩

theorem failure : Leads tally (Alternative.failure : Parser β) goal := by
  rintro tokens value rest ⟨⟩

theorem bind (between : α → Tally → Prop) (first : Leads tally p between)
    (second : ∀ value after, between value after → Leads after (f value) goal) :
    Leads tally (p >>= f) goal := by
  intro tokens value rest read
  obtain ⟨⟨early, middle⟩, head, tail⟩ := Option.bind_eq_some_iff.mp read
  obtain ⟨used, after, rfl, run, reached⟩ := first tokens early middle head
  obtain ⟨more, last, rfl, onward, found⟩ := second early after reached middle value rest tail
  refine ⟨used ++ more, last, (List.append_assoc _ _ _).symm, ?_, found⟩
  rw [Tally.run?_append, run]
  exact onward

theorem mono {goal' : β → Tally → Prop} {p : Parser β} (first : Leads tally p goal)
    (weaker : ∀ value after, goal value after → goal' value after) : Leads tally p goal' := by
  intro tokens value rest read
  obtain ⟨used, after, whole, run, reached⟩ := first tokens value rest read
  exact ⟨used, after, whole, run, weaker value after reached⟩

theorem ite {condition : Prop} [Decidable condition] {p q : Parser β} (first : Leads tally p goal)
    (second : Leads tally q goal) : Leads tally (if condition then p else q) goal := by
  split
  · exact first
  · exact second

theorem map {g : α → β} (first : Leads tally p fun value after => goal (g value) after) :
    Leads tally (g <$> p) goal := by
  intro tokens value rest read
  obtain ⟨⟨early, middle⟩, head, tail⟩ := Option.bind_eq_some_iff.mp read
  cases tail
  exact first tokens early rest head

/-- A parser that has been applied behind a token. -/
theorem behind {token : Token} {p : Parser β} {value : β} {tokens rest : List Token}
    (led : Leads after p goal) (next : tally.next? token = some after)
    (read : p tokens = some (value, rest)) :
    ∃ used last, token :: tokens = used ++ rest ∧ tally.run? used = some last ∧
      goal value last := by
  obtain ⟨used, last, rfl, run, reached⟩ := led tokens value rest read
  refine ⟨token :: used, last, rfl, ?_, reached⟩
  rw [Tally.run?, next]
  exact run

theorem orElse {p q : Parser β} (first : Leads tally p goal) (second : Leads tally q goal) :
    Leads tally (p <|> q) goal := by
  intro tokens value rest read
  change (p tokens <|> q tokens) = some (value, rest) at read
  cases head : p tokens with
  | none =>
      rw [head] at read
      exact second tokens value rest read
  | some found =>
      rw [head] at read
      exact first tokens value rest (head.trans read)

/-- One token that leads to a tally. -/
theorem single {token : Token} {f : Unit → Parser β} {p : Parser Unit}
    (one : ∀ tokens taken rest, p tokens = some (taken, rest) → tokens = token :: rest)
    (next : tally.next? token = some after) (second : Leads after (f ()) goal) :
    Leads tally (p >>= f) goal := by
  refine bind (fun _ last => last = after) ?_ fun _ _ same => same ▸ second
  intro tokens taken rest read
  obtain rfl := one tokens taken rest read
  exact ⟨[token], after, rfl, by rw [Tally.run?, next]; rfl, rfl⟩

section Tokens

variable {shown id : String} {token : Token} {f : Unit → Parser β} {g : Bool → Parser β}

theorem symbol (next : tally.next? (.symbol shown) = some after)
    (second : Leads after (f ()) goal) : Leads tally (Parser.symbol shown >>= f) goal :=
  single (fun _ _ _ => eq_of_symbol) next second

theorem keyword (next : tally.next? (.keyword shown) = some after)
    (second : Leads after (f ()) goal) : Leads tally (Parser.keyword shown >>= f) goal :=
  single (fun _ _ _ => eq_of_keyword) next second

theorem word (second : Leads (tally.behind false) (f ()) goal) :
    Leads tally (Parser.word id >>= f) goal :=
  single (fun _ _ _ => eq_of_word) rfl second

theorem mark (next : tally.next? token = some after) (second : Leads after (f ()) goal) :
    Leads tally (Parser.mark token >>= f) goal :=
  single (fun _ _ _ => eq_of_mark) next second

theorem marked {goal : Unit → Tally → Prop} (next : tally.next? token = some after)
    (reached : goal () after) : Leads tally (Parser.mark token) goal := by
  intro tokens taken rest read
  obtain rfl := eq_of_mark read
  exact ⟨[token], after, rfl, by rw [Tally.run?, next]; rfl, reached⟩

theorem anyName : Leads tally Parser.name fun _ after => ∃ foreign, after = tally.behind foreign := by
  intro tokens id rest read
  obtain ⟨isPlain, rfl⟩ := exists_of_name read
  exact ⟨[.name id isPlain], tally.behind !isPlain, rfl, rfl, _, rfl⟩

theorem name {f : String → Parser β}
    (second : ∀ id foreign, Leads (tally.behind foreign) (f id) goal) :
    Leads tally (Parser.name >>= f) goal := by
  refine bind _ anyName ?_
  rintro id _ ⟨foreign, rfl⟩
  exact second id foreign

/-- What is taken only if it is there. -/
theorem maybe {f : Option α → Parser β} (between : α → Tally → Prop) (found : Leads tally p between)
    (second : ∀ value after, between value after → Leads after (f (some value)) goal)
    (missing : Leads tally (f none) goal) : Leads tally (Parser.maybe p >>= f) goal := by
  refine bind (fun value? last => (∃ value, value? = some value ∧ between value last) ∨
    value? = none ∧ last = tally) ?_ ?_
  · intro tokens value? rest read
    unfold Parser.maybe at read
    split at read
    · next value left head =>
        cases read
        obtain ⟨used, after, whole, run, reached⟩ := found tokens value rest head
        exact ⟨used, after, whole, run, .inl ⟨value, rfl, reached⟩⟩
    · cases read
      exact ⟨[], tally, rfl, rfl, .inr ⟨rfl, rfl⟩⟩
  · rintro value? last (⟨value, rfl, reached⟩ | ⟨rfl, rfl⟩)
    · exact second value last reached
    · exact missing

/-- A token that is taken only if it is there, with a flag that tells whether it was. -/
theorem probe {p : Parser Unit} {q : Parser Bool}
    (shape : ∀ tokens, q tokens =
      match p tokens with
      | some (_, rest) => some (true, rest)
      | none => some (false, tokens))
    (one : ∀ tokens taken rest, p tokens = some (taken, rest) → tokens = token :: rest)
    (next : tally.next? token = some after)
    (found : Leads after (g true) goal) (missing : Leads tally (g false) goal) :
    Leads tally (q >>= g) goal := by
  refine bind (fun taken last => taken = true ∧ last = after ∨
    taken = false ∧ last = tally) ?_ ?_
  · intro tokens taken rest read
    rw [shape] at read
    split at read
    · next here left head =>
        cases read
        obtain rfl := one tokens here rest head
        exact ⟨[token], after, rfl, by rw [Tally.run?, next]; rfl, .inl ⟨rfl, rfl⟩⟩
    · cases read
      exact ⟨[], tally, rfl, rfl, .inr ⟨rfl, rfl⟩⟩
  · rintro taken last (⟨rfl, rfl⟩ | ⟨rfl, rfl⟩)
    · exact found
    · exact missing

theorem takeSymbol (next : tally.next? (.symbol shown) = some after)
    (found : Leads after (g true) goal) (missing : Leads tally (g false) goal) :
    Leads tally (Parser.takeSymbol shown >>= g) goal :=
  probe (fun _ => rfl) (fun _ _ _ => eq_of_symbol) next found missing

theorem takeKeyword (next : tally.next? (.keyword shown) = some after)
    (found : Leads after (g true) goal) (missing : Leads tally (g false) goal) :
    Leads tally (Parser.takeKeyword shown >>= g) goal :=
  probe (fun _ => rfl) (fun _ _ _ => eq_of_keyword) next found missing

theorem ifSymbol {p q : Parser β} (next : tally.next? (.symbol shown) = some after)
    (found : Leads after p goal) (missing : Leads tally q goal) :
    Leads tally (Parser.takeSymbol shown >>= fun taken => if taken = true then p else q) goal :=
  takeSymbol next found missing

theorem ifKeyword {p q : Parser β} (next : tally.next? (.keyword shown) = some after)
    (found : Leads after p goal) (missing : Leads tally q goal) :
    Leads tally (Parser.takeKeyword shown >>= fun taken => if taken = true then p else q) goal :=
  takeKeyword next found missing

end Tokens

/-- A parser that only looks ahead. -/
theorem look (still : IsStill p) (second : ∀ value, Leads tally (f value) goal) :
    Leads tally (p >>= f) goal := by
  refine bind (fun _ last => last = tally) ?_ ?_
  · intro tokens value rest read
    obtain rfl := still tokens value rest read
    exact ⟨[], tally, rfl, rfl, rfl⟩
  · rintro value _ rfl
    exact second value

theorem lookIf {p : Parser Bool} {q r : Parser β} (still : IsStill p) (found : Leads tally q goal)
    (missing : Leads tally r goal) :
    Leads tally (p >>= fun holds => if holds = true then q else r) goal :=
  look still fun _ => ite found missing

theorem lifted {value? : Option β} (reached : ∀ value, value? = some value → goal value tally) :
    Leads tally (Parser.lift value?) goal := by
  intro tokens value rest read
  obtain ⟨found, here, same⟩ := Option.map_eq_some_iff.mp read
  cases same
  exact ⟨[], tally, rfl, rfl, reached _ here⟩

theorem lift {value? : Option α}
    (second : ∀ value, value? = some value → Leads tally (f value) goal) :
    Leads tally (Parser.lift value? >>= f) goal := by
  refine bind (fun value last => value? = some value ∧ last = tally) ?_ ?_
  · exact lifted fun value here => ⟨here, rfl⟩
  · rintro value _ ⟨here, rfl⟩
    exact second value here

/-- Repetitions keep what each of them keeps, given what has been read so far. -/
theorem many {invariant : List α → Tally → Prop} (begun : invariant [] tally)
    (each : ∀ seen tally, invariant seen tally →
      Leads tally p fun value after => invariant (seen ++ [value]) after) :
    Leads tally (Parser.many p) invariant := by
  have repeated (count : Nat) : ∀ seen tally, invariant seen tally →
      Leads tally (repeatUpTo p count) fun values after => invariant (seen ++ values) after := by
    induction count with
    | zero =>
        intro seen tally reached
        apply pure
        rwa [List.append_nil]
    | succ count ih =>
        intro seen tally reached tokens values rest read
        unfold repeatUpTo at read
        split at read
        · cases read
          refine ⟨[], tally, rfl, rfl, ?_⟩
          simpa using reached
        · next value left head =>
            obtain ⟨⟨others, last⟩, tail, same⟩ := Option.map_eq_some_iff.mp read
            cases same
            obtain ⟨used, after, rfl, run, onward⟩ := each seen tally reached tokens value left head
            obtain ⟨more, final, rfl, runMore, found⟩ := ih _ after onward left others rest tail
            refine ⟨used ++ more, final, (List.append_assoc _ _ _).symm, ?_, ?_⟩
            · rw [Tally.run?_append, run]
              exact runMore
            · rwa [List.append_assoc] at found
  intro tokens values rest read
  cases head : p tokens with
  | none =>
      rw [Parser.many, head] at read
      cases read
      exact ⟨[], tally, rfl, rfl, begun⟩
  | some first =>
      refine repeated (first.2.length + 1) [] tally begun tokens values rest ?_
      rw [Parser.many, head] at read
      simp only [repeatUpTo, head]
      exact read

/-- Items with commas between them keep what each of them keeps, whatever name stands at the end. -/
theorem commaList (invariant : List α → Tally → Prop) (begun : invariant [] tally)
    (each : ∀ seen within, invariant seen within →
      Leads (within.behind false) p fun value after =>
        ∃ within foreign, invariant (seen ++ [value]) within ∧ after = within.behind foreign) :
    Leads (tally.behind false) (Parser.commaList p) fun found after =>
      ∃ within foreign, invariant found.1 within ∧ after = within.behind foreign := by
  have comma (tally : Tally) : tally.next? (.symbol ",") = some (tally.behind false) :=
    Tally.next?_of_isUncounted tally rfl
  refine bind _ (each [] tally begun) fun first after reached => ?_
  refine bind (fun others last => ∃ within foreign, invariant (first :: others) within ∧
    last = within.behind foreign) ?_ ?_
  · refine many reached ?_
    rintro seen _ ⟨within, foreign, reached, rfl⟩
    exact symbol (comma _) (each (first :: seen) within reached)
  · rintro others _ ⟨within, foreign, reached, rfl⟩
    exact takeSymbol (comma _) (pure ⟨within, false, reached, rfl⟩) (pure ⟨within, foreign, reached, rfl⟩)

end Leads

/-! ### What is read is held -/

/-- A parser reads what its values hold.  The flags tell whether a name beyond ASCII may stand in
front of what it takes and at its end. -/
def Reads {α : Type} (front back : Bool) (p : Parser α) (holds : α → Bool × Bool → Prop) : Prop :=
  ∀ tally : Tally, tally.foreign ≤ front → Leads tally p fun value after =>
    ∃ held foreign, foreign ≤ back ∧ holds value held ∧ after = (tally.hold held).behind foreign

/-- What a tree holds, as what is read for it. -/
def Holds (tree : Tree) (held : Bool × Bool) : Prop :=
  tree.holding = held

/-- What no value holds. -/
def HoldsNothing {α : Type} (_ : α) (held : Bool × Bool) : Prop :=
  held = ⊥

/-- What several values hold together. -/
def Gathers {α : Type} (holds : α → Bool × Bool → Prop) : List α → Bool × Bool → Prop
  | [], held => held = ⊥
  | value :: rest, held =>
      ∃ first others, holds value first ∧ Gathers holds rest others ∧ held = first ⊔ others

section Gathers

variable {α : Type} {holds : α → Bool × Bool → Prop} {values : List α} {value : α}
  {held more : Bool × Bool}

theorem Gathers.snoc (gathers : Gathers holds values held) (last : holds value more) :
    Gathers holds (values ++ [value]) (held ⊔ more) := by
  induction values generalizing held with
  | nil =>
      cases gathers
      exact ⟨more, ⊥, last, rfl, by simp⟩
  | cons first values ih =>
      obtain ⟨front, others, head, tail, rfl⟩ := gathers
      exact ⟨front, others ⊔ more, head, ih tail, sup_assoc _ _ _⟩

/-- Trees hold together what each of them holds. -/
theorem Gathers.holdingIn {trees : List Tree} (gathers : Gathers Holds trees held) :
    Tree.holdingIn trees = held := by
  induction trees generalizing held with
  | nil =>
      cases gathers
      rfl
  | cons tree trees ih =>
      obtain ⟨_, others, rfl, tail, rfl⟩ := gathers
      rw [Tree.holdingIn_cons, ih tail]

/-- What values hold together is held by the trees that they come with. -/
theorem Gathers.holdingIn_map {f : α → Tree} (gathers : Gathers (fun value => Holds (f value)) values held) :
    Tree.holdingIn (values.map f) = held := by
  induction values generalizing held with
  | nil =>
      cases gathers
      rfl
  | cons value values ih =>
      obtain ⟨_, others, rfl, tail, rfl⟩ := gathers
      rw [List.map_cons, Tree.holdingIn_cons, ih tail]

/-- Blocks hold together what each of them holds. -/
theorem Gathers.holdingIn_flatten {blocks : List (List Tree)}
    (gathers : Gathers (fun block held => Tree.holdingIn block = held) blocks held) :
    Tree.holdingIn blocks.flatten = held := by
  induction blocks generalizing held with
  | nil =>
      cases gathers
      rfl
  | cons block blocks ih =>
      obtain ⟨_, others, rfl, tail, rfl⟩ := gathers
      rw [List.flatten_cons, Tree.holdingIn_append, ih tail]

theorem Gathers.nothing (gathered : Gathers HoldsNothing values held) : held = ⊥ := by
  induction values generalizing held with
  | nil => exact gathered
  | cons value values ih =>
      obtain ⟨_, others, rfl, tail, rfl⟩ := gathered
      rw [ih tail, bot_sup_eq]

end Gathers

namespace Reads

variable {α β : Type} {front middle back : Bool} {p : Parser α} {f : α → Parser β}
  {holds : α → Bool × Bool → Prop} {tally : Tally} {goal : β → Tally → Prop}

/-- What comes first in a row. -/
theorem bind (first : Reads front middle p holds) (ready : tally.foreign ≤ front)
    (second : ∀ value held foreign, foreign ≤ middle → holds value held →
      Leads ((tally.hold held).behind foreign) (f value) goal) :
    Leads tally (p >>= f) goal := by
  refine Leads.bind _ (first tally ready) ?_
  rintro value _ ⟨held, foreign, within, found, rfl⟩
  exact second value held foreign within found

theorem mono {holds' : α → Bool × Bool → Prop} {front' back' : Bool}
    (reads : Reads front back p holds) (wider : front' ≤ front) (further : back ≤ back')
    (weaker : ∀ value held, holds value held → holds' value held) :
    Reads front' back' p holds' := by
  intro tally ready
  refine (reads tally (le_trans ready wider)).mono ?_
  rintro value _ ⟨held, foreign, within, found, rfl⟩
  exact ⟨held, foreign, le_trans within further, weaker value held found, rfl⟩

/-- A tree that is read only if it is there. -/
theorem maybe {p : Parser Tree} (reads : Reads front back p Holds) (wider : front ≤ back) :
    Reads front back (Parser.maybe p) fun found held => Tree.holdingIn found.toList = held := by
  intro tally ready tokens found rest read
  unfold Parser.maybe at read
  split at read
  · next tree left head =>
      cases read
      obtain ⟨used, _, whole, run, held, foreign, within, rfl, rfl⟩ :=
        reads tally ready tokens tree rest head
      exact ⟨used, _, whole, run, _, foreign, within, rfl, by simp⟩
  · cases read
    exact ⟨[], tally, rfl, rfl, ⊥, tally.foreign, le_trans ready wider, rfl, by simp⟩

theorem some {p : Parser Tree} (reads : Reads front back p Holds) :
    Reads front back (Option.some <$> p) fun found held => Tree.holdingIn found.toList = held := by
  intro tally ready
  refine .map ((reads tally ready).mono ?_)
  rintro tree _ ⟨_, foreign, within, rfl, rfl⟩
  exact ⟨_, foreign, within, rfl, by simp⟩

/-- A tree that is read only behind a symbol. -/
theorem ifSymbol {p : Parser Tree} {f : Option Tree → Parser β} {shown : String}
    (reads : Reads false true p Holds) (uncounted : Token.isUncounted (.symbol shown) = true)
    (second : ∀ found held foreign, Tree.holdingIn found.toList = held →
      Leads ((tally.hold held).behind foreign) (f found) goal) :
    Leads tally (Parser.takeSymbol shown >>= fun taken =>
      if taken = true then Option.some <$> p >>= f else pure none >>= f) goal := by
  refine .ifSymbol (Tally.next?_of_isUncounted tally uncounted) ?_ ?_
  · exact reads.some.bind le_rfl fun found held foreign _ same => second found held foreign same
  · simpa using second none ⊥ tally.foreign rfl

/-- A tree that is read only behind a keyword. -/
theorem ifKeyword {p : Parser Tree} {f : Option Tree → Parser β} {shown : String}
    (reads : Reads false true p Holds) (uncounted : Token.isUncounted (.keyword shown) = true)
    (second : ∀ found held foreign, Tree.holdingIn found.toList = held →
      Leads ((tally.hold held).behind foreign) (f found) goal) :
    Leads tally (Parser.takeKeyword shown >>= fun taken =>
      if taken = true then Option.some <$> p >>= f else pure none >>= f) goal := by
  refine .ifKeyword (Tally.next?_of_isUncounted tally uncounted) ?_ ?_
  · exact reads.some.bind le_rfl fun found held foreign _ same => second found held foreign same
  · simpa using second none ⊥ tally.foreign rfl

/-- Repetitions read what their values hold together. -/
theorem many (each : Reads front front p holds) :
    Reads front front (Parser.many p) (Gathers holds) := by
  intro tally ready
  refine Leads.many ⟨⊥, tally.foreign, ready, rfl, by simp⟩ ?_
  rintro seen _ ⟨held, foreign, within, gathered, rfl⟩
  refine (each _ within).mono ?_
  rintro value _ ⟨more, foreign', within', found, rfl⟩
  exact ⟨held ⊔ more, foreign', within', gathered.snoc found, by simp⟩

theorem name : Reads true true Parser.name HoldsNothing := by
  intro tally _
  refine Leads.anyName.mono ?_
  rintro id _ ⟨foreign, rfl⟩
  exact ⟨⊥, foreign, le_top, rfl, by simp⟩

/-- Behind an uncounted symbol a string may stand. -/
theorem behind_symbol {shown : String} (uncounted : Token.isUncounted (.symbol shown) = true)
    (reads : Reads front back p holds) : Reads true back (do symbol shown; p) holds :=
  fun tally _ => .symbol (Tally.next?_of_isUncounted tally uncounted) (reads _ (Bool.false_le _))

theorem behind_keyword {shown : String} (uncounted : Token.isUncounted (.keyword shown) = true)
    (reads : Reads false back p holds) : Reads true back (do keyword shown; p) holds :=
  fun tally _ => .keyword (Tally.next?_of_isUncounted tally uncounted) (reads _ le_rfl)

/-- Items with something between them. -/
theorem separated {separator : Parser Unit} (each : Reads front true p holds)
    (others : Reads true true (Parser.many (do separator; p)) (Gathers holds)) :
    Reads front true (Parser.separated separator p) (Gathers holds) := by
  intro tally ready
  refine each.bind ready fun first held foreign _ found => ?_
  refine others.bind le_top fun values more foreign' _ gathered => ?_
  exact .pure ⟨held ⊔ more, foreign', le_top, ⟨held, more, found, gathered, rfl⟩, by simp⟩

/-- Items with commas between them. -/
theorem commaList (each : Reads false true p holds) :
    Reads false true (Parser.commaList p) fun found held => Gathers holds found.1 held := by
  intro tally ready
  rw [← Tally.behind_of_foreign ready]
  refine (Leads.commaList (fun seen within => ∃ held, Gathers holds seen held ∧
    within = tally.hold held) ⟨⊥, rfl, by simp⟩ ?_).mono ?_
  · rintro seen _ ⟨held, gathered, rfl⟩
    refine (each _ le_rfl).mono ?_
    rintro value _ ⟨more, foreign, -, found, rfl⟩
    exact ⟨_, foreign, ⟨held ⊔ more, gathered.snoc found, rfl⟩, by simp⟩
  · rintro found _ ⟨_, foreign, ⟨held, gathered, rfl⟩, rfl⟩
    exact ⟨held, foreign, le_top, gathered, by simp⟩

end Reads

/-- A parser reads the rest of a bracket that is open, its closing symbol included. -/
def Closes {α : Type} (kind : Construct.Bracket) (p : Parser α)
    (holds : α → Bool × Bool → Prop) : Prop :=
  ∀ tally : Tally, Leads ((tally.opened kind).behind false) p fun value after =>
    ∃ held, holds value held ∧ after = (tally.hold held).behind false

theorem Closes.bind {α β : Type} {kind : Construct.Bracket} {p : Parser α} {f : α → Parser β}
    {holds : α → Bool × Bool → Prop} {goal : β → Tally → Prop} (closes : Closes kind p holds)
    (tally : Tally) (second : ∀ value held, holds value held →
      Leads ((tally.hold held).behind false) (f value) goal) :
    Leads ((tally.opened kind).behind false) (p >>= f) goal := by
  refine Leads.bind _ (closes tally) ?_
  rintro value _ ⟨held, found, rfl⟩
  exact second value held found

/-- A bracket with what its content holds. -/
theorem Closes.behind {α : Type} {kind : Construct.Bracket} {p : Parser α} {value : α}
    {holds : α → Bool × Bool → Prop} {tally : Tally} {token : Token} {tokens rest : List Token}
    (closes : Closes kind p holds)
    (next : tally.next? token = some ((tally.opened kind).behind false))
    (read : p tokens = some (value, rest)) :
    ∃ used after, token :: tokens = used ++ rest ∧ tally.run? used = some after ∧
      ∃ held foreign, foreign ≤ true ∧ holds value held ∧
        after = (tally.hold held).behind foreign := by
  obtain ⟨used, after, whole, run, held, found, rfl⟩ := (closes tally).behind next read
  exact ⟨used, _, whole, run, held, false, le_top, found, rfl⟩

/-- A parser reads what its values hold, outside all brackets. -/
def ReadsOutside {α : Type} (front back : Bool) (p : Parser α)
    (holds : α → Bool × Bool → Prop) : Prop :=
  ∀ tally : Tally, tally.frames = [] → tally.foreign ≤ front → Leads tally p fun value after =>
    ∃ held foreign, foreign ≤ back ∧ holds value held ∧ after = (tally.hold held).behind foreign

namespace ReadsOutside

variable {α β : Type} {front middle back : Bool} {p : Parser α} {f : α → Parser β}
  {holds : α → Bool × Bool → Prop} {tally : Tally} {goal : β → Tally → Prop}

theorem bind (first : ReadsOutside front middle p holds) (bare : tally.frames = [])
    (ready : tally.foreign ≤ front) (second : ∀ value held foreign, foreign ≤ middle →
      holds value held → Leads ((tally.hold held).behind foreign) (f value) goal) :
    Leads tally (p >>= f) goal := by
  refine Leads.bind _ (first tally bare ready) ?_
  rintro value _ ⟨held, foreign, within, found, rfl⟩
  exact second value held foreign within found

theorem many (each : ReadsOutside front front p holds) :
    ReadsOutside front front (Parser.many p) (Gathers holds) := by
  intro tally bare ready
  refine Leads.many ⟨⊥, tally.foreign, ready, rfl, by simp⟩ ?_
  rintro seen _ ⟨held, foreign, within, gathered, rfl⟩
  refine (each ((tally.hold held).behind foreign) bare within).mono ?_
  rintro value _ ⟨more, foreign', within', found, rfl⟩
  exact ⟨held ⊔ more, foreign', within', gathered.snoc found, by simp⟩

/-- Items with something between them. -/
theorem separated {separator : Parser Unit} (each : ReadsOutside false true p holds)
    (others : ReadsOutside true true (Parser.many (do separator; p)) (Gathers holds)) :
    ReadsOutside false true (Parser.separated separator p) (Gathers holds) := by
  intro tally bare ready
  refine each.bind bare ready fun first held foreign _ found => ?_
  refine others.bind bare le_top fun values more foreign' _ gathered => ?_
  exact .pure ⟨held ⊔ more, foreign', le_top, ⟨held, more, found, gathered, rfl⟩, by simp⟩

end ReadsOutside

end Snippet
end AnswerKey
