import AnswerKey.Proofs.Grammar.Reading

namespace AnswerKey
namespace Snippet

/-!
Parsers that agree on short inputs.

Two parsers agree below a bound if they read the same from all tokens that weigh less, and never leave
more than they were given (`Parser.Agree`).  Every way to put parsers together keeps this, and behind
a token that weighs something the bound may be lower by one.  So rules that use a grammar only behind
such tokens agree further than the grammars they use.
-/

/-- How much a token counts as input: a string as much as its text, and the marks of layout nothing. -/
def Token.weight : Token → Nat
  | .string literal => literal.body.length + 2
  | .lineEnd => 0
  | .indent => 0
  | .dedent => 0
  | .finish => 0
  | _ => 1

def weight : List Token → Nat
  | [] => 0
  | token :: rest => token.weight + weight rest

@[simp] theorem weight_nil : weight [] = 0 := rfl

@[simp] theorem weight_cons (token : Token) (tokens : List Token) :
    weight (token :: tokens) = token.weight + weight tokens := rfl

namespace Parser

variable {α β : Type}

/-- A parser that leaves no more than it was given. -/
def Narrows (p : Parser α) : Prop :=
  ∀ tokens value rest, p tokens = some (value, rest) → weight rest ≤ weight tokens

/-- A parser that leaves less than it was given. -/
def Consumes (p : Parser α) : Prop :=
  ∀ tokens value rest, p tokens = some (value, rest) → weight rest < weight tokens

/-- Parsers that read the same from all tokens that weigh less than a bound. -/
def Agree (bound : Nat) (p q : Parser α) : Prop :=
  ∀ tokens, weight tokens < bound → p tokens = q tokens ∧
    ∀ value rest, p tokens = some (value, rest) → weight rest ≤ weight tokens

/-! ### Single tokens -/

section Tokens

theorem consumes_symbol (shown : String) : Consumes (symbol shown) := by
  intro tokens value rest read
  obtain rfl := eq_of_symbol read
  simp [Token.weight]

theorem consumes_keyword (shown : String) : Consumes (keyword shown) := by
  intro tokens value rest read
  obtain rfl := eq_of_keyword read
  simp [Token.weight]

theorem consumes_word (id : String) : Consumes (word id) := by
  intro tokens value rest read
  obtain rfl := eq_of_word read
  simp [Token.weight]

theorem consumes_name : Consumes name := by
  intro tokens value rest read
  obtain ⟨isPlain, rfl⟩ := exists_of_name read
  simp [Token.weight]

theorem Consumes.narrows {p : Parser α} (consumes : Consumes p) : Narrows p :=
  fun tokens value rest read => (consumes tokens value rest read).le

theorem IsStill.narrows {p : Parser α} (still : IsStill p) : Narrows p := by
  intro tokens value rest read
  rw [still tokens value rest read]

theorem narrows_mark (token : Token) : Narrows (mark token) := by
  intro tokens value rest read
  obtain rfl := eq_of_mark read
  simp

theorem narrows_lift (value? : Option α) : Narrows (lift value?) := by
  intro tokens value rest read
  obtain ⟨_, -, same⟩ := Option.map_eq_some_iff.mp read
  cases same
  exact le_rfl

theorem narrows_takeSymbol (shown : String) : Narrows (takeSymbol shown) := by
  intro tokens value rest read
  unfold takeSymbol at read
  split at read
  · next head =>
      cases read
      exact (consumes_symbol shown _ _ _ head).le
  · cases read
    exact le_rfl

theorem narrows_takeKeyword (shown : String) : Narrows (takeKeyword shown) := by
  intro tokens value rest read
  unfold takeKeyword at read
  split at read
  · next head =>
      cases read
      exact (consumes_keyword shown _ _ _ head).le
  · cases read
    exact le_rfl

end Tokens

/-! ### Agreement -/

namespace Agree

variable {bound less : Nat} {p p' : Parser α} {q q' : Parser β} {f f' : α → Parser β}

theorem of_narrows (narrows : Narrows p) : Agree bound p p :=
  fun tokens _ => ⟨rfl, narrows tokens⟩

theorem mono (agree : Agree bound p p') (lower : less ≤ bound) : Agree less p p' :=
  fun tokens light => agree tokens (by omega)

theorem below (agree : Agree bound p p') : Agree (bound - 1) p p' :=
  agree.mono (Nat.sub_le bound 1)

protected theorem pure (value : α) : Agree bound (pure value) (pure value) := by
  intro tokens _
  refine ⟨rfl, ?_⟩
  rintro _ _ ⟨⟩
  exact le_rfl

protected theorem failure : Agree bound (failure : Parser α) failure := by
  intro tokens _
  refine ⟨rfl, ?_⟩
  rintro _ _ ⟨⟩

/-- Behind a parser that leaves little enough, others need only agree on what it leaves. -/
theorem bindBelow (first : Agree bound p p')
    (leaves : ∀ tokens value rest, weight tokens < bound → p tokens = some (value, rest) →
      weight rest < less)
    (second : ∀ value, Agree less (f value) (f' value)) : Agree bound (p >>= f) (p' >>= f') := by
  intro tokens light
  obtain ⟨same, narrows⟩ := first tokens light
  constructor
  · change (p tokens).bind (fun found => f found.1 found.2) =
      (p' tokens).bind (fun found => f' found.1 found.2)
    rw [← same]
    cases read : p tokens with
    | none => rfl
    | some found => exact (second found.1 found.2 (leaves tokens found.1 found.2 light read)).1
  · intro value rest read
    obtain ⟨⟨early, middle⟩, head, tail⟩ := Option.bind_eq_some_iff.mp read
    exact ((second early middle (leaves tokens early middle light head)).2 value rest tail).trans
      (narrows early middle head)

theorem bind (first : Agree bound p p') (second : ∀ value, Agree bound (f value) (f' value)) :
    Agree bound (p >>= f) (p' >>= f') :=
  bindBelow first (fun tokens value rest light read =>
    ((first tokens light).2 value rest read).trans_lt light) second

/-- A parser that uses no grammar, in front of others. -/
theorem after (narrows : Narrows p) (second : ∀ value, Agree bound (f value) (f' value)) :
    Agree bound (p >>= f) (p >>= f') :=
  bind (of_narrows narrows) second

/-- Behind a token the bound is lower by one. -/
theorem behind (consumes : Consumes p) (second : ∀ value, Agree (bound - 1) (f value) (f' value)) :
    Agree bound (p >>= f) (p >>= f') :=
  bindBelow (of_narrows consumes.narrows) (fun tokens value rest light read => by
    have left := consumes tokens value rest read
    omega) second

theorem map {g : α → β} (first : Agree bound p p') : Agree bound (g <$> p) (g <$> p') := by
  intro tokens light
  obtain ⟨same, narrows⟩ := first tokens light
  constructor
  · change (p tokens).bind _ = (p' tokens).bind _
    rw [same]
  · intro value rest read
    obtain ⟨⟨early, middle⟩, head, tail⟩ := Option.bind_eq_some_iff.mp read
    cases tail
    exact narrows early rest head

theorem ite {condition : Prop} [Decidable condition] {r r' : Parser α} (first : Agree bound p p')
    (second : Agree bound r r') :
    Agree bound (if condition then p else r) (if condition then p' else r') := by
  split
  · exact first
  · exact second

theorem orElse {r r' : Parser α} (first : Agree bound p p') (second : Agree bound r r') :
    Agree bound (p <|> r) (p' <|> r') := by
  intro tokens light
  obtain ⟨same, narrows⟩ := first tokens light
  obtain ⟨same', narrows'⟩ := second tokens light
  constructor
  · change (p tokens <|> r tokens) = (p' tokens <|> r' tokens)
    rw [same, same']
  · intro value rest read
    change (p tokens <|> r tokens) = some (value, rest) at read
    cases head : p tokens with
    | none =>
        rw [head] at read
        exact narrows' value rest read
    | some found =>
        rw [head] at read
        exact narrows value rest (head.trans read)

/-- A token that decides between two ways to go on. -/
theorem probe {r r' : Parser α} {token : Parser Unit} {taken : Parser Bool}
    (shape : ∀ tokens, taken tokens =
      match token tokens with
      | some (_, rest) => some (true, rest)
      | none => some (false, tokens))
    (consumes : Consumes token) (found : Agree (bound - 1) p p') (missing : Agree bound r r') :
    Agree bound (taken >>= fun present => if present = true then p else r)
      (taken >>= fun present => if present = true then p' else r') := by
  intro tokens light
  change (taken tokens).bind (fun here => (if here.1 = true then p else r) here.2) =
      (taken tokens).bind (fun here => (if here.1 = true then p' else r') here.2) ∧
    ∀ value rest, (taken tokens).bind (fun here => (if here.1 = true then p else r) here.2) =
      some (value, rest) → weight rest ≤ weight tokens
  rw [shape]
  cases read : token tokens with
  | none => exact missing tokens light
  | some here =>
      have left := consumes tokens here.1 here.2 read
      obtain ⟨same, narrows⟩ := found here.2 (by omega)
      exact ⟨same, fun value rest read => (narrows value rest read).trans left.le⟩

theorem ifSymbol {r r' : Parser α} {shown : String} (found : Agree (bound - 1) p p')
    (missing : Agree bound r r') :
    Agree bound (takeSymbol shown >>= fun present => if present = true then p else r)
      (takeSymbol shown >>= fun present => if present = true then p' else r') :=
  probe (fun _ => rfl) (consumes_symbol shown) found missing

theorem ifKeyword {r r' : Parser α} {shown : String} (found : Agree (bound - 1) p p')
    (missing : Agree bound r r') :
    Agree bound (takeKeyword shown >>= fun present => if present = true then p else r)
      (takeKeyword shown >>= fun present => if present = true then p' else r') :=
  probe (fun _ => rfl) (consumes_keyword shown) found missing

/-- Looking ahead before going on. -/
theorem look {still : Parser α} (isStill : IsStill still)
    (second : ∀ value, Agree bound (f value) (f' value)) :
    Agree bound (still >>= f) (still >>= f') :=
  after isStill.narrows second

theorem maybe (agree : Agree bound p p') : Agree bound (maybe p) (maybe p') := by
  intro tokens light
  obtain ⟨same, narrows⟩ := agree tokens light
  unfold Parser.maybe
  rw [← same]
  refine ⟨rfl, ?_⟩
  intro value rest read
  cases head : p tokens with
  | none =>
      rw [head] at read
      cases read
      exact le_rfl
  | some found =>
      rw [head] at read
      cases read
      exact narrows found.1 found.2 head

theorem repeatUpTo (agree : Agree bound p p') (count : Nat) :
    Agree bound (repeatUpTo p count) (repeatUpTo p' count) := by
  induction count with
  | zero => exact .pure []
  | succ count ih =>
      intro tokens light
      obtain ⟨same, narrows⟩ := agree tokens light
      unfold Parser.repeatUpTo
      rw [← same]
      cases head : p tokens with
      | none =>
          refine ⟨rfl, ?_⟩
          rintro _ _ ⟨⟩
          exact le_rfl
      | some found =>
          have left := narrows found.1 found.2 head
          obtain ⟨others, narrowsOthers⟩ := ih found.2 (by omega)
          simp only []
          rw [← others]
          refine ⟨rfl, ?_⟩
          intro value rest read
          obtain ⟨⟨_, last⟩, tail, same⟩ := Option.map_eq_some_iff.mp read
          cases same
          exact (narrowsOthers _ _ tail).trans left

theorem many (agree : Agree bound p p') : Agree bound (many p) (many p') := by
  intro tokens light
  obtain ⟨same, narrows⟩ := agree tokens light
  unfold Parser.many
  rw [← same]
  cases head : p tokens with
  | none =>
      refine ⟨rfl, ?_⟩
      rintro _ _ ⟨⟩
      exact le_rfl
  | some found =>
      have left := narrows found.1 found.2 head
      obtain ⟨others, narrowsOthers⟩ := agree.repeatUpTo found.2.length found.2 (by omega)
      simp only []
      rw [← others]
      refine ⟨rfl, ?_⟩
      intro value rest read
      obtain ⟨⟨_, last⟩, tail, same⟩ := Option.map_eq_some_iff.mp read
      cases same
      exact (narrowsOthers _ _ tail).trans left

theorem separated {separator : Parser Unit} (narrows : Narrows separator) (agree : Agree bound p p') :
    Agree bound (separated separator p) (separated separator p') :=
  agree.bind fun _ => (many (after narrows fun _ => agree)).bind fun _ => .pure _

theorem commaList (agree : Agree bound p p') : Agree bound (commaList p) (commaList p') :=
  agree.bind fun _ => (many (after (consumes_symbol ",").narrows fun _ => agree)).bind fun _ =>
    after (narrows_takeSymbol ",") fun _ => .pure _

theorem chain {operand operand' : Parser Tree} {operator : Parser (Tree → Tree → Tree)}
    (narrows : Narrows operator) (agree : Agree bound operand operand') :
    Agree bound (chain operand operator) (chain operand' operator) :=
  agree.bind fun _ => (many (after narrows fun _ => agree.bind fun _ => .pure _)).bind fun _ =>
    .pure _

end Agree

end Parser
end Snippet
end AnswerKey
