import AnswerKey.Proofs.Answer.Leading
import AnswerKey.Proofs.Snippet.Spelling

namespace AnswerKey

/-!
Tokens in normalised code.

The pass that normalises code drops blanks between tokens where one of their neighbours is punctuation.
A token is still read as itself, whatever kind it is of, unless it is joined to what stands behind the
blanks (`Snippet.Token.staysApart`).
-/

namespace Snippet
namespace Token

/-- Whether a token may begin with a point. -/
def isPointed : Token → Bool
  | number _ => true
  | symbol shown => shown.toList.head? == some '.'
  | _ => false

/-- Whether a token may stand right behind any number that is no integer. -/
def mayTouch : Token → Bool
  | name id isPlain => isPlain && mayFollowNumber id.toList
  | keyword word => mayFollowNumber word.toList
  | number _ => false
  | string _ => false
  | _ => true

/-- Whether a symbol is read as itself in front of some tokens without blanks between them. -/
def symbolStaysApart (shown : String) (behind : List Token) : Bool :=
  match behind with
  | number _ :: _ => shown != "."
  | symbol other :: rest =>
      !symbols2.contains (.ofList (shown.toList.getLast?.toList ++ other.toList.head?.toList)) &&
        (shown != "." || other != "..." && (other != "." || rest.head?.all (!·.isPointed)))
  | _ => true

/-- A string without a mark. -/
def isBare : Token → Bool
  | string literal =>
      !(literal.isBytes || literal.isRaw || literal.isFormatted || literal.isMarked)
  | _ => false

/-- Whether a token is read as itself in front of some tokens without blanks between them. -/
def staysApart (behind : List Token) : Token → Bool
  | number (.int _) => behind.head?.all (!·.isPointed)
  | number _ => behind.head?.all mayTouch
  | symbol shown => symbolStaysApart shown behind
  | string literal => !literal.body.isEmpty || behind.head?.all (!·.isBare)
  | _ => true

open Text Construct Lexeme

/-- No word goes on with punctuation or a quote. -/
theorem not_mayContinueWord_of_isPunctuation {c : Char} (mark : Answer.isPunctuation c = true) :
    mayContinueWord c = false := by
  have all : ∀ c ∈ "()[]\x7b\x7d:,.;=+-*/%<>!&|^~@".toList, mayContinueWord c = false := by decide
  exact all c (List.contains_iff_mem.mp mark)

section Heads

variable {brackets opened more rest : List Char} {token : Token} {c : Char}

/-- What begins with a point is a number, an ellipsis or the point alone. -/
theorem next?_point (read : next? brackets ('.' :: more) = some (token, opened, rest)) :
    (∃ value, token = number value) ∨ token = symbol "..." ∨ token = symbol "." ∧ rest = more := by
  have plain : IsPlainHead '.' := by decide
  rw [next?, opening?_of_plain plain.1 plain.2.1] at read
  simp only [plain.2.2] at read
  rw [if_neg Bool.false_ne_true] at read
  split at read
  · obtain ⟨⟨value, _⟩, -, same⟩ := Option.map_eq_some_iff.mp read
    cases same
    exact .inl ⟨value, rfl⟩
  · right
    have long : ∀ symbol ∈ symbols3, symbol.toList.head? = some '.' → symbol = "..." := by decide
    have short : ∀ symbol ∈ symbols2, symbol.toList.head? ≠ some '.' := by decide
    split at read
    · cases read
    · next shown behind symbol =>
        obtain ⟨_, -, same⟩ := Option.map_eq_some_iff.mp read
        cases same
        unfold symbol? at symbol
        split at symbol
        · next member =>
            cases symbol
            refine .inl (congrArg Token.symbol (long _ (List.contains_iff_mem.mp member) ?_))
            rw [String.toList_ofList]
            rfl
        · split at symbol
          · next member =>
              cases symbol
              refine absurd ?_ (short _ (List.contains_iff_mem.mp member))
              rw [String.toList_ofList]
              rfl
          · dsimp only at symbol
            rw [if_pos (by decide)] at symbol
            cases symbol
            exact .inr ⟨rfl, rfl⟩

theorem isPointed_of_next? (read : next? brackets ('.' :: more) = some (token, opened, rest)) :
    token.isPointed = true := by
  rcases next?_point read with ⟨value, rfl⟩ | rfl | ⟨rfl, -⟩
  · rfl
  · decide
  · decide

/-- What begins with other punctuation is a symbol. -/
theorem exists_symbol_of_next? (mark : Answer.isPunctuation c = true) (noPoint : c ≠ '.')
    (read : next? brackets (c :: more) = some (token, opened, rest)) :
    ∃ others, token = symbol (.ofList (c :: others)) := by
  have noDigit : isAsciiDigit c = false := by
    rw [← Bool.not_eq_true]
    intro digit
    have inWord := mayContinueWord_of_digit (.inl digit)
    rw [not_mayContinueWord_of_isPunctuation mark] at inWord
    cases inWord
  have point : (c == '.') = false := by simpa using noPoint
  obtain ⟨noWord, noQuote, noName⟩ := isPlainHead_of_isPunctuation mark
  rw [next?, opening?_of_plain noWord noQuote] at read
  simp only [noName, noDigit, point] at read
  rw [if_neg Bool.false_ne_true, Bool.false_and, Bool.or_false, if_neg Bool.false_ne_true] at read
  split at read
  · cases read
  · next shown behind found =>
      obtain ⟨_, -, same⟩ := Option.map_eq_some_iff.mp read
      cases same
      obtain ⟨whole, filled, -, -⟩ := symbol?_spec found
      obtain ⟨d, others, rfl⟩ := List.exists_cons_of_ne_nil filled
      obtain ⟨rfl, -⟩ := List.cons.inj whole
      exact ⟨others, rfl⟩

/-- What begins with a digit is a number. -/
theorem next?_digit (digit : isAsciiDigit c = true)
    (read : next? brackets (c :: more) = some (token, opened, rest)) :
    ∃ value, token = number value := by
  have starts : startsNumber c more = true := by rw [startsNumber, digit, Bool.true_or]
  obtain ⟨noWord, noQuote, noName⟩ := isPlainHead_of_startsNumber starts
  rw [next?, opening?_of_plain noWord noQuote] at read
  simp only [noName, digit] at read
  rw [if_neg Bool.false_ne_true, Bool.true_or, if_pos rfl] at read
  obtain ⟨⟨value, _⟩, -, same⟩ := Option.map_eq_some_iff.mp read
  cases same
  exact ⟨value, rfl⟩

/-- What begins with a quote is a string without a mark. -/
theorem next?_quote (isQuote : Lexeme.isQuote c = true)
    (read : next? brackets (c :: more) = some (token, opened, rest)) : token.isBare = true := by
  have opening : IsOpening [] c := ⟨isQuote, List.forall_mem_nil _, rfl⟩
  rw [next?, ← List.nil_append (c :: more), opening?_of_isOpening opening] at read
  obtain ⟨⟨_, _⟩, found, same⟩ := Option.map_eq_some_iff.mp read
  cases same
  obtain ⟨_, -, same⟩ := Option.map_eq_some_iff.mp found
  cases same
  rfl

end Heads

/-- A word that may stand right behind a number is one that may follow a number. -/
theorem mayFollowNumber_of_mayTouch {brackets opened rest : List Char} {token : Token} {c : Char}
    {more : List Char} (inWord : mayContinueWord c = true)
    (read : next? brackets (c :: more) = some (token, opened, rest)) (touch : token.mayTouch = true) :
    ∃ word, c :: more = word ++ rest ∧ (∀ d ∈ word, mayContinueWord d = true) ∧
      (∀ d ∈ rest.head?, mayContinueWord d = false) ∧ mayFollowNumber word = true := by
  obtain ⟨shown, whole, spelling⟩ := spelling_of_next? read
  cases spelling with
  | word filled within known ends again =>
      refine ⟨shown, whole, within, ends, ?_⟩
      unfold ofWord? at known
      split at known
      · obtain same := Option.some.inj known
        split at same
        · rw [← same, mayTouch, String.toList_ofList] at touch
          exact touch
        · rw [← same, mayTouch, String.toList_ofList] at touch
          exact touch
      · split at known
        · cases known
          cases touch
        · cases known
  | number => cases touch
  | symbol filled punctuation again =>
      obtain ⟨d, others, rfl⟩ := List.exists_cons_of_ne_nil filled
      obtain ⟨rfl, -⟩ := List.cons.inj whole
      rw [not_mayContinueWord_of_isPunctuation (punctuation c List.mem_cons_self)] at inWord
      cases inWord
  | string => cases touch

end Token
end Snippet

namespace Answer

open Text Snippet Snippet.Token
open Snippet.Lexeme (isSpace skipGap isQuote IsOpening)
open Construct (numberMayEnd_of_head of_ascii)

section Behind

variable {margin : Nat} {text rest : List Char}

/-- Where nothing waits to be written, a visible character is written as it is anywhere. -/
theorem flow_lead_eq {c : Char} (shown : isBlank c = false) (behindPunctuation : Bool)
    (more : List Char) :
    flow margin (.lead 0) (c :: more) = flow margin (.inside false behindPunctuation) (c :: more) := by
  rw [flow_shown shown, flow_shown shown]
  simp [Place.spaces]

theorem flow_lead_cons {c : Char} (shown : isBlank c = false) (more : List Char) :
    flow margin (.lead 0) (c :: more) =
      oneQuote c :: flow margin (.inside false (isPunctuation c)) more := by
  rw [flow_shown shown]
  simp [Place.spaces]

/-- Visible characters are written as they are, quotes aside. -/
theorem flow_solid (solid : ∀ c ∈ text, isBlank c = false ∧ c ≠ '\'') (behindPunctuation : Bool)
    (rest : List Char) :
    flow margin (.inside false behindPunctuation) (text ++ rest) =
      text ++ flow margin (.inside false (runBehind isPunctuation behindPunctuation text)) rest := by
  induction text generalizing behindPunctuation with
  | nil => rfl
  | cons c text ih =>
      obtain ⟨⟨shown, noQuote⟩, later⟩ := List.forall_mem_cons.mp solid
      have last : runBehind isPunctuation (isPunctuation c) text =
          runBehind isPunctuation behindPunctuation (c :: text) := by
        cases text with
        | nil => rfl
        | cons d text =>
            rw [runBehind, runBehind, List.getLast?_cons_cons,
              List.getLast?_eq_some_getLast (List.cons_ne_nil d text)]
            rfl
      rw [List.cons_append, ← flow_lead_eq shown, flow_lead_cons shown, ih later, last, oneQuote,
        if_neg noQuote, List.cons_append]

theorem flow_lead_solid (solid : ∀ c ∈ text, isBlank c = false ∧ c ≠ '\'') (filled : text ≠ [])
    (rest : List Char) :
    flow margin (.lead 0) (text ++ rest) =
      text ++ flow margin (.inside false (runBehind isPunctuation false text)) rest := by
  obtain ⟨c, others, rfl⟩ := List.exists_cons_of_ne_nil filled
  rw [List.cons_append, flow_lead_eq (solid c List.mem_cons_self).1 false, ← List.cons_append,
    flow_solid solid]

/-- What comes first behind a token: a line end, a blank, or what stands there behind no blanks but
such as are dropped. -/
theorem flow_inside_cases (spaced : IsPlainlySpaced rest) (behindPunctuation : Bool) :
    (∀ d ∈ (flow margin (.inside false behindPunctuation) rest).head?, d = '\n' ∨ d = ' ') ∨
      ∃ c more, skipGap rest = c :: more ∧ isBlank c = false ∧
        flow margin (.inside false behindPunctuation) rest = flow margin (.lead 0) (c :: more) ∧
        (rest = c :: more ∨ behindPunctuation = true ∨ isPunctuation c = true) := by
  have gap : ∀ c ∈ rest.takeWhile isSpace, isSpace c = true := fun _ => mem_gap
  have written := @flow_gap margin _ gap (.inside false behindPunctuation) (skipGap rest)
  rw [gap_append, behind_gap_inside gap, Bool.false_or] at written
  cases here : skipGap rest with
  | nil =>
      left
      rw [written, here]
      nofun
  | cons c more =>
      rw [here] at written
      rcases head_skipGap spaced (by rw [here]; rfl : c ∈ (skipGap rest).head?) with rfl | shown
      · left
        rw [written, flow_feed_inside]
        rintro _ ⟨⟩
        exact .inl rfl
      · rw [flow_shown shown] at written
        cases empty : (rest.takeWhile isSpace).isEmpty with
        | true =>
            have whole := gap_append rest
            rw [List.isEmpty_iff.mp empty, here] at whole
            refine .inr ⟨c, more, rfl, shown, ?_, .inl whole.symm⟩
            rw [written, empty, flow_lead_cons shown]
            rfl
        | false =>
            rw [empty] at written
            by_cases dropped : behindPunctuation = true ∨ isPunctuation c = true
            · refine .inr ⟨c, more, rfl, shown, ?_, .inr dropped⟩
              rw [written, flow_lead_cons shown]
              rcases dropped with rfl | mark
              · rfl
              · simp [Place.spaces, mark]
            · left
              rw [not_or, Bool.not_eq_true, Bool.not_eq_true] at dropped
              rw [written, dropped.1]
              simp [Place.spaces, dropped.2]

/-- What stands on a line behind a token begins the next one, a comment or the end of the line. -/
theorem exists_next?_of_tokens? {state : State} {others : List Token} {count : Nat} {c : Char}
    {more : List Char} (inside : state.atLineStart = false) (here : skipGap rest = c :: more)
    (shown : isBlank c = false) (read : tokens? state rest = some (others, count)) :
    c = '#' ∨ c = '\\' ∨ ∃ token others' opened left, others = token :: others' ∧
      next? state.brackets (c :: more) = some (token, opened, left) ∧
      tokens? { state with brackets := opened } left = some (others', count) := by
  by_cases comment : c = '#'
  · exact .inl comment
  · by_cases escape : c = '\\'
    · exact .inr (.inl escape)
    · have noFeed : c ≠ '\n' := by
        rintro rfl
        cases shown
      rw [tokens?_eq, step, if_neg (by simp [inside]), here, stepAt_of_ne comment noFeed escape] at read
      split at read
      · cases read
      · next token opened left next =>
          obtain ⟨others', later, rfl⟩ := Cut.exists_of_prepend read
          exact .inr (.inr ⟨token, others', opened, left, rfl, next, later⟩)

end Behind

/-! ### Words and numbers -/

section Words

variable {margin : Nat} {shown rest : List Char} {c : Char}

theorem solid_of_inWord (spaced : IsPlainlySpaced shown)
    (within : ∀ c ∈ shown, mayContinueWord c = true) :
    ∀ c ∈ shown, isBlank c = false ∧ c ≠ '\'' := by
  intro c member
  have inWord := within c member
  refine ⟨?_, ?_⟩
  · rw [← Bool.not_eq_true]
    intro blank
    rcases spaced c member blank with rfl | rfl | rfl <;> cases inWord
  · rintro rfl
    cases inWord

/-- Behind a word no blank is dropped but in front of punctuation. -/
theorem runBehind_of_inWord (filled : shown ≠ []) (last : ∀ c ∈ shown, mayContinueWord c = true)
    (behindPunctuation : Bool) : runBehind isPunctuation behindPunctuation shown = false := by
  rw [runBehind, List.getLast?_eq_some_getLast filled]
  rw [Option.map_some, Option.getD_some, ← Bool.not_eq_true]
  intro mark
  have inWord := last _ (List.getLast_mem filled)
  rw [not_mayContinueWord_of_isPunctuation mark] at inWord
  cases inWord

theorem mayContinueWord_oneQuote (c : Char) : mayContinueWord (oneQuote c) = mayContinueWord c := by
  rw [oneQuote]
  split
  · next same =>
      rw [same]
      rfl
  · rfl

theorem isQuote_oneQuote (c : Char) : isQuote (oneQuote c) = isQuote c := by
  rw [oneQuote]
  split
  · next same =>
      rw [same]
      rfl
  · rfl

theorem not_isQuote_of_isPunctuation (mark : isPunctuation c = true) : isQuote c = false :=
  (isPlainHead_of_isPunctuation mark).2.1

/-- Where no word goes on behind a word, none does in what is written. -/
theorem head_flow (spaced : IsPlainlySpaced rest) (ends : ∀ c ∈ rest.head?, mayContinueWord c = false) :
    ∀ c ∈ (flow margin (.inside false false) rest).head?, mayContinueWord c = false ∧
      (isQuote c = true → ∃ d ∈ rest.head?, isQuote d = true) := by
  intro c head
  rcases flow_inside_cases spaced false with blank | ⟨d, more, here, shown, written, place⟩
  · rcases blank c head with rfl | rfl <;> exact ⟨rfl, nofun⟩
  · rw [written, flow_lead_cons shown] at head
    cases head
    rw [mayContinueWord_oneQuote, isQuote_oneQuote]
    rcases place with rfl | impossible | mark
    · exact ⟨ends d rfl, fun quote => ⟨d, rfl, quote⟩⟩
    · cases impossible
    · exact ⟨not_mayContinueWord_of_isPunctuation mark, fun quote => by
        rw [not_isQuote_of_isPunctuation mark] at quote
        cases quote⟩

theorem flow_word (spaced : IsPlainlySpaced (shown ++ rest)) (filled : shown ≠ [])
    (within : ∀ c ∈ shown, mayContinueWord c = true) :
    flow margin (.lead 0) (shown ++ rest) = shown ++ flow margin (.inside false false) rest := by
  have solid := solid_of_inWord (fun c member => spaced c (List.mem_append_left rest member)) within
  rw [flow_lead_solid solid filled, runBehind_of_inWord filled within]

theorem leadOf_flow_word (spaced : IsPlainlySpaced (shown ++ rest)) (filled : shown ≠ [])
    (within : ∀ c ∈ shown, mayContinueWord c = true)
    (ends : ∀ c ∈ rest.head?, mayContinueWord c = false) :
    leadOf (flow margin (.lead 0) (shown ++ rest)) = shown := by
  rw [flow_word spaced filled within]
  exact leadOf_append within fun c head =>
    (head_flow (spaced.of_suffix (List.suffix_append shown rest)) ends c head).1

/-- No other word comes to stand right behind a word. -/
theorem leadOf_flow (spaced : IsPlainlySpaced rest) :
    leadOf (flow margin (.inside false false) rest) = [] ∨
      leadOf (flow margin (.inside false false) rest) = leadOf rest := by
  rcases flow_inside_cases spaced false with blank | ⟨c, more, here, shown, written, place⟩
  · refine .inl (leadOf_of_head fun c head => ?_)
    rcases blank c head with rfl | rfl <;> rfl
  · rw [written]
    cases inWord : mayContinueWord c with
    | false =>
        refine .inl (leadOf_of_head fun d head => ?_)
        rw [flow_lead_cons shown] at head
        cases head
        rw [mayContinueWord_oneQuote, inWord]
    | true =>
        rcases place with rfl | impossible | mark
        · right
          have split := List.takeWhile_append_dropWhile (p := mayContinueWord) (l := c :: more)
          have whole : c :: more = leadOf (c :: more) ++ (c :: more).dropWhile mayContinueWord :=
            split.symm
          conv_lhs => rw [whole]
          refine leadOf_flow_word (whole ▸ spaced) ?_ (fun _ => List.mem_takeWhile_imp) fun d head => ?_
          · rw [leadOf, List.takeWhile_cons_of_pos inWord]
            exact List.cons_ne_nil _ _
          · have stopped := List.head?_dropWhile_not mayContinueWord (c :: more)
            rw [Option.mem_def.mp head] at stopped
            exact stopped
        · cases impossible
        · rw [not_mayContinueWord_of_isPunctuation mark] at inWord
          cases inWord

variable {state : State} {others : List Token} {count : Nat}

theorem oneQuote_eq_iff {d : Char} (noQuote : d ≠ '"') (noSingle : d ≠ '\'') :
    oneQuote c = d ↔ c = d := by
  rw [oneQuote]
  split
  · next same =>
      rw [same]
      exact ⟨fun other => absurd other.symm noQuote, fun other => absurd other.symm noSingle⟩
  · rfl

/-- No point comes to stand right behind a token but that of the next one. -/
theorem head_flow_ne_point (spaced : IsPlainlySpaced rest)
    (read : tokens? state rest = some (others, count)) (inside : state.atLineStart = false)
    (free : others.head?.all (!·.isPointed) = true) (behindPunctuation : Bool) :
    (flow margin (.inside false behindPunctuation) rest).head? ≠ some '.' := by
  intro head
  rcases flow_inside_cases spaced behindPunctuation with blank | ⟨c, more, here, shown, written, -⟩
  · rcases blank _ head with same | same <;> cases same
  · rw [written, flow_lead_cons shown] at head
    obtain rfl := (oneQuote_eq_iff (by decide) (by decide)).mp (Option.some.inj head)
    rcases exists_next?_of_tokens? inside here shown read with same | same | next
    · cases same
    · cases same
    · obtain ⟨token, others', opened, left, rfl, next, -⟩ := next
      have pointed := isPointed_of_next? next
      simp [pointed] at free

/-- An integer is still one in front of what is written behind it. -/
theorem continues_flow (spaced : IsPlainlySpaced rest) (ends : numberMayEnd rest = true)
    (read : tokens? state rest = some (others, count)) (inside : state.atLineStart = false)
    (apart : others.head?.all (!·.isPointed) = true) (digits : Nat) :
    Continues (.int digits) rest (flow margin (.inside false false) rest) := by
  have lead := @leadOf_flow margin _ spaced
  refine ⟨?_, fun _ _ => ⟨fun c head point => ?_, lead⟩⟩
  · rw [numberMayEnd_eq] at ends ⊢
    rcases lead with none | same
    · rw [none]
      rfl
    · rw [same, ends]
  · exact head_flow_ne_point spaced read inside apart false (point ▸ head)

/-- A number that is no integer may still end in front of what is written behind it. -/
theorem numberMayEnd_flow (spaced : IsPlainlySpaced rest)
    (read : tokens? state rest = some (others, count)) (inside : state.atLineStart = false)
    (touch : others.head?.all mayTouch = true)
    (behindPunctuation : Bool) :
    numberMayEnd (flow margin (.inside false behindPunctuation) rest) = true := by
  rcases flow_inside_cases spaced behindPunctuation with blank | ⟨c, more, here, shown, written, -⟩
  · refine numberMayEnd_of_head fun c head => ?_
    rcases blank c head with rfl | rfl <;> rfl
  · rw [written]
    cases inWord : mayContinueWord c with
    | false =>
        refine numberMayEnd_of_head fun d head => ?_
        rw [flow_lead_cons shown] at head
        cases head
        rw [mayContinueWord_oneQuote, inWord]
    | true =>
        rcases exists_next?_of_tokens? inside here shown read with rfl | rfl | next
        · cases inWord
        · cases inWord
        · obtain ⟨token, others', opened, left, rfl, next, -⟩ := next
          obtain ⟨word, whole, within, ends, follows⟩ :=
            mayFollowNumber_of_mayTouch inWord next (by simpa using touch)
          have spacedHere : IsPlainlySpaced (word ++ left) := by
            rw [← whole, ← here]
            exact fun c member => spaced c ((skipGap_suffix rest).subset member)
          have filled : word ≠ [] := by
            rintro rfl
            rw [List.nil_append] at whole
            rw [ends c (by rw [← whole]; rfl)] at inWord
            cases inWord
          rw [numberMayEnd_eq, whole, leadOf_flow_word spacedHere filled within ends, follows]

end Words

/-! ### Symbols -/

section Symbols

variable {margin : Nat} {shown rest : List Char} {c : Char} {state : State} {others : List Token}
  {count : Nat}

theorem symbols2_of_not_isPunctuation (plain : isPunctuation c = false) (first : Char) :
    symbols2.contains (.ofList [first, c]) = false := by
  have all : ∀ symbol ∈ symbols2, symbol.toList.getLast?.all isPunctuation = true := by decide
  rw [← Bool.not_eq_true, List.contains_iff_mem]
  intro member
  have mark : isPunctuation c = true := by
    have last := all _ member
    rwa [String.toList_ofList] at last
  rw [plain] at mark
  cases mark

theorem symbols2_point (first : Char) : symbols2.contains (.ofList [first, '.']) = false := by
  have all : ∀ symbol ∈ symbols2, symbol.toList.getLast? ≠ some '.' := by decide
  rw [← Bool.not_eq_true, List.contains_iff_mem]
  intro member
  exact all _ member (by rw [String.toList_ofList]; rfl)

/-- A symbol is not joined to what is written behind it. -/
theorem unjoined_flow (spaced : IsPlainlySpaced rest)
    (read : tokens? state rest = some (others, count)) (inside : state.atLineStart = false)
    (apart : symbolStaysApart (.ofList shown) others = true) (behindPunctuation : Bool) :
    Unjoined shown (flow margin (.inside false behindPunctuation) rest) := by
  rcases flow_inside_cases spaced behindPunctuation with blank | ⟨c, more, here, visible, written, -⟩
  · refine ⟨fun first _ d head => ?_, fun _ dots => ?_, fun _ d head => ?_⟩
    · refine symbols2_of_not_isPunctuation ?_ first
      rcases blank d head with rfl | rfl <;> rfl
    · have head : (flow margin (.inside false behindPunctuation) rest).head? = some '.' := by
        have first := congrArg List.head? dots
        rwa [List.head?_take, if_neg (by decide)] at first
      rcases blank '.' head with same | same <;> cases same
    · rcases blank d head with rfl | rfl <;> rfl
  · have next := exists_next?_of_tokens? inside here visible read
    rw [written]
    refine ⟨fun first last d head => ?_, fun point dots => ?_, fun point d head => ?_⟩
    · rw [flow_lead_cons visible] at head
      cases head
      cases mark : isPunctuation c with
      | false => exact symbols2_of_not_isPunctuation (by rw [isPunctuation_oneQuote, mark]) first
      | true =>
          rw [oneQuote_of_isPunctuation mark]
          by_cases point : c = '.'
          · rw [point]
            exact symbols2_point first
          · rcases next with rfl | rfl | ⟨token, others', opened, left, rfl, next, -⟩
            · cases mark
            · cases mark
            · obtain ⟨tail, rfl⟩ := exists_symbol_of_next? mark point next
              rw [symbolStaysApart, Bool.and_eq_true, Bool.not_eq_true', String.toList_ofList,
                String.toList_ofList, Option.mem_def.mp last] at apart
              exact apart.1
    · subst point
      rw [flow_lead_cons visible, List.take_succ_cons] at dots
      obtain ⟨first, second⟩ := List.cons.inj dots
      obtain rfl := (oneQuote_eq_iff (by decide) (by decide)).mp first
      rcases next with same | same | ⟨token, others', opened, left, rfl, next, later⟩
      · cases same
      · cases same
      · rcases next?_point next with ⟨value, rfl⟩ | rfl | ⟨rfl, rfl⟩
        · cases apart
        · cases apart
        · rw [symbolStaysApart, Bool.and_eq_true, Bool.or_eq_true, Bool.and_eq_true,
            Bool.or_eq_true] at apart
          have free : others'.head?.all (!·.isPointed) = true := by
            rcases apart.2 with other | ⟨-, other | free⟩
            · cases other
            · cases other
            · exact free
          have spacedLeft : IsPlainlySpaced left :=
            (spaced.of_suffix (here ▸ skipGap_suffix rest)).tail
          have head := congrArg List.head? second
          rw [List.head?_take, if_neg Nat.one_ne_zero] at head
          exact head_flow_ne_point spacedLeft later inside free _ head
    · subst point
      rw [flow_lead_cons visible] at head
      cases head
      rw [← Bool.not_eq_true]
      intro digit
      have noQuote : c ≠ '\'' := by
        rintro rfl
        cases digit
      rw [oneQuote, if_neg noQuote] at digit
      rcases next with rfl | rfl | ⟨token, others', opened, left, rfl, next, -⟩
      · cases digit
      · cases digit
      · obtain ⟨value, rfl⟩ := next?_digit digit next
        cases apart

end Symbols

/-! ### Strings -/

section Strings

variable {margin : Nat} {mark body rest text : List Char} {quote : Char} {literal : Literal}

/-- A literal without quotes in its body that is in normal form between double ones. -/
structure IsKept (literal : Literal) : Prop where
  free : '"' ∉ literal.body
  normal : IsCodeForm ('"' :: (literal.body ++ ['"']))

/-- What is in normal form from a quote on is written as it is. -/
theorem flow_of_isCodeForm (spaced : IsPlainlySpaced text)
    (normal : IsCodeForm ('"' :: (text ++ ['"']))) :
    flow 0 (.inside false false) (text ++ ['"']) = text ++ ['"'] := by
  have spacedWhole : IsPlainlySpaced ('"' :: (text ++ ['"'])) := by
    intro c member blank
    rcases List.mem_cons.mp member with rfl | member
    · cases blank
    · rcases List.mem_append.mp member with inside | last
      · exact spaced c inside blank
      · rw [List.mem_singleton.mp last] at blank
        cases blank
  have filled : '"' :: (text ++ ['"']) ≠ [] := List.cons_ne_nil _ _
  have rows : lines ('"' :: (text ++ ['"'])) ≠ [] := by
    obtain ⟨first, others, whole⟩ := exists_lines_eq ('"' :: (text ++ ['"']))
    simp [whole]
  have written : flow 0 (.lead 0) ('"' :: (text ++ ['"']) ++ ['\n']) =
      '"' :: (text ++ ['"']) ++ ['\n'] := by
    rw [flow_text spacedWhole fun _ _ => Nat.zero_le _, normal.rows_eq filled]
    simp only [List.drop_zero]
    rw [← unlines_concat rows, unlines_lines]
  have last : (Place.inside false false).behind (text ++ ['"']) = .inside false false := by
    rw [Place.behind, List.foldl_append]
    rfl
  rw [List.cons_append, flow_lead_cons rfl, flow_append] at written
  obtain ⟨-, same⟩ := List.cons.inj written
  rw [show isPunctuation '"' = false from rfl, last] at same
  exact List.append_cancel_right same

variable (isQuote : isQuote quote = true)

include isQuote

theorem flow_quote (rest : List Char) : flow margin (.inside false false) (quote :: rest) =
    '"' :: flow margin (.inside false false) rest := by
  rw [Lexeme.isQuote, Bool.or_eq_true, beq_iff_eq, beq_iff_eq] at isQuote
  rcases isQuote with rfl | rfl <;> rfl

/-- A body in normal form is written as it is, up to the quote behind it. -/
theorem flow_body (spaced : IsPlainlySpaced body) (normal : IsCodeForm ('"' :: (body ++ ['"'])))
    (rest : List Char) : flow 0 (.inside false false) (body ++ quote :: rest) =
      body ++ '"' :: flow 0 (.inside false false) rest := by
  have same (place : Place) : flow 0 place (quote :: rest) = flow 0 place ('"' :: rest) := by
    rw [Lexeme.isQuote, Bool.or_eq_true, beq_iff_eq, beq_iff_eq] at isQuote
    rcases isQuote with rfl | rfl <;> rfl
  have last : (Place.inside false false).behind (body ++ ['"']) = .inside false false := by
    rw [Place.behind, List.foldl_append]
    rfl
  rw [flow_append, same, ← flow_append, List.append_cons, flow_append, flow_of_isCodeForm spaced normal,
    last, List.append_assoc]
  rfl

omit isQuote

theorem flow_mark (opening : IsOpening mark quote) (rest : List Char)
    (spaced : IsPlainlySpaced mark) :
    flow margin (.lead 0) (mark ++ quote :: rest) =
      mark ++ '"' :: flow margin (.inside false false) rest := by
  have letters := (mayContinueWord_of_mark opening).1
  have solid := solid_of_inWord spaced letters
  have shown : isBlank quote = false := by
    have isQuote := opening.isQuote
    rw [Lexeme.isQuote, Bool.or_eq_true, beq_iff_eq, beq_iff_eq] at isQuote
    rcases isQuote with rfl | rfl <;> rfl
  rw [← flow_quote opening.isQuote]
  cases mark with
  | nil => exact flow_lead_eq shown false rest
  | cons c mark =>
      have filled := List.cons_ne_nil c mark
      rw [flow_lead_solid solid filled, runBehind_of_inWord filled letters]

end Strings

/-! ### Tokens -/

section Tokens

variable {state : State} {opened text rest : List Char} {token : Token} {others : List Token}
  {count : Nat}

/-- No quote comes to stand right behind a token but that of a string without a mark. -/
theorem head_flow_ne_quote (spaced : IsPlainlySpaced rest)
    (read : tokens? state rest = some (others, count)) (inside : state.atLineStart = false)
    (free : others.head?.all (!·.isBare) = true) :
    ∀ c ∈ (flow 0 (.inside false false) rest).head?, c ≠ '"' := by
  rintro _ head rfl
  rcases flow_inside_cases spaced false with blank | ⟨c, more, here, shown, written, -⟩
  · rcases blank _ head with same | same <;> cases same
  · rw [written, flow_lead_cons shown] at head
    have isQuote : isQuote c = true := by
      rw [← isQuote_oneQuote, Option.some.inj head]
      rfl
    rcases exists_next?_of_tokens? inside here shown read with rfl | rfl | next
    · cases isQuote
    · cases isQuote
    · obtain ⟨token, others', opened, left, rfl, next, -⟩ := next
      have bare := next?_quote isQuote next
      simp [bare] at free

/-- A token is read again in what is written for it and for what stands behind it, if that does not
join the token. -/
theorem exists_next?_flow (inside : state.atLineStart = false) (spaced : IsPlainlySpaced text)
    (next : next? state.brackets text = some (token, opened, rest))
    (read : tokens? { state with brackets := opened } rest = some (others, count))
    (apart : token.staysApart others = true)
    (kept : ∀ literal, token = .string literal → IsKept literal) :
    ∃ behindPunctuation, next? state.brackets (flow 0 (.lead 0) text) =
      some (token, opened, flow 0 (.inside false behindPunctuation) rest) := by
  obtain ⟨shown, rfl, spelling⟩ := spelling_of_next? next
  have spacedRest := spaced.of_suffix (List.suffix_append shown rest)
  cases spelling with
  | word filled within known ends again =>
      rw [flow_word spaced filled within]
      exact ⟨false, again _ (head_flow spacedRest ends)⟩
  | @number value _ filled figures ends integral again =>
      have solid : ∀ c ∈ shown, isBlank c = false ∧ c ≠ '\'' := fun c member =>
        of_ascii (fun c => isFigure c = true → isBlank c = false ∧ c ≠ '\'') (by decide)
          (isAscii_of_isFigure (figures c member)) (figures c member)
      have other (touch : others.head?.all mayTouch = true) (noInteger : ∀ digits, value ≠ .int digits) :
          ∃ behindPunctuation, next? state.brackets (flow 0 (.lead 0) (shown ++ rest)) =
            some (.number value, opened, flow 0 (.inside false behindPunctuation) rest) := by
        rw [flow_lead_solid solid filled]
        exact ⟨_, again _ ⟨numberMayEnd_flow spacedRest read inside touch _,
          fun digits same => absurd same (noInteger digits)⟩⟩
      cases value with
      | int digits =>
          rw [flow_word spaced filled (integral digits rfl)]
          exact ⟨false, again _ (continues_flow spacedRest ends read inside apart digits)⟩
      | _ => exact other apart nofun
  | symbol filled punctuation again =>
      have solid : ∀ c ∈ shown, isBlank c = false ∧ c ≠ '\'' := by
        refine fun c member => ⟨not_isBlank_of_isPunctuation (punctuation c member), ?_⟩
        rintro rfl
        cases punctuation _ member
      rw [flow_lead_solid solid filled]
      exact ⟨_, again _ (unjoined_flow spacedRest read inside apart _)⟩
  | @string mark body _ quote same opening written =>
      obtain ⟨free, normal⟩ := kept _ rfl
      obtain ⟨rfl, mark', quote', opening, written⟩ := next?_requoted next
      refine ⟨false, ?_⟩
      have isQuote := opening.isQuote
      rcases written with ⟨whole, again⟩ | ⟨whole, again⟩
      · rw [whole] at spaced ⊢
        rw [flow_mark opening _ fun c member => spaced c (List.mem_append_left _ member),
          flow_body isQuote (fun c member => spaced c (by simp [member])) normal]
        refine again free _ fun empty => head_flow_ne_quote spacedRest read inside ?_
        rw [staysApart, empty] at apart
        exact apart
      · rw [whole] at spaced ⊢
        rw [flow_mark opening _ fun c member => spaced c (List.mem_append_left _ member),
          flow_quote isQuote, flow_quote isQuote,
          flow_body isQuote (fun c member => spaced c (by simp [member])) normal,
          flow_quote isQuote, flow_quote isQuote]
        exact again free _

end Tokens

end Answer
end AnswerKey
