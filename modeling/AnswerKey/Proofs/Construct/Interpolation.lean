import AnswerKey.Proofs.Construct.Laying

namespace AnswerKey
namespace Construct

/-!
Interpolation, as it is detected and as it is parsed.

The pattern of an interpolation looks for the placeholder of a literal with fields, where no other
literal stands right in front of it.  What the outline takes for a field is a brace that is not doubled.
That is a field of the tree, but for the name of a character in braces.  So the pattern and the parser
agree on snippets without such names in which no literal with fields is joined to a literal in front of
it without a gap (`isDetected_interpolation_iff`).
-/

open Text Pattern Snippet

/-! ### Fields by their braces -/

section Braces

variable {raw : Bool} {body : List Char}

theorem hasField_cons {c : Char} (other : c ≠ '\x7b') (rest : List Char) :
    hasField (c :: rest) = hasField rest := by
  have kept : dropDoubled (c :: rest) = c :: dropDoubled rest := by
    rw [dropDoubled.eq_def]
    split
    · next same => exact absurd (List.cons.inj same).1 other
    · next same =>
        cases same
        rfl
    · next same => cases same
  rw [hasField, kept, List.contains_cons, beq_eq_false_iff_ne.mpr (Ne.symm other), Bool.false_or]
  rfl

theorem hasField_brace {rest : List Char} (single : rest.head? ≠ some '\x7b') :
    hasField ('\x7b' :: rest) = true := by
  have kept : dropDoubled ('\x7b' :: rest) = '\x7b' :: dropDoubled rest := by
    rw [dropDoubled.eq_def]
    split
    · next same =>
        rw [(List.cons.inj same).2] at single
        exact absurd rfl single
    · next same =>
        cases same
        rfl
    · next same => cases same
  rw [hasField, kept, List.contains_cons, beq_self_eq_true, Bool.true_or]

/-- A brace that is not doubled stays one behind anything that does not end with one. -/
theorem hasField_append {front rest : List Char} (holds : hasField rest = true)
    (ends : front.getLast? ≠ some '\x7b') : hasField (front ++ rest) = true := by
  fun_induction dropDoubled front with
  | case1 front ih =>
      have behind : hasField (front ++ rest) = true := by
        cases front with
        | nil => exact holds
        | cons c front => exact ih (by simpa [List.getLast?_cons_cons] using ends)
      exact behind
  | case2 c front single ih =>
      by_cases brace : c = '\x7b'
      · subst brace
        cases front with
        | nil => exact absurd rfl ends
        | cons d front =>
            refine hasField_brace fun doubled => ?_
            obtain rfl := Option.some.inj doubled
            exact single front rfl rfl
      · rw [List.cons_append, hasField_cons brace]
        cases front with
        | nil => exact holds
        | cons d front => exact ih (by simpa [List.getLast?_cons_cons] using ends)
  | case3 => exact holds

/-- Behind the name of a character a text goes on. -/
theorem exists_name {more : List Char}
    (left : more.drop ((more.takeWhile (· ≠ '\x7d')).length + 1) ≠ []) :
    ∃ name, more = name ++ '\x7d' :: more.drop ((more.takeWhile (· ≠ '\x7d')).length + 1) := by
  have both := List.takeWhile_append_dropWhile (p := (· ≠ '\x7d')) (l := more)
  have stopped := List.head?_dropWhile_not (fun c => decide (c ≠ '\x7d')) more
  refine ⟨more.takeWhile (· ≠ '\x7d'), ?_⟩
  generalize more.takeWhile (· ≠ '\x7d') = name at *
  generalize more.dropWhile (· ≠ '\x7d') = behind at *
  subst both
  cases behind with
  | nil => simp at left
  | cons c behind =>
      obtain rfl : c = '\x7d' := by simpa using stopped
      simp [← List.drop_drop]

section Steps

open Literal

variable {c e : Char} {rest more : List Char}

theorem loneBrace?_escape (escape : c = '\\' ∧ (!raw) = true)
    (other : ∀ behind, e = 'N' → more = '\x7b' :: behind → False) :
    loneBrace? raw (c :: e :: more) =
      if e = '\x7b' ∨ e = '\x7d' then loneBrace? raw (e :: more) else loneBrace? raw more := by
  rw [loneBrace?.eq_def]
  simp only [if_pos escape]

theorem loneBrace?_brace (noEscape : ¬ (c = '\\' ∧ (!raw) = true)) (brace : c = '\x7b' ∨ c = '\x7d') :
    loneBrace? raw (c :: rest) =
      if rest.head? = some c then loneBrace? raw (rest.drop 1) else some c := by
  rw [loneBrace?.eq_def]
  simp only [if_neg noEscape, if_pos brace]

theorem loneBrace?_plain (noEscape : ¬ (c = '\\' ∧ (!raw) = true))
    (plain : ¬ (c = '\x7b' ∨ c = '\x7d')) :
    loneBrace? raw (c :: rest) = loneBrace? raw rest := by
  rw [loneBrace?.eq_def]
  simp only [if_neg noEscape, if_neg plain]

end Steps

/-- A pair of doubled braces is passed over. -/
theorem hasField_doubled {c : Char} {rest : List Char} (brace : c = '\x7b' ∨ c = '\x7d')
    (doubled : rest.head? = some c) : hasField (c :: rest) = hasField (rest.drop 1) := by
  obtain ⟨behind, rfl⟩ := List.head?_eq_some_iff.mp doubled
  rcases brace with rfl | rfl
  · rfl
  · rw [hasField_cons (by decide), hasField_cons (by decide)]
    rfl

theorem ne_brace {c : Char} (plain : ¬ (c = '\x7b' ∨ c = '\x7d')) : c ≠ '\x7b' :=
  fun same => plain (.inl same)

theorem ne_brace_of_escape {c : Char} (escape : c = '\\' ∧ (!raw) = true) : c ≠ '\x7b' := by
  rw [escape.1]
  decide

/-- A field is a brace that is not doubled. -/
theorem hasField_of_loneBrace? (lone : Literal.loneBrace? raw body = some '\x7b') :
    hasField body = true := by
  induction body using Literal.loneBrace?.induct raw with
  | case1 => simp [Literal.loneBrace?] at lone
  | case2 c escape more ih =>
      rw [Literal.loneBrace?, if_pos escape] at lone
      have behind := ih lone
      have filled : more.drop ((more.takeWhile (· ≠ '\x7d')).length + 1) ≠ [] := by
        intro gone
        rw [gone] at behind
        cases behind
      obtain ⟨name, whole⟩ := exists_name filled
      have ends : (c :: 'N' :: '\x7b' :: (name ++ ['\x7d'])).getLast? ≠ some '\x7b' := by
        rw [← List.cons_append, ← List.cons_append, ← List.cons_append, List.getLast?_concat]
        decide
      have front := hasField_append behind ends
      rw [whole]
      simpa using front
  | case3 c escape e more other brace ih =>
      rw [loneBrace?_escape escape other, if_pos brace] at lone
      rw [hasField_cons (ne_brace_of_escape escape), ih lone]
  | case4 c escape e more other plain ih =>
      rw [loneBrace?_escape escape other, if_neg plain] at lone
      rw [hasField_cons (ne_brace_of_escape escape), hasField_cons (ne_brace plain), ih lone]
  | case5 c escape =>
      rw [Literal.loneBrace?.eq_def] at lone
      simp only [if_pos escape] at lone
      cases lone
  | case6 c rest noEscape brace doubled ih =>
      rw [loneBrace?_brace noEscape brace, if_pos doubled] at lone
      rw [hasField_doubled brace doubled, ih lone]
  | case7 c rest noEscape brace single =>
      rw [loneBrace?_brace noEscape brace, if_neg single] at lone
      cases lone
      exact hasField_brace single
  | case8 c rest noEscape plain ih =>
      rw [loneBrace?_plain noEscape plain] at lone
      rw [hasField_cons (ne_brace plain), ih lone]

theorem isBrace_of_loneBrace? {brace : Char} (lone : Literal.loneBrace? raw body = some brace) :
    brace = '\x7b' ∨ brace = '\x7d' := by
  induction body using Literal.loneBrace?.induct raw with
  | case1 => simp [Literal.loneBrace?] at lone
  | case2 c escape more ih =>
      rw [Literal.loneBrace?, if_pos escape] at lone
      exact ih lone
  | case3 c escape e more other isBrace ih =>
      rw [loneBrace?_escape escape other, if_pos isBrace] at lone
      exact ih lone
  | case4 c escape e more other plain ih =>
      rw [loneBrace?_escape escape other, if_neg plain] at lone
      exact ih lone
  | case5 c escape =>
      rw [Literal.loneBrace?.eq_def] at lone
      simp only [if_pos escape] at lone
      cases lone
  | case6 c rest noEscape isBrace doubled ih =>
      rw [loneBrace?_brace noEscape isBrace, if_pos doubled] at lone
      exact ih lone
  | case7 c rest noEscape isBrace single =>
      rw [loneBrace?_brace noEscape isBrace, if_neg single] at lone
      cases lone
      exact isBrace
  | case8 c rest noEscape plain ih =>
      rw [loneBrace?_plain noEscape plain] at lone
      exact ih lone

/-- Without names of characters, every brace that is not doubled opens or closes a field. -/
theorem hasField_of_loneBrace?_eq_none (unnamed : ¬ "\\N\x7b".toList <:+: body)
    (none : Literal.loneBrace? raw body = none) : hasField body = false := by
  have later {c : Char} {rest : List Char} (unnamed : ¬ "\\N\x7b".toList <:+: c :: rest) :
      ¬ "\\N\x7b".toList <:+: rest :=
    fun named => unnamed (List.infix_cons named)
  induction body using Literal.loneBrace?.induct raw with
  | case1 => rfl
  | case2 c escape more _ =>
      rw [escape.1] at unnamed
      exact absurd ⟨[], more, rfl⟩ unnamed
  | case3 c escape e more other brace ih =>
      rw [loneBrace?_escape escape other, if_pos brace] at none
      rw [hasField_cons (ne_brace_of_escape escape), ih (later unnamed) none]
  | case4 c escape e more other plain ih =>
      rw [loneBrace?_escape escape other, if_neg plain] at none
      rw [hasField_cons (ne_brace_of_escape escape), hasField_cons (ne_brace plain),
        ih (later (later unnamed)) none]
  | case5 c escape =>
      rw [hasField_cons (ne_brace_of_escape escape)]
      rfl
  | case6 c rest noEscape brace doubled ih =>
      rw [loneBrace?_brace noEscape brace, if_pos doubled] at none
      rw [hasField_doubled brace doubled, ih (fun named => ?_) none]
      exact later unnamed (named.trans (List.drop_suffix 1 rest).isInfix)
  | case7 c rest noEscape brace single =>
      rw [loneBrace?_brace noEscape brace, if_neg single] at none
      cases none
  | case8 c rest noEscape plain ih =>
      rw [loneBrace?_plain noEscape plain] at none
      rw [hasField_cons (ne_brace plain), ih (later unnamed) none]

end Braces

/-! ### Literals of a text -/

/-- A literal whose body stands in a text.  It is not made of bytes when it is formatted. -/
structure IsWritten (literal : Literal) (text : List Char) : Prop where
  body : literal.body <:+: text
  notBytes : literal.isFormatted = true → literal.isBytes = false

section Written

variable {literal : Literal} {text rest brackets opened : List Char}

theorem IsWritten.of_suffix (written : IsWritten literal rest) (suffix : rest <:+ text) :
    IsWritten literal text :=
  ⟨written.body.trans suffix.isInfix, written.notBytes⟩

/-- A mark does not ask for fields and bytes at once. -/
theorem not_isBytes {mark : List Char} {quote : Char} (opening : Lexeme.IsOpening mark quote)
    {body : List Char} (formatted : (Literal.ofMark mark body).isFormatted = true) :
    (Literal.ofMark mark body).isBytes = false := by
  have apart : ∀ mark ∈ Lexeme.stringMarks, 'f' ∈ mark.toList → 'b' ∉ mark.toList := by decide
  have isMark := opening.isMark
  obtain ⟨c, member, isF⟩ := List.any_eq_true.mp formatted
  rw [Lexeme.isStringMark, Bool.or_eq_true, List.isEmpty_iff, List.contains_iff_mem] at isMark
  rcases isMark with rfl | isMark
  · cases member
  · have letters := apart _ isMark
    rw [String.toList_ofList, List.mem_map, List.mem_map] at letters
    have small : lowerChar c = 'f' := by
      simp only [Bool.or_eq_true, beq_iff_eq] at isF
      rcases isF with rfl | rfl <;> decide
    rw [Literal.ofMark, List.any_eq_false]
    intro d member' isB
    refine letters ⟨c, member, small⟩ ⟨d, member', ?_⟩
    simp only [Bool.or_eq_true, beq_iff_eq] at isB
    rcases isB with rfl | rfl <;> decide

/-- What is left behind a token is the end of the text, and a string was written in it. -/
theorem spec_of_next? {token : Token}
    (next : Token.next? brackets text = some (token, opened, rest)) :
    rest <:+ text ∧ ∀ literal, token = .string literal → IsWritten literal text := by
  unfold Token.next? at next
  split at next
  · next mark quote behind opens =>
      obtain ⟨⟨_, _⟩, read, same⟩ := Option.map_eq_some_iff.mp next
      cases same
      obtain ⟨rfl, opening⟩ := Lexeme.opening?_spec opens
      obtain ⟨body, rfl, -, front, between, rfl⟩ := string?_spec opening read
      refine ⟨⟨mark ++ quote :: (front ++ (body ++ (between ++ [quote]))), by simp⟩, ?_⟩
      rintro _ ⟨⟩
      exact ⟨⟨mark ++ quote :: front, between ++ quote :: rest, by simp [Literal.ofMark]⟩,
        not_isBytes opening⟩
  · split at next
    · cases next
    · split at next
      · obtain ⟨found, word, same⟩ := Option.map_eq_some_iff.mp next
        cases same
        refine ⟨List.dropWhile_suffix _, ?_⟩
        rintro literal rfl
        unfold Token.ofWord? at word
        split at word
        · have same := Option.some.inj word
          split at same <;> cases same
        · split at word <;> cases word
      · split at next
        · obtain ⟨⟨_, _⟩, read, same⟩ := Option.map_eq_some_iff.mp next
          cases same
          obtain ⟨piece, whole, -⟩ := Token.number?_spec read
          exact ⟨⟨piece, whole.symm⟩, fun _ other => Token.noConfusion other⟩
        · split at next
          · cases next
          · next shown left read =>
              obtain ⟨_, -, same⟩ := Option.map_eq_some_iff.mp next
              cases same
              exact ⟨⟨shown, (symbol?_spec read).1.symm⟩, fun _ other => Token.noConfusion other⟩

/-- The literals of a text stand in it. -/
theorem isWritten_of_cut {fresh : Bool} {tokens : List Token} (cut : Token.Cut fresh text tokens)
    (member : Token.string literal ∈ tokens) : IsWritten literal text := by
  induction cut with
  | finish => simp at member
  | mark layout _ ih =>
      refine ih ((List.mem_cons.mp member).resolve_left fun same => ?_)
      rcases layout with rfl | rfl <;> cases same
  | spacing _ _ ih => exact (ih member).of_suffix (List.suffix_cons _ _)
  | lineEnd _ ih =>
      have behind := (List.mem_cons.mp member).resolve_left (Token.noConfusion ·)
      exact (ih behind).of_suffix (List.suffix_cons _ _)
  | @comment _ rest _ _ ih =>
      exact (ih member).of_suffix ((List.dropWhile_suffix _).trans (List.suffix_cons _ _))
  | @token _ _ _ _ _ token _ next _ ih =>
      obtain ⟨suffix, written⟩ := spec_of_next? next
      rcases List.mem_cons.mp member with same | behind
      · exact written literal same.symm
      · exact (ih behind).of_suffix suffix

end Written

/-! ### Placeholders in an outline -/

theorem fields_symbol? {tally after : Tally} {shown : String}
    (run : tally.symbol? shown = some after) : after.fields = tally.fields := by
  have closed {kind : Bracket} (run : tally.closed? kind = some after) :
      after.fields = tally.fields := by
    unfold Tally.closed? at run
    split at run
    · cases run
    · split at run
      · cases run
      · split at run
        · cases run
        · cases run
          rfl
  unfold Tally.symbol? at run
  repeat' split at run
  all_goals first
    | exact closed run
    | cases run; rfl

/-- Fields are held by the literals among some tokens. -/
theorem fields_of_run? {tally after : Tally} {tokens : List Token}
    (run : tally.run? tokens = some after) : after.fields = true ↔
      tally.fields = true ∨ ∃ literal, .string literal ∈ tokens ∧ literal.holdsField = true := by
  induction tokens generalizing tally with
  | nil =>
      cases run
      simp
  | cons token tokens ih =>
      obtain ⟨next, step, onward⟩ := Option.bind_eq_some_iff.mp run
      rw [ih onward]
      have here : next.fields = true ↔
          tally.fields = true ∨ ∃ literal, token = .string literal ∧ literal.holdsField = true := by
        cases token with
        | string literal =>
            simp only [Tally.next?] at step
            split at step
            · cases step
            · cases step
              simp [Tally.hold]
        | symbol shown =>
            obtain ⟨other, read, rfl⟩ := Option.map_eq_some_iff.mp step
            simp [Tally.behind, fields_symbol? read]
        | keyword word =>
            cases step
            split <;> simp [Tally.behind, Tally.shift]
        | _ =>
            cases step
            simp [Tally.behind]
      rw [here, or_assoc, ← exists_or]
      simp only [List.mem_cons, or_and_right, @eq_comm _ token]

/-- No literal that closes a field it has not opened is tallied. -/
theorem not_isStray_of_run? {tally after : Tally} {tokens : List Token} {literal : Literal}
    (run : tally.run? tokens = some after) (member : .string literal ∈ tokens) :
    literal.isStray = false := by
  induction tokens generalizing tally with
  | nil => cases member
  | cons token tokens ih =>
      obtain ⟨next, step, onward⟩ := Option.bind_eq_some_iff.mp run
      rcases List.mem_cons.mp member with rfl | behind
      · simp only [Tally.next?] at step
        split at step
        · cases step
        · next read =>
            rw [Bool.or_eq_true, not_or] at read
            exact eq_false_of_ne_true read.2
      · exact ih onward behind

namespace Lays

variable {before : Option Char} {tokens : List Token} {text : List Char} {literal : Literal}

/-- No brace stands behind a quotation mark where a token begins. -/
theorem not_quote_brace {rest : List Char} (laid : Lays before tokens ('"' :: '\x7b' :: rest)) :
    False := by
  generalize whole : '"' :: '\x7b' :: rest = text at laid
  induction laid with
  | done => cases whole
  | @spacing _ c _ _ spaced _ _ =>
      obtain ⟨rfl, -⟩ := List.cons.inj whole
      cases spaced
  | @quiet _ _ shown text _ _ tame _ ih =>
      cases shown with
      | nil => exact ih whole
      | cons c shown =>
          obtain ⟨rfl, -⟩ := List.cons.inj whole
          rcases tame with all | walrus
          · exact absurd (all '"' List.mem_cons_self) (by decide)
          · cases walrus
  | lambda => cases whole
  | @string _ literal text _ _ _ _ =>
      unfold standIn at whole
      split at whole <;> cases whole
  | @symbol _ c _ _ counted _ _ =>
      obtain ⟨rfl, -⟩ := List.cons.inj whole
      rcases counted with bracket | colon
      · cases bracket
      · cases colon

/-- Where the placeholder of a literal with fields stands, such a literal does. -/
theorem exists_literal {front rest : List Char}
    (laid : Lays before tokens (front ++ 'f' :: '"' :: '\x7b' :: rest)) :
    ∃ literal, .string literal ∈ tokens ∧ standIn literal = fieldPlaceholder := by
  generalize whole : front ++ 'f' :: '"' :: '\x7b' :: rest = text at laid
  -- The placeholder does not begin in a piece that lacks one of its characters.
  have behind {before : Option Char} {tokens : List Token} {shown text front : List Char}
      (whole : front ++ 'f' :: '"' :: '\x7b' :: rest = shown ++ text) (laid : Lays before tokens text)
      (lacks : 'f' ∉ shown ∨ '"' ∉ shown) : ∃ front, front ++ 'f' :: '"' :: '\x7b' :: rest = text := by
    rcases List.append_eq_append_iff.mp whole with ⟨early, rfl, onward⟩ | ⟨early, -, onward⟩
    · rcases early with _ | ⟨c, _ | ⟨d, early⟩⟩
      · exact ⟨[], onward⟩
      · obtain ⟨rfl, rfl⟩ := List.cons.inj onward
        exact laid.not_quote_brace.elim
      · simp only [List.cons_append, List.cons.injEq] at onward
        obtain ⟨rfl, rfl, -⟩ := onward
        simp at lacks
    · exact ⟨early, onward.symm⟩
  have later {token : Token} {tokens : List Token}
      (found : ∃ literal, .string literal ∈ tokens ∧ standIn literal = fieldPlaceholder) :
      ∃ literal, .string literal ∈ token :: tokens ∧ standIn literal = fieldPlaceholder :=
    found.imp fun _ => And.imp_left (List.mem_cons_of_mem token)
  induction laid generalizing front with
  | done => simp at whole
  | @spacing _ c _ _ spaced tail ih =>
      obtain ⟨_, onward⟩ := @behind _ _ [c] _ _ whole tail (.inl (by
        rw [List.mem_singleton]
        rintro rfl
        cases spaced))
      exact ih onward
  | @quiet _ _ shown _ _ _ tame tail ih =>
      obtain ⟨_, onward⟩ := behind whole tail (.inr fun quote => by
        rcases tame with all | rfl
        · exact absurd (all '"' quote) (by decide)
        · exact absurd quote (by decide))
      exact later (ih onward)
  | lambda _ _ tail ih =>
      obtain ⟨_, onward⟩ := behind whole tail (.inl (by decide))
      exact later (ih onward)
  | @string _ literal _ _ _ tail ih =>
      by_cases field : standIn literal = fieldPlaceholder
      · exact ⟨literal, List.mem_cons_self, field⟩
      · have plain : standIn literal = placeholder := by
          unfold standIn at field ⊢
          split
          · next holds => exact absurd (if_pos holds) field
          · rfl
        obtain ⟨_, onward⟩ := behind whole tail (.inl (by rw [plain]; decide))
        exact later (ih onward)
  | @symbol _ c _ _ counted tail ih =>
      obtain ⟨_, onward⟩ := @behind _ _ [c] _ _ whole tail (.inl (by
        rw [List.mem_singleton]
        rintro rfl
        rcases counted with bracket | colon
        · cases bracket
        · cases colon))
      exact later (ih onward)

/-- The placeholder of a literal stands in the outline, and no word goes on into it. -/
theorem exists_placeholder (laid : Lays before tokens text) (member : .string literal ∈ tokens)
    (field : standIn literal = fieldPlaceholder) :
    ∃ front rest, text = front ++ (fieldPlaceholder ++ rest) ∧
      touches (frontOf before front) = false := by
  have behind {before : Option Char} {text : List Char} (shown : List Char)
      (found : ∃ front rest, text = front ++ (fieldPlaceholder ++ rest) ∧
        touches (frontOf (frontOf before shown) front) = false) :
      ∃ front rest, shown ++ text = front ++ (fieldPlaceholder ++ rest) ∧
        touches (frontOf before front) = false := by
    obtain ⟨front, rest, rfl, free⟩ := found
    rw [frontOf_frontOf] at free
    exact ⟨shown ++ front, rest, (List.append_assoc _ _ _).symm, free⟩
  induction laid with
  | done => cases member
  | @spacing _ c _ _ _ _ ih => exact behind [c] (ih member)
  | @quiet _ token shown _ _ still _ _ ih =>
      refine behind shown (ih ((List.mem_cons.mp member).resolve_left ?_))
      rintro rfl
      obtain ⟨_, read⟩ := still ⟨[], false, false, true⟩
      cases read
  | lambda _ _ _ ih =>
      exact behind "lambda".toList (ih ((List.mem_cons.mp member).resolve_left (Token.noConfusion ·)))
  | @string _ other text _ apart _ ih =>
      rcases List.mem_cons.mp member with same | later
      · obtain rfl := Token.string.inj same
        exact ⟨[], text, by rw [field]; rfl, apart field⟩
      · refine behind (standIn other) ?_
        have last (before : Option Char) : frontOf before (standIn other) = some '"' := by
          unfold standIn
          split <;> rfl
        rw [last]
        exact ih later
  | @symbol _ c _ _ _ _ ih =>
      exact behind [c] (ih ((List.mem_cons.mp member).resolve_left (Token.noConfusion ·)))

end Lays

/-! ### Agreement -/

theorem takes_interpolation {before : Option Char} {taken rest : List Char} :
    Takes interpolation.pattern before taken rest ↔
      taken = fieldPlaceholder ∧ before.any (fun c => isWordCharacter c || c == '"') = false := by
  rw [pattern, takes_seq_cons]
  simp only [Takes, seq, takes_literal]
  constructor
  · rintro ⟨_, _, rfl, ⟨rfl, free⟩, rfl⟩
    exact ⟨rfl, free⟩
  · rintro ⟨rfl, free⟩
    exact ⟨[], fieldPlaceholder, rfl, ⟨rfl, free⟩, rfl⟩

/-- A literal has the placeholder of one with fields if it holds fields, and only then if no character
is written by its name. -/
theorem standIn_eq_iff {literal : Literal} {text : List Char} (written : IsWritten literal text)
    (unnamed : ¬ "\\N\x7b".toList <:+: text) (settled : literal.isStray = false) :
    standIn literal = fieldPlaceholder ↔ literal.holdsField = true := by
  have standIn_iff : standIn literal = fieldPlaceholder ↔
      literal.isFormatted = true ∧ hasField literal.body = true := by
    rw [standIn, ← Bool.and_eq_true]
    split
    · next holds => simp [holds]
    · next other => simp [other, placeholder, fieldPlaceholder]
  rw [standIn_iff, Literal.holdsField, Literal.startsField]
  constructor
  · rintro ⟨formatted, holds⟩
    rw [Literal.isStray, Literal.startsField, formatted, written.notBytes formatted] at settled
    rw [formatted, written.notBytes formatted]
    cases lone : Literal.loneBrace? literal.isRaw literal.body with
    | none =>
        have plain : ¬ "\\N\x7b".toList <:+: literal.body :=
          fun named => unnamed (named.trans written.body)
        rw [hasField_of_loneBrace?_eq_none plain lone] at holds
        cases holds
    | some brace =>
        rcases isBrace_of_loneBrace? lone with rfl | rfl
        · rfl
        · rw [lone] at settled
          cases settled
  · intro holds
    simp only [Bool.and_eq_true, beq_iff_eq] at holds
    exact ⟨holds.1.1, hasField_of_loneBrace? holds.2⟩

theorem not_named_withLineEnd {text : List Char} (unnamed : ¬ "\\N\x7b".toList <:+: text) :
    ¬ "\\N\x7b".toList <:+: Tree.withLineEnd text := by
  rw [Tree.withLineEnd]
  split
  · exact unnamed
  · rw [List.infix_concat_iff]
    rintro (ends | inside)
    · obtain ⟨front, whole⟩ := ends
      have last := congrArg List.getLast? whole
      simp at last
    · exact unnamed inside

/-- Interpolation is detected in a module exactly if its tree holds a replacement field, provided that
no character is written by its name, lines do not end with a carriage return and no literal with fields
stands right behind another literal. -/
theorem isDetected_interpolation_iff {snippet : String} {tree : Tree}
    (parsed : Tree.parse? .module snippet = some tree) (noReturn : '\r' ∉ snippet.toList)
    (unnamed : ¬ "\\N\x7b".toList <:+: snippet.toList)
    (apart : ¬ "\"f\"\x7b".toList <:+: outline snippet.toList) :
    isDetected "f-string" snippet = tree.hasField := by
  obtain ⟨tokens, laid, run, cut⟩ := exists_lays_of_parse? noReturn parsed
  have fields (literal : Literal) (member : .string literal ∈ tokens) :
      standIn literal = fieldPlaceholder ↔ literal.holdsField = true :=
    standIn_eq_iff (isWritten_of_cut cut member) (not_named_withLineEnd unnamed)
      (not_isStray_of_run? run member)
  have held : tree.hasField = true ↔
      ∃ literal, .string literal ∈ tokens ∧ literal.holdsField = true := by
    simpa [Tally.hold, Tally.start] using fields_of_run? run
  rw [Bool.eq_iff_iff, held]
  change interpolation.pattern.occursIn (outline snippet.toList) = true ↔ _
  rw [occursIn_iff]
  constructor
  · rintro ⟨front, taken, rest, whole, found⟩
    obtain ⟨rfl, -⟩ := takes_interpolation.mp found
    rw [whole] at laid
    obtain ⟨literal, member, field⟩ := laid.exists_literal
    exact ⟨literal, member, (fields literal member).mp field⟩
  · rintro ⟨literal, member, holds⟩
    obtain ⟨front, rest, whole, free⟩ :=
      laid.exists_placeholder member ((fields literal member).mpr holds)
    refine ⟨front, fieldPlaceholder, rest, whole, takes_interpolation.mpr ⟨rfl, ?_⟩⟩
    cases last : front.getLast? with
    | none => rfl
    | some c =>
        obtain ⟨early, rfl⟩ := List.getLast?_eq_some_iff.mp last
        rw [frontOf_concat] at free
        have quote : c ≠ '"' := by
          rintro rfl
          refine apart ⟨early, "_\x7d\"".toList ++ rest, ?_⟩
          rw [whole]
          simp [fieldPlaceholder]
        simpa [quote, touches] using free

/-- A greeting with fields in it, behind a literal and a gap. -/
theorem isDetected_interpolation_greeting :
    isDetected "f-string" "print('a' f\"Hi \x7bname\x7d\")" = true ∧
      ∃ tree, Tree.parse? .module "print('a' f\"Hi \x7bname\x7d\")" = some tree ∧
        tree.hasField = true := by
  have detected : isDetected "f-string" "print('a' f\"Hi \x7bname\x7d\")" = true := by decide +kernel
  have parses : (Tree.parse? .module "print('a' f\"Hi \x7bname\x7d\")").isSome = true := by
    decide +kernel
  obtain ⟨tree, parsed⟩ := Option.isSome_iff_exists.mp parses
  refine ⟨detected, tree, parsed, ?_⟩
  rw [← isDetected_interpolation_iff parsed (by decide +kernel) (by decide +kernel)
    (by decide +kernel), detected]

/-- A literal with fields that is joined to another one without a gap is overlooked. -/
theorem isDetected_interpolation_joined :
    (Tree.parse? .module "'a'f'\x7bx\x7d'").map (·.hasField) = some true ∧
      isDetected "f-string" "'a'f'\x7bx\x7d'" = false := by
  constructor
  · decide +kernel
  · decide +kernel

end Construct
end AnswerKey
