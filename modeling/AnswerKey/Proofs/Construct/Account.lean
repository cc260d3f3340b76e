import AnswerKey.Proofs.Construct.Piece
import AnswerKey.Proofs.Snippet.Part

namespace AnswerKey
namespace Snippet
namespace Lexeme

/-!
The account that parts give of a text.

Parts give an account of a text when they are the text up to what is left of it, and its outline is
what stands for them and the outline of what is left (`Accounts`).  A word may go on from one part
into the next only behind a number.  Each part is one step of the outline, and the steps of a line
are put together in the order in which the line is read (`tells_partsRest`).
-/

open Text Construct

namespace Part

def isString : Part → Bool
  | lexeme .string _ => true
  | _ => false

def isNumber : Part → Bool
  | lexeme .number _ => true
  | _ => false

/-- What stands for a part in an outline. -/
def shown : Part → List Char
  | comment _ => []
  | lexeme .string text => outlined text
  | part => part.text

/-- Whether a number ends where a part ends.  A part without text changes nothing. -/
def after (touched : Bool) (part : Part) : Bool :=
  if part.text = [] then touched else part.isNumber

/-- A part is clean when it is not stray, and outside comments and strings it is ASCII. -/
def IsClean : Part → Prop
  | comment _ => True
  | lexeme .stray _ => False
  | lexeme .string _ => True
  | part => ∀ c ∈ part.text, isAscii c = true

/-- A string in single quotes escapes its line ends. -/
def IsEscaped : Part → Prop
  | lexeme .string text => isTriple text = false → escapesLineEnds (bodyOf text) = true
  | _ => True

def IsPlain (part : Part) : Prop :=
  part.IsClean ∧ part.IsEscaped

instance : DecidablePred IsClean
  | gap text => List.decidableBAll (fun c => isAscii c = true) text
  | comment _ => .isTrue trivial
  | mark _ text => List.decidableBAll (fun c => isAscii c = true) text
  | lexeme kind text =>
      match kind with
      | .stray => .isFalse id
      | .string => .isTrue trivial
      | .name | .number | .operator | .newline | .indent | .dedent =>
          List.decidableBAll (fun c => isAscii c = true) text

instance : DecidablePred IsEscaped
  | gap _ => .isTrue trivial
  | comment _ => .isTrue trivial
  | mark _ _ => .isTrue trivial
  | lexeme kind text =>
      match kind with
      | .string =>
          inferInstanceAs (Decidable (isTriple text = false → escapesLineEnds (bodyOf text) = true))
      | .name | .number | .operator | .newline | .indent | .dedent | .stray => .isTrue trivial

end Part

/-- No string begins where a number ends. -/
def Apart : (touched : Bool) → List Part → Prop
  | _, [] => True
  | touched, part :: rest =>
      (touched = true → part.isString = false) ∧ Apart (part.after touched) rest

instance Apart.decidable : (touched : Bool) → (parts : List Part) → Decidable (Apart touched parts)
  | _, [] => .isTrue trivial
  | touched, part :: rest =>
      have := Apart.decidable (part.after touched) rest
      inferInstanceAs (Decidable (_ ∧ _))

/-- Whether a number ends where some parts end. -/
def touchedBy (touched : Bool) (parts : List Part) : Bool :=
  parts.foldl Part.after touched

theorem apart_append {touched : Bool} {parts others : List Part} :
    Apart touched (parts ++ others) ↔
      Apart touched parts ∧ Apart (touchedBy touched parts) others := by
  induction parts generalizing touched with
  | nil => simp [Apart, touchedBy]
  | cons part parts ih => exact (and_congr_right fun _ => ih).trans and_assoc.symm

/-! ### Lines -/

/-- A line, or the rest of one, of a text without carriage returns.  It has no line end but at its
end, and lacks one only if nothing follows. -/
structure IsLine (line more : List Char) : Prop where
  noReturn : '\r' ∉ line
  single : IsSingle line
  ended : IsEnded line ∨ more = []

namespace IsLine

variable {first line more : List Char}

theorem of_append (isLine : IsLine (first ++ line) more) : IsLine line more where
  noReturn member := isLine.noReturn (List.mem_append_right _ member)
  single := isLine.single.of_append
  ended := isLine.ended.imp_left fun ended => ended.of_append

/-- Nothing follows a line that lacks its line end. -/
theorem more_eq_nil (isLine : IsLine line more) (filled : line ≠ [])
    (unended : line.getLast? ≠ some '\n') : more = [] :=
  isLine.ended.resolve_left fun ended => ended.elim filled unended

end IsLine

/-! ### Steps -/

/-- The outline of a text that begins with a part begins with what stands for the part. -/
def Part.Steps (part : Part) (following : List Char) : Prop :=
  ∀ inWord, (inWord = true → part.isString = false) →
    ∃ onward, (onward = true → part.after inWord = true) ∧
      scan inWord (part.text ++ following) = part.shown ++ scan onward following

section Steps

variable {following : List Char}

/-- A part of characters that are nothing special. -/
theorem Part.steps_of_inert {part : Part} (kept : part.shown = part.text)
    (inert : ∀ c ∈ part.text, isInert c = true) : part.Steps following := by
  intro inWord _
  cases filled : part.text with
  | nil =>
      refine ⟨inWord, fun within => ?_, ?_⟩
      · rw [Part.after, if_pos filled, within]
      · rw [kept, filled]
        rfl
  | cons c rest =>
      refine ⟨false, fun goesOn => absurd goesOn Bool.false_ne_true, ?_⟩
      rw [filled] at inert
      have head := scan_inert (inert c List.mem_cons_self) inWord (rest ++ following)
      have tail := outline_inert (fun d member => inert d (List.mem_cons_of_mem c member)) following
      rw [kept, filled, List.cons_append, head, tail]
      rfl

theorem steps_number {digits : List Char} (filled : digits ≠ []) (passes : Passes digits) :
    (Part.lexeme .number digits).Steps following := by
  intro inWord _
  rcases passes inWord with ⟨onward, kept⟩
  exact ⟨onward, fun _ => if_neg filled, kept following⟩

/-- A comment ends at the next line end, or with the text. -/
theorem steps_comment {body : List Char} (inside : ∀ c ∈ body, c ≠ '\n')
    (ends : ∀ c ∈ following.head?, c = '\n') : (Part.comment ('#' :: body)).Steps following := by
  intro inWord _
  refine ⟨false, fun goesOn => absurd goesOn Bool.false_ne_true, ?_⟩
  have start (rest : List Char) : scan inWord ('#' :: rest) = outline ('#' :: rest) := by
    cases inWord with
    | false => rfl
    | true => exact outlineWord_of_not rest rfl
  have left : (body ++ following).dropWhile (fun c => decide (c ≠ '\n')) = following := by
    rw [List.dropWhile_append_of_pos fun c member => decide_eq_true (inside c member)]
    cases following with
    | nil => rfl
    | cons c following =>
        rw [ends c rfl]
        rfl
  have taken : outline ('#' :: (body ++ following)) = outline following := by
    rw [outline_cons, nextStretch, if_pos rfl, left]
    rfl
  exact (start (body ++ following)).trans taken

/-- A comment ends as its line does. -/
theorem steps_commentHere {rest more : List Char} (isLine : IsLine ('#' :: rest) more) :
    (Part.comment ('#' :: rest.takeWhile fun c => decide (c ≠ '\n'))).Steps
      ((rest.dropWhile fun c => decide (c ≠ '\n')) ++ more) := by
  refine steps_comment (fun c member => ?_) fun c head => ?_
  · have kept := List.mem_takeWhile_imp member
    exact of_decide_eq_true kept
  · have stopped := List.head?_dropWhile_not (fun c => decide (c ≠ '\n')) rest
    cases left : rest.dropWhile (fun c => decide (c ≠ '\n')) with
    | nil =>
        -- The comment takes the whole line, and so this is the last line.
        have inside := List.dropWhile_eq_nil_iff.mp left
        have unended : ('#' :: rest).getLast? ≠ some '\n' := fun last => by
          rcases List.mem_cons.mp (List.mem_of_getLast? last) with same | member
          · cases same
          · exact of_decide_eq_true (inside _ member) rfl
        rw [left, isLine.more_eq_nil (List.cons_ne_nil _ _) unended] at head
        cases head
    | cons d tail =>
        rw [left] at head stopped
        cases head
        exact not_not.mp (of_decide_eq_false stopped)

/-- A string that does not stand behind a number. -/
theorem steps_string {text : List Char}
    (seen : outline (text ++ following) = outlined text ++ outline following) :
    (Part.lexeme .string text).Steps following := by
  intro inWord apart
  refine ⟨false, fun goesOn => absurd goesOn Bool.false_ne_true, ?_⟩
  cases inWord with
  | false => exact seen
  | true => cases apart rfl

/-- A string in single quotes that escapes its line ends. -/
theorem steps_short {mark inner rest more : List Char} {quote : Char}
    (opening : IsOpening mark quote) (sealed : isWhole quote inner = true)
    (closed : inner = [] → rest.head? ≠ some quote)
    (isLine : IsLine (mark ++ quote :: (inner ++ quote :: rest)) more)
    (escaped : (Part.lexeme .string (mark ++ quote :: (inner ++ [quote]))).IsEscaped) :
    (Part.lexeme .string (mark ++ quote :: (inner ++ [quote]))).Steps (rest ++ more) := by
  rw [Part.IsEscaped, (opening.bodyOf_short sealed).2] at escaped
  have single : inner = [] → (rest ++ more).head? ≠ some quote := by
    intro empty
    cases rest with
    | nil =>
        have unended : (mark ++ quote :: (inner ++ [quote])).getLast? ≠ some '\n' := by
          rw [← List.cons_append, ← List.append_assoc, List.getLast?_concat]
          exact fun same => opening.quote_spec.2.2.2.2 (Option.some.inj same)
        rw [isLine.more_eq_nil (by simp) unended]
        simp
    | cons c rest => exact closed empty
  have seen := opening.outline_short sealed (escaped (opening.bodyOf_short sealed).1) single
  refine steps_string ?_
  rw [← seen]
  simp

/-- A string in triple quotes. -/
theorem steps_long {mark inner rest more : List Char} {quote : Char}
    (opening : IsOpening mark quote)
    (through : Construct.longBody quote (inner ++ quote :: quote :: quote :: (rest ++ more)) =
      (inner, rest ++ more)) :
    (Part.lexeme .string
      (mark ++ quote :: quote :: quote :: (inner ++ [quote, quote, quote]))).Steps
        (rest ++ more) := by
  refine steps_string ?_
  rw [← opening.outline_long through]
  simp

/-- A name that is no mark of a string. -/
theorem steps_name {word : List Char} (filled : word ≠ [])
    (starts : ∀ c ∈ word.head?, isIdentifierStart c = true)
    (within : ∀ c ∈ word, isWordCharacter c = true) (ascii : ∀ c ∈ word, isAscii c = true)
    (ends : ∀ c ∈ following.head?, isWordCharacter c = false)
    (unmarked : ∀ quote more, following = quote :: more → ¬ IsOpening word quote) :
    (Part.lexeme .name word).Steps following := by
  intro inWord _
  refine ⟨false, fun goesOn => absurd goesOn Bool.false_ne_true, ?_⟩
  have stop : outlineWord following = outline following := by
    cases following with
    | nil => rfl
    | cons c rest => exact outlineWord_of_not rest (ends c rfl)
  cases inWord with
  | true => exact (outlineWord_append within following).trans (congrArg _ stop)
  | false =>
      cases word with
      | nil => exact absurd rfl filled
      | cons c tail =>
          have begins : startsWord c = true :=
            of_ascii (fun c => isIdentifierStart c = true → startsWord c = true) (by decide)
              (ascii c List.mem_cons_self) (starts c rfl)
          have withinTail : ∀ d ∈ tail, isWordCharacter d = true := fun d member =>
            within d (List.mem_cons_of_mem c member)
          have tailKept := (outlineWord_append withinTail following).trans (congrArg _ stop)
          have kept := outline_of_word (tail ++ following) begins
            fun quote more behind isQuote => ?_
          · exact kept.trans (congrArg _ tailKept)
          · rw [List.takeWhile_append_of_pos withinTail]
            rw [List.dropWhile_append_of_pos withinTail] at behind
            have same : following.dropWhile isWordCharacter = following := by
              cases following with
              | nil => rfl
              | cons d rest => exact List.dropWhile_cons_of_neg (by simp [ends d rfl])
            have untouched : following.takeWhile isWordCharacter = [] := by
              cases following with
              | nil => rfl
              | cons d rest => exact List.takeWhile_cons_of_neg (by simp [ends d rfl])
            rw [untouched, List.append_nil, ← Bool.not_eq_true]
            exact fun isMark => unmarked quote more (same ▸ behind)
              (isOpening_of_literalMark isQuote ascii isMark)

/-- A name on a line, which ends before the line does or with the text. -/
theorem steps_nameHere {word rest more : List Char} (filled : word ≠ [])
    (starts : ∀ c ∈ word.head?, isIdentifierStart c = true)
    (within : ∀ c ∈ word, isWordCharacter c = true) (ascii : ∀ c ∈ word, isAscii c = true)
    (ends : ∀ c ∈ rest.head?, isWordCharacter c = false)
    (unmarked : ∀ quote others, rest = quote :: others → ¬ IsOpening word quote)
    (isLine : IsLine (word ++ rest) more) : (Part.lexeme .name word).Steps (rest ++ more) := by
  cases rest with
  | nil =>
      have unended : (word ++ []).getLast? ≠ some '\n' := fun last => by
        have member := within '\n' (by simpa using List.mem_of_getLast? last)
        revert member
        decide
      rw [isLine.more_eq_nil (by simpa using filled) unended]
      exact steps_name filled starts within ascii ends fun _ _ none => by cases none
  | cons c rest =>
      refine steps_name filled starts within ascii ends fun quote others following => ?_
      cases following
      exact unmarked c rest rfl

end Steps

/-! ### Accounts -/

/-- What parts say about a text: they are the text up to what is left of it, and the outline of the
text is what stands for them and the outline of what is left. -/
structure Accounts (text more : List Char) (parts : List Part) (left : List Char) : Prop where
  text_eq : text = parts.flatMap Part.text ++ left
  outline_eq : ∀ inWord touched, (inWord = true → touched = true) → Apart touched parts →
    ∃ onward, (onward = true → touchedBy touched parts = true) ∧
      scan inWord (text ++ more) = parts.flatMap Part.shown ++ scan onward (left ++ more)

namespace Accounts

variable {text rest more left : List Char} {parts : List Part}

theorem nil (left more : List Char) : Accounts left more [] left :=
  ⟨rfl, fun inWord _ within _ => ⟨inWord, within, rfl⟩⟩

theorem cons {part : Part} (step : part.Steps (rest ++ more))
    (others : Accounts rest more parts left) :
    Accounts (part.text ++ rest) more (part :: parts) left := by
  refine ⟨by simp [others.text_eq], fun inWord touched within apart => ?_⟩
  rcases apart with ⟨apart, later⟩
  rcases step inWord fun inside => apart (within inside) with ⟨between, number, kept⟩
  have onward : between = true → part.after touched = true := by
    intro inside
    have former := number inside
    rw [Part.after] at former ⊢
    split
    · next empty =>
        rw [if_pos empty] at former
        exact within former
    · next filled => rwa [if_neg filled] at former
  rcases others.outline_eq between (part.after touched) onward later with ⟨last, ended, seen⟩
  refine ⟨last, ended, ?_⟩
  rw [List.append_assoc, kept, seen]
  simp

theorem gap {gap : List Char} (inert : ∀ c ∈ gap, isInert c = true)
    (others : Accounts text more parts left) :
    Accounts (gap ++ text) more (gapPart gap ++ parts) left := by
  cases gap with
  | nil => exact others
  | cons c gap =>
      have step : (Part.gap (c :: gap)).Steps (text ++ more) := Part.steps_of_inert rfl inert
      exact cons step others

/-- Marks without text say nothing. -/
theorem marks (units : List Lexeme) (others : Accounts text more parts left) :
    Accounts text more (units.map (.mark · []) ++ parts) left := by
  induction units with
  | nil => exact others
  | cons unit units ih =>
      have step : (Part.mark unit []).Steps (text ++ more) :=
        Part.steps_of_inert rfl (List.forall_mem_nil _)
      exact cons step ih

/-- The account of a text is continued with what is left of it. -/
theorem append {others : List Part} {last : List Char}
    (before : Accounts text (rest ++ more) parts left)
    (after : Accounts (left ++ rest) more others last) :
    Accounts (text ++ rest) more (parts ++ others) last := by
  refine ⟨?_, fun inWord touched within apart => ?_⟩
  · rw [before.text_eq, List.append_assoc, after.text_eq]
    simp
  · rcases apart_append.mp apart with ⟨early, late⟩
    rcases before.outline_eq inWord touched within early with ⟨between, inside, first⟩
    rcases after.outline_eq between (touchedBy touched parts) inside late with
      ⟨onward, ended, second⟩
    refine ⟨onward, fun goesOn => ?_, ?_⟩
    · rw [touchedBy, List.foldl_append]
      exact ended goesOn
    · rw [List.append_assoc] at second ⊢
      rw [first, second]
      simp

end Accounts

/-! ### The rest of a line -/

/-- What has been seen of a string that goes on in the next line. -/
def State.pending (state : State) : List Char :=
  match state.mode with
  | .inString _ _ seen => seen
  | _ => []

/-- Between two lines nothing has been seen but the beginning of a string. -/
def State.IsOpened (state : State) : Prop :=
  ∀ quote triple seen, state.mode = .inString quote triple seen → Opened quote triple seen

/-- Within a line no string goes on. -/
def State.IsCalm (state : State) : Prop :=
  ∀ quote triple seen, state.mode ≠ .inString quote triple seen

theorem State.isCalm_of_statement {state : State} (mode : state.mode = .statement) :
    state.IsCalm := by
  intro quote triple seen other
  rw [mode] at other
  cases other

theorem State.isCalm_of_continued {state : State} (mode : state.mode = .continued) :
    state.IsCalm := by
  intro quote triple seen other
  rw [mode] at other
  cases other

theorem State.IsCalm.pending {state : State} (calm : state.IsCalm) : state.pending = [] := by
  rw [State.pending]
  cases mode : state.mode with
  | inString quote triple seen => exact absurd mode (calm quote triple seen)
  | _ => rfl

theorem State.IsCalm.isOpened {state : State} (calm : state.IsCalm) : state.IsOpened :=
  fun quote triple seen mode => absurd mode (calm quote triple seen)

theorem isInert_of_isSpace {c : Char} (space : isSpace c = true) : isInert c = true := by
  simp only [isSpace, Bool.or_eq_true, beq_iff_eq] at space
  rcases space with (rfl | rfl) | rfl <;> decide

theorem consumed_append (piece rest : List Char) : consumed (piece ++ rest) rest = piece := by
  simp [consumed]

/-- What parts and the state behind them say about a line: an account of it up to the beginning of a
string that goes on. -/
structure Tells (line more : List Char) (parts : List Part) (next : State) : Prop where
  account : Accounts line more parts next.pending
  opened : IsEnded line → next.IsOpened

namespace Tells

variable {line more : List Char} {parts : List Part} {next : State}

/-- A line that has been read to its end. -/
theorem nil (calm : next.IsCalm) : Tells [] more [] next where
  account := calm.pending ▸ .nil [] more
  opened _ := calm.isOpened

theorem cons {part : Part} (step : part.Steps (line ++ more))
    (others : Tells line more parts next) :
    Tells (part.text ++ line) more (part :: parts) next :=
  ⟨.cons step others.account, fun ended => others.opened ended.of_append⟩

theorem gap {gap : List Char} (inert : ∀ c ∈ gap, isInert c = true)
    (others : Tells line more parts next) : Tells (gap ++ line) more (gapPart gap ++ parts) next :=
  ⟨.gap inert others.account, fun ended => others.opened ended.of_append⟩

theorem marks (units : List Lexeme) (others : Tells line more parts next) :
    Tells line more (units.map (.mark · []) ++ parts) next :=
  ⟨others.account.marks units, others.opened⟩

end Tells

/-- Where nothing is stray a quote starts something. -/
theorem pieceHere_ne_nothing {state : State} {fuel : Nat} {quote : Char} {rest : List Char}
    (isQuote : Lexeme.isQuote quote = true) (fuelled : 0 < fuel)
    (plain : ∀ part ∈ (partsRest state fuel (quote :: rest)).1, part.IsPlain) :
    pieceHere (quote :: rest) ≠ .nothing := by
  intro nothing
  have noSpace : isSpace quote = false := by
    simp only [Lexeme.isQuote, Bool.or_eq_true, beq_iff_eq] at isQuote
    rcases isQuote with rfl | rfl <;> decide
  have here : skipGap (quote :: rest) = quote :: rest :=
    List.dropWhile_cons_of_neg (by simpa [isSpace] using noSpace)
  obtain ⟨left, rfl⟩ : ∃ left, fuel = left + 1 := Nat.exists_eq_succ_of_ne_zero fuelled.ne'
  rw [partsRest.eq_def] at plain
  simp only [here, nothing] at plain
  exact (plain (.lexeme .stray [quote]) List.mem_cons_self).1

/-- The parts of the rest of a line tell what it says, if they are plain. -/
theorem tells_partsRest {fuel : Nat} {state : State} {text more : List Char}
    (calm : state.IsCalm) (enough : text.length < fuel) (isLine : IsLine text more)
    (plain : ∀ part ∈ (partsRest state fuel text).1, part.IsPlain) :
    Tells text more (partsRest state fuel text).1 (partsRest state fuel text).2 := by
  induction fuel generalizing state text with
  | zero => exact absurd enough (Nat.not_lt_zero _)
  | succ fuel ih =>
      have whole : text.takeWhile isSpace ++ skipGap text = text :=
        List.takeWhile_append_dropWhile
      have isLineHere : IsLine (skipGap text) more := by
        rw [← whole] at isLine
        exact isLine.of_append
      have reads := reads_pieceHere isLineHere.noReturn
      have inertGap : ∀ c ∈ text.takeWhile isSpace, isInert c = true := fun c member =>
        isInert_of_isSpace (List.mem_takeWhile_imp member)
      rw [partsRest.eq_def] at plain ⊢
      simp only [] at plain ⊢
      generalize text.takeWhile isSpace = gap at whole inertGap plain ⊢
      generalize skipGap text = here at whole isLineHere reads plain ⊢
      generalize pieceHere here = piece at reads plain ⊢
      -- What stands behind a part is read like the line before it.
      have onward {next : State} {rest : List Char} (part : Part) (calm : next.IsCalm)
          (split : here = part.text ++ rest) (filled : part.text ≠ [])
          (step : part.Steps (rest ++ more))
          (all : ∀ other ∈ gapPart gap ++ part :: (partsRest next fuel rest).1, other.IsPlain) :
          Tells text more (gapPart gap ++ part :: (partsRest next fuel rest).1)
            (partsRest next fuel rest).2 := by
        have shorter : rest.length < fuel := by
          have positive := List.length_pos_iff.mpr filled
          rw [← whole, split, List.length_append, List.length_append] at enough
          omega
        rw [split] at isLineHere
        rw [← whole, split]
        exact .gap inertGap (.cons step (ih calm shorter isLineHere.of_append fun other member =>
          all other (List.mem_append_right _ (List.mem_cons_of_mem _ member))))
      have plainHere (part : Part) (others : List Part)
          (all : ∀ other ∈ gapPart gap ++ part :: others, other.IsPlain) : part.IsPlain :=
        all part (List.mem_append_right _ List.mem_cons_self)
      cases reads with
      | done =>
          rw [← whole]
          simpa using Tells.gap inertGap (.nil calm)
      | backslash rest =>
          have same : consumed ('\\' :: '\n' :: rest) rest = ['\\', '\n'] :=
            consumed_append ['\\', '\n'] rest
          simp only [same] at plain ⊢
          exact onward (.gap ['\\', '\n']) (State.isCalm_of_continued rfl) rfl
            (List.cons_ne_nil _ _) (Part.steps_of_inert rfl (forall_mem_of_all (by decide))) plain
      | comment rest =>
          have cut : '#' :: rest =
              ('#' :: rest.takeWhile (fun c => decide (c ≠ '\n'))) ++
                rest.dropWhile (fun c => decide (c ≠ '\n')) := by
            rw [List.cons_append, List.takeWhile_append_dropWhile]
          have same : consumed ('#' :: rest) (rest.dropWhile fun c => decide (c ≠ '\n')) =
              '#' :: rest.takeWhile (fun c => decide (c ≠ '\n')) := by
            rw [cut, consumed_append]
          simp only [same] at plain ⊢
          exact onward (.comment _) calm cut (List.cons_ne_nil _ _) (steps_commentHere isLineHere)
            plain
      | lineEnd rest =>
          have same : consumed ('\n' :: rest) rest = ['\n'] := consumed_append ['\n'] rest
          simp only [same] at plain ⊢
          split at plain
          · next inside =>
              rw [if_pos inside]
              exact onward (.gap ['\n']) calm rfl (List.cons_ne_nil _ _)
                (Part.steps_of_inert rfl (forall_mem_of_all (by decide))) plain
          · next outside =>
              rw [if_neg outside]
              exact onward (.mark newlineMark ['\n']) calm rfl (List.cons_ne_nil _ _)
                (Part.steps_of_inert rfl (forall_mem_of_all (by decide))) plain
      | short opening sealed closed =>
          exact onward (.lexeme .string _) calm (by simp [Part.text]) (by simp [Part.text])
            (steps_short opening sealed closed isLineHere (plainHere _ _ plain).2) plain
      | long opening through =>
          exact onward (.lexeme .string _) calm (by simp [Part.text]) (by simp [Part.text])
            (steps_long opening (through more)) plain
      | unfinished opened =>
          rw [← whole]
          refine ⟨?_, fun ended other triple seen mode => ?_⟩
          · simpa [State.pending] using Accounts.gap inertGap (.nil here more)
          · cases mode
            exact opened isLineHere.single ended.of_append
      | number rest filled passes =>
          exact onward (.lexeme .number _) calm rfl filled (steps_number filled passes) plain
      | operator rest filled inert =>
          exact onward (.lexeme .operator _) calm rfl filled (Part.steps_of_inert rfl inert) plain
      | @name word rest filled starts within ends unmarked =>
          refine onward (.lexeme .name word) calm rfl filled
            (steps_nameHere filled starts within (plainHere _ _ plain).1 ends ?_ isLineHere) plain
          rintro quote others rfl opening
          have fuelled : 0 < fuel := by
            rw [← whole] at enough
            simp only [List.length_append, List.length_cons] at enough
            omega
          exact pieceHere_ne_nothing opening.isQuote fuelled
            (fun part member =>
              plain part (List.mem_append_right _ (List.mem_cons_of_mem _ member)))
            (unmarked quote others rfl opening)
      | foreign foreign =>
          rcases foreign with ⟨c, member, other⟩
          have ascii := (plainHere _ _ plain).1 c member
          rw [other] at ascii
          cases ascii
      | nothing =>
          cases text with
          | nil => exact .nil calm
          | cons c rest => exact (plain (.lexeme .stray [c]) List.mem_cons_self).1.elim

end Lexeme
end Snippet
end AnswerKey
