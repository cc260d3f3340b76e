import AnswerKey.Proofs.Construct.Scan
import AnswerKey.Snippet.Lexeme

namespace AnswerKey
namespace Snippet
namespace Lexeme

/-!
Strings in an outline.

The reader of lexemes takes a string line by line, and keeps what it has seen of it until the
closing quote comes; an outline takes it in one go, and gives up at a line end that no backslash
escapes unless the string stands in triple quotes.  Where it does not give up, both see the same
body (`outline_short`, `outline_long`).
-/

open Text Construct

/-! ### What a string is made of -/

/-- The letters before the first quote of a string. -/
def markOf (text : List Char) : List Char :=
  text.takeWhile (!Lexeme.isQuote ·)

/-- A string without its mark. -/
def quotedOf (text : List Char) : List Char :=
  text.dropWhile (!Lexeme.isQuote ·)

/-- Whether a string stands in triple quotes. -/
def isTriple (text : List Char) : Bool :=
  match quotedOf text with
  | first :: second :: third :: _ => first == second && second == third
  | _ => false

/-- What stands between the quotes of a string. -/
def bodyOf (text : List Char) : List Char :=
  let width := if isTriple text then 3 else 1
  ((quotedOf text).drop width).take ((quotedOf text).length - 2 * width)

/-- Whether a string is a template, which may hold replacement fields. -/
def isTemplate (text : List Char) : Bool :=
  (markOf text).any fun c => c == 'f' || c == 'F'

/-- What stands for a string in an outline. -/
def outlined (text : List Char) : List Char :=
  if isTemplate text && hasField (bodyOf text) then fieldPlaceholder else placeholder

/-- Whether a backslash stands before every line end.  A backslash takes the character behind it
along. -/
def escapesLineEnds : List Char → Bool
  | [] => true
  | '\\' :: _ :: rest => escapesLineEnds rest
  | c :: rest => c != '\n' && escapesLineEnds rest

/-- Whether a text holds no quote but behind a backslash, and no half of an escape. -/
def isWhole (quote : Char) : List Char → Bool
  | [] => true
  | '\\' :: _ :: rest => isWhole quote rest
  | c :: rest => c != quote && c != '\\' && isWhole quote rest

/-! ### Openings -/

/-- The opening of a string: a mark and a quote. -/
structure IsOpening (mark : List Char) (quote : Char) : Prop where
  isQuote : Lexeme.isQuote quote = true
  ascii : ∀ c ∈ mark, isAscii c = true
  isMark : isStringMark mark = true

theorem opening?_spec {text mark rest : List Char} {quote : Char}
    (opened : opening? text = some (mark, quote, rest)) :
    text = mark ++ quote :: rest ∧ IsOpening mark quote := by
  unfold opening? at opened
  split at opened
  · split at opened
    · next isQuote =>
        cases opened
        exact ⟨rfl, isQuote, List.forall_mem_nil _, rfl⟩
    · split at opened
      · split at opened
        · next isQuote =>
            split at opened
            · next isMark =>
                cases opened
                rw [Bool.and_eq_true] at isMark
                exact ⟨rfl, isQuote, by simpa using isMark.1, isMark.2⟩
            · cases opened
        · split at opened
          · split at opened
            · next isMark =>
                cases opened
                rw [Bool.and_eq_true, Bool.and_eq_true, Bool.and_eq_true] at isMark
                exact ⟨rfl, isMark.1.1.1, by simpa using ⟨isMark.1.1.2, isMark.1.2⟩, isMark.2⟩
            · cases opened
          · cases opened
      · cases opened
  · cases opened

/-- A word that an outline takes for a mark is one. -/
theorem isOpening_of_literalMark {word : List Char} {quote : Char}
    (isQuote : Construct.isQuote quote = true) (ascii : ∀ c ∈ word, isAscii c = true)
    (isMark : literalMarks.contains (lower (.ofList word)) = true) : IsOpening word quote := by
  have same : ∀ mark ∈ literalMarks, mark ∈ stringMarks := by decide
  rw [lower_of_ascii ascii, List.contains_iff_mem] at isMark
  refine ⟨isQuote, ascii, ?_⟩
  rw [isStringMark, Bool.or_eq_true, List.contains_iff_mem]
  exact .inr (same _ isMark)

namespace IsOpening

variable {mark : List Char} {quote : Char} (opening : IsOpening mark quote)

include opening

theorem letters {c : Char} (member : c ∈ mark) : lowerChar c ∈ markLetters := by
  have all : ∀ mark ∈ stringMarks, mark.toList.all (fun c => decide (c ∈ markLetters)) = true := by
    decide
  have isMark := opening.isMark
  rw [isStringMark, Bool.or_eq_true, List.isEmpty_iff, List.contains_iff_mem] at isMark
  rcases isMark with rfl | isMark
  · cases member
  · refine forall_mem_of_all (all _ isMark) _ ?_
    rw [String.toList_ofList]
    exact List.mem_map_of_mem member

/-- A mark is a word and holds no quote. -/
theorem mark_spec {c : Char} (member : c ∈ mark) :
    startsWord c = true ∧ isWordCharacter c = true ∧ Lexeme.isQuote c = false :=
  of_ascii (fun c => lowerChar c ∈ markLetters → startsWord c = true ∧
    isWordCharacter c = true ∧ Lexeme.isQuote c = false) (by decide) (opening.ascii c member)
    (opening.letters member)

theorem quote_spec : isWordCharacter quote = false ∧ startsWord quote = false ∧ quote ≠ '#' ∧
    quote ≠ '\\' ∧ quote ≠ '\n' := by
  have isQuote := opening.isQuote
  rw [Lexeme.isQuote, Bool.or_eq_true, beq_iff_eq, beq_iff_eq] at isQuote
  rcases isQuote with rfl | rfl <;> decide

theorem isLiteralMark (filled : mark ≠ []) :
    literalMarks.contains (lower (.ofList mark)) = true := by
  have same : ∀ mark ∈ stringMarks, mark ∈ literalMarks := by decide
  have isMark := opening.isMark
  rw [isStringMark, Bool.or_eq_true, List.isEmpty_iff, List.contains_iff_mem] at isMark
  rw [lower_of_ascii opening.ascii, List.contains_iff_mem]
  exact same _ (isMark.resolve_left filled)

/-- An outline takes a string at its opening. -/
theorem outline_eq (rest : List Char) : outline (mark ++ quote :: rest) =
    placeholderOf (lower (.ofList mark)) (Construct.literalBody quote rest).1 ++
      outline (Construct.literalBody quote rest).2 := by
  rcases opening.quote_spec with ⟨outside, noWord, noComment, -, -⟩
  have isQuote : Construct.isQuote quote = true := opening.isQuote
  cases mark with
  | nil =>
      rw [List.nil_append, outline_cons, nextStretch, if_neg noComment, noWord, isQuote]
      rfl
  | cons c tail =>
      have starts := (opening.mark_spec List.mem_cons_self).1
      have noHash : c ≠ '#' := by
        rintro rfl
        revert starts
        decide
      have within : ∀ d ∈ tail, isWordCharacter d = true := fun d member =>
        (opening.mark_spec (List.mem_cons_of_mem c member)).2.1
      have word : (tail ++ quote :: rest).takeWhile isWordCharacter = tail := by
        rw [List.takeWhile_append_of_pos within]
        simp [outside]
      have behind : (tail ++ quote :: rest).dropWhile isWordCharacter = quote :: rest := by
        rw [List.dropWhile_append_of_pos within]
        simp [outside]
      rw [List.cons_append, outline_cons, nextStretch, if_neg noHash, if_pos starts]
      simp only [word, behind, isQuote, opening.isLiteralMark (List.cons_ne_nil c tail),
        Bool.and_true, if_true]

/-- The placeholder of a string does not depend on whether its mark is read as a word. -/
theorem placeholderOf_mark (body : List Char) : placeholderOf (lower (.ofList mark)) body =
    if mark.any (fun c => c == 'f' || c == 'F') && hasField body then fieldPlaceholder
    else placeholder := by
  have formatted : (lower (.ofList mark)).toList.contains 'f' =
      mark.any (fun c => c == 'f' || c == 'F') := by
    rw [lower_of_ascii opening.ascii, String.toList_ofList]
    have each : ∀ c ∈ mark, (lowerChar c == 'f') = (c == 'f' || c == 'F') := fun c member =>
      of_ascii (fun c => (lowerChar c == 'f') = (c == 'f' || c == 'F')) (by decide)
        (opening.ascii c member)
    rw [Bool.eq_iff_iff, List.contains_iff_mem, List.mem_map, List.any_eq_true]
    refine exists_congr fun c => and_congr_right fun member => ?_
    rw [← each c member, beq_iff_eq]
  rw [placeholderOf, formatted]

end IsOpening

/-! ### Lines -/

section Line

variable {c : Char} {first text : List Char}

/-- What has no line end but as its last character. -/
def IsSingle (text : List Char) : Prop :=
  '\n' ∉ text.dropLast

/-- What ends with a line end, or is empty. -/
def IsEnded (text : List Char) : Prop :=
  text = [] ∨ text.getLast? = some '\n'

theorem IsSingle.tail (single : IsSingle (c :: text)) : IsSingle text := by
  cases text with
  | nil => exact single
  | cons d text => exact fun member => single (List.mem_cons_of_mem c member)

theorem IsEnded.tail (ended : IsEnded (c :: text)) : IsEnded text := by
  cases text with
  | nil => exact .inl rfl
  | cons d text =>
      rcases ended with none | last
      · cases none
      · exact .inr last

theorem IsSingle.of_append (single : IsSingle (first ++ text)) : IsSingle text := by
  induction first with
  | nil => exact single
  | cons c first ih => exact ih single.tail

theorem IsEnded.of_append (ended : IsEnded (first ++ text)) : IsEnded text := by
  induction first with
  | nil => exact ended
  | cons c first ih => exact ih ended.tail

theorem IsEnded.append (ended : IsEnded text) (filled : text ≠ []) : IsEnded (first ++ text) := by
  refine .inr ?_
  rw [List.getLast?_append, ended.resolve_left filled]
  rfl

end Line

/-! ### Strings in single quotes -/

section Short

variable {quote : Char}

theorem isWhole_cons {c : Char} (rest : List Char) (noQuote : c ≠ quote) (noEscape : c ≠ '\\') :
    isWhole quote (c :: rest) = isWhole quote rest := by
  simp [isWhole, noQuote, noEscape]

theorem isWhole_append {first second : List Char} (before : isWhole quote first = true)
    (after : isWhole quote second = true) : isWhole quote (first ++ second) = true := by
  fun_induction isWhole quote first <;> simp_all [isWhole]

/-- The first character is no quote. -/
theorem head?_of_isWhole {text : List Char} (noEscape : quote ≠ '\\')
    (whole : isWhole quote text = true) : text.head? ≠ some quote := by
  rintro same
  obtain ⟨rest, rfl⟩ : ∃ rest, text = quote :: rest := List.head?_eq_some_iff.mp same
  rw [isWhole] at whole
  · simp at whole
  · exact fun _ _ same _ => noEscape same

/-- An outline takes the body of a string in single quotes as a whole. -/
theorem shortBody_of_isWhole {body rest : List Char} (noEscape : quote ≠ '\\')
    (whole : isWhole quote body = true) (escaped : escapesLineEnds body = true) :
    Construct.shortBody quote (body ++ quote :: rest) = (body, rest) := by
  fun_induction isWhole quote body <;> simp_all [Construct.shortBody, escapesLineEnds]

/-- What is found before a closing quote is whole. -/
theorem shortBody_closed {seen text body rest : List Char}
    (closed : Lexeme.shortBody quote seen text = .closed body rest) :
    ∃ inner, body = seen.reverse ++ (inner ++ [quote]) ∧ text = inner ++ quote :: rest ∧
      isWhole quote inner = true := by
  fun_induction Lexeme.shortBody quote seen text with
  | case4 seen c text noBreak noReturn ih =>
      rcases ih closed with ⟨inner, rfl, rfl, whole⟩
      exact ⟨'\\' :: c :: inner, by simp, by simp, whole⟩
  | case5 seen text =>
      cases closed
      exact ⟨[], by simp, rfl, rfl⟩
  | case7 seen c text _ _ _ noQuote plain ih =>
      rcases ih closed with ⟨inner, rfl, rfl, whole⟩
      rw [not_or] at plain
      exact ⟨c :: inner, by simp, by simp, isWhole_cons inner noQuote plain.2 ▸ whole⟩
  | _ => cases closed

/-- A string in single quotes that a backslash carries on is whole so far. -/
theorem isWhole_of_carried {seen text : List Char} (single : IsSingle text)
    (noReturn : '\r' ∉ text) (carried : Lexeme.shortBody quote seen text = .carried) :
    isWhole quote text = true := by
  fun_induction Lexeme.shortBody quote seen text with
  | case2 seen text =>
      cases text with
      | nil => rfl
      | cons c text => simp [IsSingle] at single
  | case3 seen text => simp at noReturn
  | case4 seen c text noBreak _ ih =>
      exact ih single.tail.tail
        (fun member => noReturn (List.mem_cons_of_mem _ (List.mem_cons_of_mem c member))) carried
  | case7 seen c text _ _ _ noQuote plain ih =>
      rw [not_or] at plain
      rw [isWhole_cons text noQuote plain.2]
      exact ih single.tail
        (fun member => noReturn (List.mem_cons_of_mem c member)) carried
  | _ => cases carried

/-- The rest of a string in single quotes on a later line. -/
theorem carriedBody_some {seen text body rest : List Char}
    (closed : carriedBody quote seen text = some (body, rest)) :
    ∃ inner, body = seen.reverse ++ (inner ++ [quote]) ∧ text = inner ++ quote :: rest ∧
      isWhole quote inner = true := by
  fun_induction carriedBody quote seen text with
  | case3 seen c text noBreak ih =>
      rcases ih closed with ⟨inner, rfl, rfl, whole⟩
      exact ⟨'\\' :: c :: inner, by simp, by simp, whole⟩
  | case4 seen text =>
      cases closed
      exact ⟨[], by simp, rfl, rfl⟩
  | case6 seen c text _ _ noQuote noEscape ih =>
      rcases ih closed with ⟨inner, rfl, rfl, whole⟩
      exact ⟨c :: inner, by simp, by simp, isWhole_cons inner noQuote noEscape ▸ whole⟩
  | _ => cases closed

/-- A later line without the closing quote is whole. -/
theorem isWhole_of_carriedBody {seen text : List Char} (single : IsSingle text)
    (ended : IsEnded text)
    (opened : carriedBody quote seen text = none) : isWhole quote text = true := by
  fun_induction carriedBody quote seen text with
  | case1 seen => rfl
  | case2 seen text =>
      cases text with
      | nil => rfl
      | cons c text => simp [IsSingle] at single
  | case3 seen c text noBreak ih =>
      exact ih single.tail.tail ended.tail.tail opened
  | case4 => cases opened
  | case5 seen text _ noPair =>
      cases text with
      | nil => rcases ended with none | last <;> contradiction
      | cons c text => exact (noPair c text rfl rfl).elim
  | case6 seen c text _ _ noQuote noEscape ih =>
      rw [isWhole_cons text noQuote noEscape]
      exact ih single.tail ended.tail opened

end Short

/-! ### Strings in triple quotes -/

section Long

variable {quote : Char}

theorem longBody_escape (c : Char) (rest : List Char) :
    Construct.longBody quote ('\\' :: c :: rest) =
      ('\\' :: c :: (Construct.longBody quote rest).1, (Construct.longBody quote rest).2) := rfl

theorem longBody_cons {c : Char} (rest : List Char) (noEscape : c ≠ '\\') :
    Construct.longBody quote (c :: rest) =
      if c = quote ∧ rest.take 2 = [quote, quote] then ([], rest.drop 2)
      else (c :: (Construct.longBody quote rest).1, (Construct.longBody quote rest).2) := by
  rw [Construct.longBody.eq_def]
  split
  · next none => cases none
  · next same => exact absurd (List.cons.inj same).1 noEscape
  · next same =>
      cases same
      rfl

/-- The rest of a string in triple quotes. -/
theorem tripleBody_some {seen text body rest : List Char} (noEscape : quote ≠ '\\')
    (closed : tripleBody quote seen text = some (body, rest)) :
    ∃ inner, body = seen.reverse ++ (inner ++ [quote, quote, quote]) ∧
      text = inner ++ quote :: quote :: quote :: rest ∧
      ∀ more, Construct.longBody quote (text ++ more) = (inner, rest ++ more) := by
  fun_induction tripleBody quote seen text with
  | case3 seen c text noBreak ih =>
      rcases ih closed with ⟨inner, rfl, rfl, through⟩
      refine ⟨'\\' :: c :: inner, by simp, by simp, fun more => ?_⟩
      rw [List.cons_append, List.cons_append, longBody_escape, through]
  | case4 seen a b c text _ _ same =>
      rcases same with ⟨rfl, rfl, rfl⟩
      cases closed
      refine ⟨[], by simp, rfl, fun more => ?_⟩
      simp [longBody_cons _ noEscape]
  | case5 seen a b c text _ noEscape' other ih =>
      rcases ih closed with ⟨inner, rfl, whole, through⟩
      refine ⟨a :: inner, by simp, by simp [whole], fun more => ?_⟩
      have unclosed : ¬ (a = quote ∧ (b :: c :: text ++ more).take 2 = [quote, quote]) := by
        simpa using other
      rw [List.cons_append, longBody_cons _ noEscape', if_neg unclosed, through]
  | _ => cases closed

/-- A line without the closing quotes is taken as a whole. -/
theorem longBody_of_tripleBody {seen text : List Char} (noBreak : quote ≠ '\n')
    (single : IsSingle text) (ended : IsEnded text) (opened : tripleBody quote seen text = none)
    (more : List Char) : Construct.longBody quote (text ++ more) =
      (text ++ (Construct.longBody quote more).1, (Construct.longBody quote more).2) := by
  fun_induction tripleBody quote seen text with
  | case1 seen => rfl
  | case2 seen text =>
      cases text with
      | nil => rfl
      | cons c text => simp [IsSingle] at single
  | case3 seen c text _ ih =>
      rw [List.cons_append, List.cons_append, longBody_escape,
        ih single.tail.tail ended.tail.tail opened]
      rfl
  | case4 => cases opened
  | case5 seen a b c text _ noEscape' other ih =>
      have unclosed : ¬ (a = quote ∧ (b :: c :: text ++ more).take 2 = [quote, quote]) := by
        simpa using other
      rw [List.cons_append, longBody_cons _ noEscape', if_neg unclosed,
        ih single.tail ended.tail opened]
      rfl
  | case6 text seen filled _ noPair few =>
      -- Fewer than three characters are left, and the last of them is the line end.
      have last : Construct.longBody quote ('\n' :: more) =
          ('\n' :: (Construct.longBody quote more).1, (Construct.longBody quote more).2) := by
        rw [longBody_cons _ (by decide), if_neg fun same => noBreak same.1.symm]
      rcases ended with none | ended
      · exact absurd none filled
      · rcases text with _ | ⟨a, _ | ⟨b, _ | ⟨c, text⟩⟩⟩
        · exact absurd rfl filled
        · obtain rfl : a = '\n' := Option.some.inj ended
          exact last
        · obtain rfl : b = '\n' := Option.some.inj ended
          have noEscape' : a ≠ '\\' := fun same => noPair _ _ (by rw [same])
          have unclosed : ¬ (a = quote ∧ ('\n' :: more).take 2 = [quote, quote]) :=
            fun same => noBreak (List.cons.inj same.2).1.symm
          rw [List.cons_append, List.cons_append, List.nil_append, longBody_cons _ noEscape',
            if_neg unclosed, last]
          rfl
        · exact (few a b c text rfl).elim

end Long

/-! ### Whole strings -/

namespace IsOpening

variable {mark : List Char} {quote : Char} (opening : IsOpening mark quote)

include opening

theorem markOf_append (rest : List Char) : markOf (mark ++ quote :: rest) = mark := by
  have noQuote : ∀ c ∈ mark, (!Lexeme.isQuote c) = true := fun c member => by
    rw [(opening.mark_spec member).2.2]
    rfl
  rw [markOf, List.takeWhile_append_of_pos noQuote]
  simp [opening.isQuote]

theorem quotedOf_append (rest : List Char) : quotedOf (mark ++ quote :: rest) = quote :: rest := by
  have noQuote : ∀ c ∈ mark, (!Lexeme.isQuote c) = true := fun c member => by
    rw [(opening.mark_spec member).2.2]
    rfl
  rw [quotedOf, List.dropWhile_append_of_pos noQuote]
  simp [opening.isQuote]

/-- A string in single quotes and its body. -/
theorem bodyOf_short {body : List Char} (whole : isWhole quote body = true) :
    isTriple (mark ++ quote :: (body ++ [quote])) = false ∧
      bodyOf (mark ++ quote :: (body ++ [quote])) = body := by
  have single : isTriple (mark ++ quote :: (body ++ [quote])) = false := by
    rw [isTriple, opening.quotedOf_append]
    cases body with
    | nil => rfl
    | cons c body =>
        have different : quote ≠ c := fun same =>
          head?_of_isWhole opening.quote_spec.2.2.2.1 whole (same ▸ rfl)
        cases body <;> simp [different]
  refine ⟨single, ?_⟩
  rw [bodyOf, single, opening.quotedOf_append]
  simp

/-- A string in triple quotes and its body. -/
theorem bodyOf_long (body : List Char) :
    bodyOf (mark ++ quote :: quote :: quote :: (body ++ [quote, quote, quote])) = body := by
  have triple : isTriple
      (mark ++ quote :: quote :: quote :: (body ++ [quote, quote, quote])) = true := by
    rw [isTriple, opening.quotedOf_append]
    simp
  rw [bodyOf, triple, opening.quotedOf_append]
  simp

/-- An outline takes a string in single quotes for what it is, if its line ends are escaped. -/
theorem outline_short {body rest : List Char} (whole : isWhole quote body = true)
    (escaped : escapesLineEnds body = true) (closed : body = [] → rest.head? ≠ some quote) :
    outline (mark ++ quote :: (body ++ quote :: rest)) =
      outlined (mark ++ quote :: (body ++ [quote])) ++ outline rest := by
  have noEscape := opening.quote_spec.2.2.2.1
  have single : (body ++ quote :: rest).take 2 ≠ [quote, quote] := by
    cases body with
    | nil =>
        have other := closed rfl
        cases rest with
        | nil => simp
        | cons c rest => simpa using other
    | cons c body =>
        have different : c ≠ quote := fun same =>
          head?_of_isWhole noEscape whole (same ▸ rfl)
        exact fun same => different (List.cons.inj same).1
  rw [opening.outline_eq, Construct.literalBody, if_neg single,
    shortBody_of_isWhole noEscape whole escaped, opening.placeholderOf_mark, outlined, isTemplate,
    opening.markOf_append, (opening.bodyOf_short whole).2]

/-- An outline takes a string in triple quotes for what it is. -/
theorem outline_long {body text rest : List Char}
    (closed : Construct.longBody quote text = (body, rest)) :
    outline (mark ++ quote :: quote :: quote :: text) =
      outlined (mark ++ quote :: quote :: quote :: (body ++ [quote, quote, quote])) ++
        outline rest := by
  have triple : Construct.literalBody quote (quote :: quote :: text) = (body, rest) := by
    have two : (quote :: quote :: text).take 2 = [quote, quote] := rfl
    rw [Construct.literalBody, if_pos two]
    exact closed
  rw [opening.outline_eq, triple, opening.placeholderOf_mark, outlined, isTemplate,
    opening.markOf_append, opening.bodyOf_long]

end IsOpening

/-! ### Strings of several lines -/

/-- What has been seen of a string that is not closed yet. -/
inductive Opened (quote : Char) : (triple : Bool) → (seen : List Char) → Prop where
  | short {mark inner : List Char} (opening : IsOpening mark quote) (filled : inner ≠ [])
      (whole : isWhole quote inner = true) : Opened quote false (mark ++ quote :: inner)
  | long {mark inner : List Char} (opening : IsOpening mark quote)
      (through : ∀ more, Construct.longBody quote (inner ++ more) =
        (inner ++ (Construct.longBody quote more).1, (Construct.longBody quote more).2)) :
      Opened quote true (mark ++ quote :: quote :: quote :: inner)

/-- The rest of a string on a later line, when it is closed there. -/
def closing? (quote : Char) (triple : Bool) (line : List Char) : Option (List Char × List Char) :=
  if triple then tripleBody quote [] line else carriedBody quote [] line

namespace Opened

variable {quote : Char} {triple : Bool} {seen line : List Char}
  (opened : Opened quote triple seen)

include opened

/-- A line without the closing quote carries the string on. -/
theorem append (single : IsSingle line) (ended : IsEnded line)
    (unclosed : closing? quote triple line = none) : Opened quote triple (seen ++ line) := by
  cases opened with
  | short opening filled whole =>
      rw [List.append_assoc, List.cons_append]
      refine .short opening (List.append_ne_nil_of_left_ne_nil filled line) ?_
      exact isWhole_append whole (isWhole_of_carriedBody single ended unclosed)
  | long opening through =>
      rw [List.append_assoc, List.cons_append, List.cons_append, List.cons_append]
      refine .long opening fun more => ?_
      rw [List.append_assoc, through,
        longBody_of_tripleBody opening.quote_spec.2.2.2.2 single ended unclosed]
      simp

/-- An outline takes a string of several lines for what it is. -/
theorem outline_eq {body rest : List Char} (closed : closing? quote triple line = some (body, rest))
    (escaped : isTriple (seen ++ body) = false → escapesLineEnds (bodyOf (seen ++ body)) = true)
    (more : List Char) :
    line = body ++ rest ∧
      outline (seen ++ line ++ more) = outlined (seen ++ body) ++ outline (rest ++ more) := by
  cases opened with
  | @short mark inner opening filled whole =>
      rcases carriedBody_some closed with ⟨last, rfl, rfl, wholeLast⟩
      have all := isWhole_append whole wholeLast
      have shape : mark ++ quote :: inner ++ ([].reverse ++ (last ++ [quote])) =
          mark ++ quote :: ((inner ++ last) ++ [quote]) := by simp
      rw [shape, (opening.bodyOf_short all).1, (opening.bodyOf_short all).2] at escaped
      refine ⟨by simp, ?_⟩
      have filled : inner ++ last = [] → (rest ++ more).head? ≠ some quote := fun none =>
        absurd (List.append_eq_nil_iff.mp none).1 filled
      rw [shape, ← opening.outline_short all (escaped rfl) filled]
      simp
  | @long mark inner opening through =>
      rcases tripleBody_some opening.quote_spec.2.2.2.1 closed with ⟨last, rfl, rfl, throughLast⟩
      have shape : mark ++ quote :: quote :: quote :: inner ++
          ([].reverse ++ (last ++ [quote, quote, quote])) =
          mark ++ quote :: quote :: quote :: ((inner ++ last) ++ [quote, quote, quote]) := by simp
      have body : Construct.longBody quote
          (inner ++ (last ++ quote :: quote :: quote :: rest ++ more)) =
          (inner ++ last, rest ++ more) := by
        rw [through, throughLast]
      refine ⟨by simp, ?_⟩
      rw [shape, ← opening.outline_long body]
      simp

end Opened

end Lexeme
end Snippet
end AnswerKey
