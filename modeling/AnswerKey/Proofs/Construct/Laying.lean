import AnswerKey.Proofs.Construct.Layout

namespace AnswerKey
namespace Construct

/-!
The tokens of a module in its outline.

A module is read with a line end at its end, whether it has one or not, and its outline is made of the
text as it is.  A line end more is seen in an outline unless a string swallows it (`outline_concat`), so
the tokens of a module lie in the outline of its own text (`exists_lays_of_parse?`).  Where a square
bracket or a colon stands in an outline, a token stands for it.
-/

open Text Pattern Snippet

/-! ### A line end more -/

section LineEnd

variable {quote : Char} {text : List Char}

/-- A body in single quotes does not reach a line end that follows, unless a backslash takes it
along. -/
theorem shortBody_concat (noEscape : quote ≠ '\\') (noBreak : quote ≠ '\n') (text : List Char) :
    shortBody quote (text ++ ['\n']) = ((shortBody quote text).1, (shortBody quote text).2 ++ ['\n']) ∨
      (shortBody quote (text ++ ['\n'])).2 = [] := by
  fun_induction shortBody quote text with
  | case1 =>
      left
      rw [List.nil_append, shortBody_cons _ (by decide), if_neg (Ne.symm noBreak), if_pos rfl]
  | case2 c rest body left same ih =>
      rw [same] at ih
      rcases ih with kept | gone
      · left
        rw [List.cons_append, List.cons_append, shortBody, kept]
      · right
        rw [List.cons_append, List.cons_append, shortBody, gone]
  | case3 rest _ =>
      left
      rw [List.cons_append, shortBody_cons _ noEscape, if_pos rfl]
  | case4 rest _ =>
      left
      rw [List.cons_append, shortBody_cons _ (by decide), if_neg (Ne.symm noBreak), if_pos rfl]
  | case5 c rest noPair other noFeed body left same ih =>
      rw [same] at ih
      by_cases escape : c = '\\'
      · cases rest with
        | nil =>
            right
            rw [escape]
            rfl
        | cons d rest => exact (noPair d rest escape rfl).elim
      · rw [List.cons_append, shortBody_cons _ escape, if_neg other, if_neg noFeed]
        exact ih.imp (fun kept => by rw [kept]) id

/-- A line end more makes no quotes. -/
theorem take_concat (noBreak : quote ≠ '\n') (rest : List Char) :
    (rest ++ ['\n']).take 2 = [quote, quote] ↔ rest.take 2 = [quote, quote] := by
  rcases rest with _ | ⟨a, _ | ⟨b, rest⟩⟩
  · simp
  · simp [Ne.symm noBreak]
  · simp

theorem drop_concat {rest : List Char} (quotes : rest.take 2 = [quote, quote]) :
    (rest ++ ['\n']).drop 2 = rest.drop 2 ++ ['\n'] := by
  refine List.drop_append_of_le_length ?_
  have two := congrArg List.length quotes
  rw [List.length_take, List.length_cons, List.length_singleton] at two
  omega

/-- The same for a body in triple quotes, which goes on behind line ends. -/
theorem longBody_concat (noEscape : quote ≠ '\\') (noBreak : quote ≠ '\n') (text : List Char) :
    longBody quote (text ++ ['\n']) = ((longBody quote text).1, (longBody quote text).2 ++ ['\n']) ∨
      (longBody quote (text ++ ['\n'])).2 = [] := by
  fun_induction longBody quote text with
  | case1 => exact .inr (by rw [List.nil_append, Lexeme.longBody_cons _ (by decide)]; split <;> rfl)
  | case2 c rest body left same ih =>
      rw [same] at ih
      rw [List.cons_append, List.cons_append, longBody]
      exact ih.imp (fun kept => by rw [kept]) (fun gone => by rw [gone])
  | case3 c rest noPair closed => 
      left
      rw [List.cons_append, Lexeme.longBody_cons _ (closed.1 ▸ noEscape), if_pos ⟨closed.1, (take_concat noBreak rest).mpr closed.2⟩,
        drop_concat closed.2]
  | case4 c rest noPair other body left same ih =>
      rw [same] at ih
      by_cases escape : c = '\\'
      · cases rest with
        | nil =>
            right
            rw [escape]
            rfl
        | cons d rest => exact (noPair d rest escape rfl).elim
      · rw [List.cons_append, Lexeme.longBody_cons _ escape, if_neg]
        · exact ih.imp (fun kept => by rw [kept]) id
        · rwa [take_concat noBreak]

theorem literalBody_concat (isQuote : isQuote quote = true) (text : List Char) :
    literalBody quote (text ++ ['\n']) =
        ((literalBody quote text).1, (literalBody quote text).2 ++ ['\n']) ∨
      (literalBody quote (text ++ ['\n'])).2 = [] := by
  have noEscape : quote ≠ '\\' := by
    rintro rfl
    cases isQuote
  have noBreak : quote ≠ '\n' := by
    rintro rfl
    cases isQuote
  rw [literalBody, literalBody]
  by_cases quotes : text.take 2 = [quote, quote]
  · rw [if_pos ((take_concat noBreak text).mpr quotes), if_pos quotes, drop_concat quotes]
    exact longBody_concat noEscape noBreak _
  · rw [if_neg (mt (take_concat noBreak text).mp quotes), if_neg quotes]
    exact shortBody_concat noEscape noBreak text

theorem takeWhile_concat {p : Char → Bool} (stops : p '\n' = false) (text : List Char) :
    (text ++ ['\n']).takeWhile p = text.takeWhile p ∧
      (text ++ ['\n']).dropWhile p = text.dropWhile p ++ ['\n'] := by
  induction text with
  | nil => simp [stops]
  | cons c text ih =>
      rw [List.cons_append, List.takeWhile_cons, List.takeWhile_cons, List.dropWhile_cons,
        List.dropWhile_cons]
      split
      · exact ⟨congrArg _ ih.1, ih.2⟩
      · exact ⟨rfl, rfl⟩

/-- A stretch of an outline is the same with a line end more behind it, or swallows it. -/
theorem nextStretch_concat (c : Char) (rest : List Char) :
    nextStretch c (rest ++ ['\n']) =
        ((nextStretch c rest).1, (nextStretch c rest).2 ++ ['\n']) ∨
      (nextStretch c (rest ++ ['\n'])).2 = [] ∧
        ∃ literal, (nextStretch c (rest ++ ['\n'])).1 = literal ++ ['"'] := by
  have commentEnds : (fun d => decide (d ≠ '\n')) '\n' = false := rfl
  have wordEnds : isWordCharacter '\n' = false := by decide
  have closes (mark : String) (body : List Char) : ∃ literal, placeholderOf mark body = literal ++ ['"'] := by
    rw [placeholderOf]
    split
    · exact ⟨"f\"\x7b_\x7d".toList, rfl⟩
    · exact ⟨['"'], rfl⟩
  unfold nextStretch
  split
  · exact .inl (by rw [(takeWhile_concat commentEnds rest).2])
  · split
    · obtain ⟨word, behind⟩ := takeWhile_concat wordEnds rest
      dsimp only
      rw [word, behind]
      generalize rest.dropWhile isWordCharacter = left
      generalize lower (.ofList (c :: rest.takeWhile isWordCharacter)) = mark
      cases left with
      | nil =>
          have noQuote : (isQuote '\n' && literalMarks.contains mark) = false := rfl
          left
          simp only [List.nil_append, noQuote, Bool.false_eq_true, if_false]
      | cons quote more =>
          simp only [List.cons_append]
          by_cases isLiteral : (isQuote quote && literalMarks.contains mark) = true
          · simp only [if_pos isLiteral]
            rw [Bool.and_eq_true] at isLiteral
            rcases literalBody_concat isLiteral.1 more with kept | gone
            · exact .inl (by rw [kept])
            · exact .inr ⟨gone, closes _ _⟩
          · simp only [if_neg isLiteral, List.cons_append, true_or]
    · split
      · next isQuote =>
          rcases literalBody_concat isQuote rest with kept | gone
          · exact .inl (by rw [kept])
          · exact .inr ⟨gone, ['"'], rfl⟩
      · exact .inl rfl

/-- An outline is the same with a line end more, or a string swallows it. -/
theorem outline_concat (text : List Char) :
    outline (text ++ ['\n']) = outline text ++ ['\n'] ∨
      ∃ shown, outline (text ++ ['\n']) = shown ++ ['"'] := by
  induction size : text.length using Nat.strongRecOn generalizing text with
  | _ count ih =>
      cases text with
      | nil => exact .inl (by decide +kernel)
      | cons c rest =>
          rw [List.cons_append, outline_cons, outline_cons]
          rcases nextStretch_concat c rest with kept | ⟨gone, literal, closed⟩
          · have shorter : (nextStretch c rest).2.length < count := by
              rw [← size]
              exact Nat.lt_succ_of_le (length_nextStretch_le c rest)
            rw [kept]
            rcases ih _ shorter (nextStretch c rest).2 rfl with same | ⟨shown, swallowed⟩
            · exact .inl (by rw [same, List.append_assoc])
            · exact .inr ⟨(nextStretch c rest).1 ++ shown, by rw [swallowed, List.append_assoc]⟩
          · exact .inr ⟨literal, by rw [gone, closed, outline_nil, List.append_nil]⟩

end LineEnd

/-! ### Tokens of a module -/

namespace Lays

variable {before other : Option Char} {tokens : List Token} {text : List Char}

/-- Tokens that take up no room lie anywhere. -/
theorem of_nil (laid : Lays before tokens []) (other : Option Char) : Lays other tokens [] := by
  generalize empty : [] = text at laid
  induction laid generalizing other with
  | done => exact .done other
  | spacing => cases empty
  | @quiet _ _ shown text _ still tame _ ih =>
      obtain ⟨rfl, rfl⟩ := List.append_eq_nil_iff.mp empty.symm
      exact .quiet still tame (ih _ rfl)
  | lambda => cases empty
  | @string _ literal text _ _ _ _ =>
      have filled : standIn literal ≠ [] := by
        unfold standIn
        split <;> decide
      exact absurd (List.append_eq_nil_iff.mp empty.symm).1 filled
  | symbol => cases empty

/-- Without a line end at its end an outline holds the same tokens. -/
theorem of_concat (laid : Lays before tokens (text ++ ['\n'])) : Lays before tokens text := by
  generalize whole : text ++ ['\n'] = all at laid
  have part {shown rest text : List Char} (whole : text ++ ['\n'] = shown ++ rest) :
      (rest = [] ∧ shown = text ++ ['\n']) ∨ ∃ more, text = shown ++ more ∧ rest = more ++ ['\n'] := by
    rcases List.eq_nil_or_concat' rest with rfl | ⟨more, d, rfl⟩
    · exact .inl ⟨rfl, by rw [whole, List.append_nil]⟩
    · rw [← List.append_assoc] at whole
      obtain ⟨same, lineEnd⟩ := List.append_inj' whole rfl
      exact .inr ⟨more, same, by rw [← lineEnd]⟩
  have behind {shown rest text : List Char} (whole : text ++ ['\n'] = shown ++ rest)
      (last : shown.getLast? ≠ some '\n') : ∃ more, text = shown ++ more ∧ rest = more ++ ['\n'] := by
    refine (part whole).resolve_left fun ⟨_, shown_eq⟩ => ?_
    rw [shown_eq, List.getLast?_concat] at last
    exact last rfl
  induction laid generalizing text with
  | done => simp at whole
  | @spacing before c tokens rest spaced tail ih =>
      cases text with
      | nil =>
          obtain ⟨-, rfl⟩ := List.cons.inj whole
          exact tail.of_nil before
      | cons d text =>
          obtain ⟨rfl, onward⟩ := List.cons.inj whole
          exact .spacing spaced (ih onward)
  | @quiet before token shown rest tokens still tame tail ih =>
      rcases part whole with ⟨rfl, rfl⟩ | ⟨more, rfl, onward⟩
      · have kept : Quiet text := by
          rcases tame with all | walrus
          · exact .inl fun c member => all c (List.mem_append_left _ member)
          · have last := congrArg List.getLast? walrus
            rw [List.getLast?_concat] at last
            exact absurd last (by decide)
        have laid := @Lays.quiet before token text [] tokens still kept (tail.of_nil _)
        rwa [List.append_nil] at laid
      · exact .quiet still tame (ih onward.symm)
  | @lambda before rest tokens opened closed tail ih =>
      obtain ⟨more, rfl, onward⟩ := behind whole (by decide)
      refine .lambda opened ?_ (ih onward.symm)
      cases more with
      | nil => rfl
      | cons c more =>
          rw [onward] at closed
          exact closed
  | @string before literal rest tokens apart tail ih =>
      obtain ⟨more, rfl, onward⟩ := behind whole (by unfold standIn; split <;> decide)
      exact .string apart (ih onward.symm)
  | @symbol before c rest tokens counted tail ih =>
      obtain ⟨more, rfl, onward⟩ := @behind [c] _ _ whole (by
        rw [List.getLast?_singleton, Ne, Option.some.injEq]
        rintro rfl
        rcases counted with bracket | colon
        · cases bracket
        · cases colon)
      exact .symbol counted (ih onward.symm)

end Lays

/-- The tokens of a module lie in its outline, and tally to what its tree holds. -/
theorem exists_lays_of_parse? {snippet : String} {tree : Tree} (noReturn : '\r' ∉ snippet.toList)
    (parsed : Tree.parse? .module snippet = some tree) :
    ∃ tokens, Lays none tokens (outline snippet.toList) ∧
      Tally.start.run? tokens = some (Tally.start.hold (tree.hasSlice, tree.hasField)) ∧
      Token.Cut true (Tree.withLineEnd snippet.toList) tokens := by
  obtain ⟨tokens, cut, run⟩ := Tree.exists_cut_of_parse? noReturn parsed
  have free : false = true ∨ touches none = true →
      Token.numberMayEnd (Tree.withLineEnd snippet.toList) = true := by
    rintro (goesOn | goesOn) <;> cases goesOn
  obtain ⟨laid, ends⟩ := lays_of_cut cut run free
  refine ⟨tokens, ?_, run, cut⟩
  rw [Tree.withLineEnd] at laid ends
  split at laid
  · exact laid
  · next unended =>
      rw [if_neg unended] at ends
      rcases outline_concat snippet.toList with same | ⟨shown, swallowed⟩
      · rw [scan, same] at laid
        exact laid.of_concat
      · have last := ends List.getLast?_concat
        rw [scan, swallowed, EndsLine, List.getLast?_concat] at last
        exact absurd last (by decide)

end Construct
end AnswerKey
