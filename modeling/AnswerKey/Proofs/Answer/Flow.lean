import AnswerKey.Proofs.Answer.Spacing

namespace AnswerKey
namespace Answer

/-!
Code normalised in one pass.

The normal form of code is made line by line, and that of a line in several passes.  It comes about in
one pass as well, which goes from one place to the next (`Place`): in the indentation of a line it
remembers the column, and behind what a line shows whether blanks wait to be written.  So what becomes
of a text behind another one depends on the place alone (`flow_append`), and code is normalised by
going through it (`codeChars_concat`).
-/

open Text

/-- Where a pass over code is: in the indentation of a line, or behind the first visible character of
one, with or without blanks since the last.  Blanks are not written behind punctuation. -/
inductive Place where
  | lead (column : Nat)
  | inside (gap behindPunctuation : Bool)
  deriving DecidableEq, Repr

namespace Place

/-- The place behind a character. -/
def next (place : Place) (c : Char) : Place :=
  if c = '\n' then lead 0
  else if isBlank c then
    match place with
    | lead column => lead (if c = '\t' then (column / 4 + 1) * 4 else column + 1)
    | inside _ behindPunctuation => inside true behindPunctuation
  else inside false (isPunctuation c)

/-- The spaces that are written in front of a visible character, of a margin less than there are. -/
def spaces (margin : Nat) (place : Place) (c : Char) : List Char :=
  match place with
  | lead column => List.replicate (column - margin) ' '
  | inside gap behindPunctuation =>
      if gap && !behindPunctuation && !isPunctuation c then [' '] else []

/-- What is written for a character.  A line that shows nothing has no line end. -/
def write (margin : Nat) (place : Place) (c : Char) : List Char :=
  if isBlank c then
    match place with
    | lead _ => []
    | inside _ _ => if c = '\n' then ['\n'] else []
  else place.spaces margin c ++ [oneQuote c]

/-- The place behind a text. -/
def behind (place : Place) (text : List Char) : Place :=
  text.foldl next place

end Place

/-- What a pass over a text writes from a place on. -/
def flow (margin : Nat) : Place → List Char → List Char
  | _, [] => []
  | place, c :: rest => place.write margin c ++ flow margin (place.next c) rest

section Passing

variable {margin : Nat} {place : Place} {text rest : List Char} {c : Char}

theorem flow_append (margin : Nat) (place : Place) (first second : List Char) :
    flow margin place (first ++ second) =
      flow margin place first ++ flow margin (place.behind first) second := by
  induction first generalizing place with
  | nil => rfl
  | cons c first ih =>
      rw [List.cons_append, flow, flow, ih, List.append_assoc]
      rfl

/-- A character is written behind the spaces that its place asks for. -/
theorem flow_shown (shown : isBlank c = false) (rest : List Char) :
    flow margin place (c :: rest) =
      place.spaces margin c ++ oneQuote c :: flow margin (.inside false (isPunctuation c)) rest := by
  have noFeed : c ≠ '\n' := by
    rintro rfl
    cases shown
  simp [flow, Place.write, Place.next, shown, noFeed]

theorem flow_lead (shown : isBlank c = false) (column : Nat) (rest : List Char) :
    flow margin (.lead column) (c :: rest) =
      List.replicate (column - margin) ' ' ++ flow margin (.lead 0) (c :: rest) := by
  rw [flow_shown shown, flow_shown shown]
  simp [Place.spaces]

/-- Inside a line, blanks are not written before what they stand in front of. -/
theorem flow_blank (blank : isBlank c = true) (noFeed : c ≠ '\n') (rest : List Char) :
    flow margin place (c :: rest) = flow margin (place.next c) rest := by
  have nothing : place.write margin c = [] := by
    unfold Place.write
    rw [if_pos blank]
    cases place with
    | lead column => rfl
    | inside gap behindPunctuation => exact if_neg noFeed
  rw [flow, nothing, List.nil_append]

theorem flow_feed_inside (gap behindPunctuation : Bool) (rest : List Char) :
    flow margin (.inside gap behindPunctuation) ('\n' :: rest) = '\n' :: flow margin (.lead 0) rest :=
  rfl

theorem flow_feed_lead (column : Nat) (rest : List Char) :
    flow margin (.lead column) ('\n' :: rest) = flow margin (.lead 0) rest :=
  rfl

/-- No line ends are written but those of the text. -/
theorem mem_flow {d : Char} (inside : d ∈ flow margin place text) :
    d = ' ' ∨ ∃ c ∈ text, d = oneQuote c := by
  induction text generalizing place with
  | nil => cases inside
  | cons c rest ih =>
      rcases List.mem_append.mp inside with here | later
      · unfold Place.write at here
        split at here
        · split at here
          · cases here
          · split at here
            · next feed =>
                rw [List.mem_singleton.mp here]
                exact .inr ⟨c, List.mem_cons_self, by rw [feed]; rfl⟩
            · cases here
        · rcases List.mem_append.mp here with space | same
          · refine .inl ?_
            unfold Place.spaces at space
            split at space
            · exact List.eq_of_mem_replicate space
            · split at space
              · exact List.mem_singleton.mp space
              · cases space
          · exact .inr ⟨c, List.mem_cons_self, List.mem_singleton.mp same⟩
      · exact (ih later).imp_right fun ⟨c, member, same⟩ => ⟨c, List.mem_cons_of_mem _ member, same⟩

theorem feed_not_mem_flow (noFeed : '\n' ∉ text) : '\n' ∉ flow margin place text := by
  intro inside
  rcases mem_flow inside with space | ⟨c, member, same⟩
  · cases space
  · exact noFeed ((oneQuote_eq_feed c).mp same.symm ▸ member)

/-- Behind visible characters a line stays one that shows something. -/
theorem exists_behind_inside (noFeed : '\n' ∉ text) (gap behindPunctuation : Bool) :
    ∃ gap' behindPunctuation', (Place.inside gap behindPunctuation).behind text =
      .inside gap' behindPunctuation' := by
  induction text generalizing gap behindPunctuation with
  | nil => exact ⟨_, _, rfl⟩
  | cons c rest ih =>
      rw [List.mem_cons, not_or] at noFeed
      have onward : ∃ gap' behindPunctuation', (Place.inside gap behindPunctuation).next c =
          .inside gap' behindPunctuation' := by
        rw [Place.next, if_neg (Ne.symm noFeed.1)]
        split
        · exact ⟨_, _, rfl⟩
        · exact ⟨_, _, rfl⟩
      obtain ⟨gap', behindPunctuation', same⟩ := onward
      obtain ⟨gap'', behindPunctuation'', last⟩ := ih noFeed.2 gap' behindPunctuation'
      exact ⟨gap'', behindPunctuation'', by rw [← last, ← same]; rfl⟩

end Passing

/-! ### Lines -/

/-- A text whose blanks are spaces, tabs and line feeds. -/
def IsPlainlySpaced (text : List Char) : Prop :=
  ∀ c ∈ text, isBlank c = true → c = ' ' ∨ c = '\t' ∨ c = '\n'

namespace IsPlainlySpaced

variable {text rest : List Char} {c : Char}

theorem of_suffix (spaced : IsPlainlySpaced text) (suffix : rest <:+ text) : IsPlainlySpaced rest :=
  fun d member => spaced d (suffix.subset member)

theorem tail (spaced : IsPlainlySpaced (c :: rest)) : IsPlainlySpaced rest :=
  spaced.of_suffix (List.suffix_cons c rest)

end IsPlainlySpaced

section Lines

variable {margin : Nat} {line text : List Char}

theorem isPunctuation_oneQuote (c : Char) : isPunctuation (oneQuote c) = isPunctuation c := by
  rw [oneQuote]
  split
  · next same =>
      rw [same]
      rfl
  · rfl

theorem oneQuote_space (c : Char) : oneQuote c = ' ' ↔ c = ' ' := by
  rw [oneQuote]
  split
  · next same =>
      rw [same]
      decide
  · rfl

theorem expandTabsFrom_shown {c : Char} (shown : isBlank c = false) (column : Nat)
    (rest : List Char) :
    expandTabsFrom 4 column (c :: rest) = c :: expandTabsFrom 4 (column + 1) rest := by
  have other (d : Char) (blank : isBlank d = true) : c ≠ d := by
    rintro rfl
    rw [shown] at blank
    cases blank
  rw [expandTabsFrom, if_neg (other '\t' rfl), if_neg (not_or.mpr ⟨other '\n' rfl, other '\r' rfl⟩)]

/-- A visible character keeps the space in front of it where neither neighbour is punctuation. -/
theorem tighten_shown {c : Char} (shown : isBlank c = false) (gap afterPunctuation : Bool)
    (rest : List Char) :
    tighten [] afterPunctuation ((if gap then [' '] else []) ++ c :: rest) =
      (if gap && !afterPunctuation && !isPunctuation c then [' '] else []) ++
        c :: tighten [] (isPunctuation c) rest := by
  have spaced (rest : List Char) : tighten [] afterPunctuation (' ' :: rest) =
      tighten [' '] afterPunctuation rest := tighten_blank rfl rest
  cases mark : isPunctuation c with
  | true =>
      cases gap with
      | true => exact (spaced _).trans ((tighten_punctuation mark _).trans (by simp))
      | false => exact (tighten_punctuation mark _).trans (by simp)
  | false =>
      cases gap with
      | true => exact (spaced _).trans ((tighten_plain shown mark _).trans (by cases afterPunctuation <;> rfl))
      | false => exact (tighten_plain shown mark _).trans (by cases afterPunctuation <;> rfl)

theorem exists_trimRight_cons {c : Char} (shown : isBlank c = false) (rest : List Char) :
    ∃ kept, trimRight (c :: rest) = c :: kept := by
  rw [trimRight, trimRightWhile, List.reverse_cons, List.dropWhile_append]
  split
  · exact ⟨[], by simp [shown]⟩
  · exact ⟨(rest.reverse.dropWhile isBlank).reverse, by simp⟩

/-- The body of a line is reduced by passing over it. -/
theorem tighten_eq_flow {d : Char} (shown : isBlank d = false) (plain : IsPlainlySpaced text)
    (noFeed : '\n' ∉ text) (gap : Bool) (column : Nat) :
    tighten [] false (trimRight (d :: ((if gap then [' '] else []) ++
        collapse (· == ' ') ' ' gap (expandTabsFrom 4 column (text.map oneQuote))))) =
      d :: flow margin (.inside gap (isPunctuation d)) text := by
  have first {d : Char} (shown : isBlank d = false) (rest : List Char) :
      tighten [] false (d :: rest) = d :: tighten [] (isPunctuation d) rest :=
    tighten_shown shown false false rest
  induction text generalizing d gap column with
  | nil =>
      have blank : ¬ IsVisible (if gap then [' '] else []) := by cases gap <;> decide
      have single : trimRight [d] = [d] := trimRightWhile_eq_self (by simpa using shown)
      rw [List.map_nil, expandTabsFrom, collapse, List.append_nil, ← List.singleton_append,
        trimRight_append_of_blank blank, single, first shown]
      cases isPunctuation d <;> rfl
  | cons c rest ih =>
      rw [List.mem_cons, not_or] at noFeed
      have later := plain.tail
      cases blank : isBlank c with
      | true =>
          have run : ∃ count onward, 0 < count ∧
              expandTabsFrom 4 column ((c :: rest).map oneQuote) =
                List.replicate count ' ' ++ expandTabsFrom 4 onward (rest.map oneQuote) := by
            rcases plain c List.mem_cons_self blank with rfl | rfl | rfl
            · exact ⟨1, column + 1, Nat.one_pos, rfl⟩
            · exact ⟨4 - column % 4, _, by omega, rfl⟩
            · exact absurd rfl noFeed.1
          obtain ⟨count, onward, some, whole⟩ := run
          have joined (others : List Char) :
              (if gap = true then [' '] else []) ++ ((if gap = true then [] else [' ']) ++ others) =
                [' '] ++ others := by
            cases gap <;> rfl
          rw [whole, collapse_spaces gap some, joined, flow_blank blank (Ne.symm noFeed.1), Place.next,
            if_neg (Ne.symm noFeed.1), if_pos blank]
          exact ih shown later noFeed.2 true onward
      | false =>
          have visible : isBlank (oneQuote c) = false := by rw [isBlank_oneQuote, blank]
          have noSpace : (oneQuote c == ' ') = false := by
            rw [beq_eq_false_iff_ne]
            exact ne_space_of_not_isBlank visible
          have onto := ih visible later noFeed.2 false (column + 1)
          rw [if_neg Bool.false_ne_true, List.nil_append] at onto
          generalize others : collapse (· == ' ') ' ' false
            (expandTabsFrom 4 (column + 1) (rest.map oneQuote)) = reduced at onto
          obtain ⟨kept, trimmed⟩ := exists_trimRight_cons visible reduced
          have step : collapse (· == ' ') ' ' gap (expandTabsFrom 4 column ((c :: rest).map oneQuote)) =
              oneQuote c :: reduced := by
            rw [List.map_cons, expandTabsFrom_shown visible, collapse, if_neg (by simp [noSpace]),
              others]
          have seen : IsVisible (oneQuote c :: reduced) := isVisible_cons.mpr (.inl visible)
          rw [trimmed, first visible, List.cons.injEq, isPunctuation_oneQuote] at onto
          rw [step, ← List.cons_append, trimRight_append_of_visible seen, trimmed, List.cons_append,
            first shown, tighten_shown visible, isPunctuation_oneQuote, onto.2, flow_shown blank]
          rfl

/-- A line is written if it shows something, without the margin. -/
theorem flow_leadLine (plain : IsPlainlySpaced line) (noFeed : '\n' ∉ line) (column : Nat)
    (least : IsVisible line → margin ≤
      indentOf (codeLine (List.replicate column ' ' ++ expandTabsFrom 4 column (line.map oneQuote))))
    (rest : List Char) :
    flow margin (.lead column) (line ++ '\n' :: rest) =
      (if IsVisible line then
        (codeLine (List.replicate column ' ' ++ expandTabsFrom 4 column (line.map oneQuote))).drop margin ++
          ['\n'] else []) ++ flow margin (.lead 0) rest := by
  induction line generalizing column with
  | nil => simp [flow_feed_lead]
  | cons c line ih =>
      rw [List.mem_cons, not_or] at noFeed
      have later := plain.tail
      cases blank : isBlank c with
      | true =>
          have run : ∃ onward, (Place.lead column).next c = .lead onward ∧
              List.replicate column ' ' ++ expandTabsFrom 4 column ((c :: line).map oneQuote) =
                List.replicate onward ' ' ++ expandTabsFrom 4 onward (line.map oneQuote) := by
            rcases plain c List.mem_cons_self blank with rfl | rfl | rfl
            · refine ⟨column + 1, rfl, ?_⟩
              rw [List.replicate_succ', List.append_assoc]
              rfl
            · have onward : column + (4 - column % 4) = (column / 4 + 1) * 4 := by omega
              refine ⟨(column / 4 + 1) * 4, rfl, ?_⟩
              rw [← onward, List.replicate_add, List.append_assoc]
              rfl
            · exact absurd rfl noFeed.1
          obtain ⟨onward, place, whole⟩ := run
          have visible : IsVisible (c :: line) ↔ IsVisible line := by simp [blank]
          rw [whole] at least ⊢
          rw [List.cons_append, flow_blank blank (Ne.symm noFeed.1), place,
            ih later noFeed.2 onward fun shown => least (visible.mpr shown), if_congr visible rfl rfl]
      | false =>
          have shown : isBlank (oneQuote c) = false := by rw [isBlank_oneQuote, blank]
          have noSpace : (oneQuote c == ' ') = false := by
            rw [beq_eq_false_iff_ne]
            exact ne_space_of_not_isBlank shown
          have single (rest : List Char) :
              singleSpaces (oneQuote c :: rest) = oneQuote c :: collapse (· == ' ') ' ' false rest := by
            rw [singleSpaces, collapse, if_neg (by simp [noSpace])]
          have body := @tighten_eq_flow margin line _ shown later noFeed.2 false (column + 1)
          rw [if_neg Bool.false_ne_true, List.nil_append, ← single, ← singleSpaces_trimRight,
            ← reduce, isPunctuation_oneQuote] at body
          have whole : codeLine (List.replicate column ' ' ++
                expandTabsFrom 4 column ((c :: line).map oneQuote)) =
              List.replicate column ' ' ++
                oneQuote c :: flow margin (.inside false (isPunctuation c)) line := by
            rw [List.map_cons, expandTabsFrom_shown shown, codeLine_spaces_append, codeLine_eq, indentOf,
              List.takeWhile_cons_of_neg (by simp [noSpace]),
              List.dropWhile_cons_of_neg (by simp [noSpace]), body]
            rfl
          have starts : ∀ d ∈ (oneQuote c :: flow margin (.inside false (isPunctuation c)) line).head?,
              d ≠ ' ' := by
            rintro _ ⟨⟩
            exact ne_space_of_not_isBlank shown
          rw [whole, indentOf_indented starts] at least
          have below := least (isVisible_cons.mpr (.inl blank))
          obtain ⟨gap, behindPunctuation, last⟩ :=
            exists_behind_inside noFeed.2 false (isPunctuation c)
          rw [if_pos (isVisible_cons.mpr (.inl blank)), whole,
            List.drop_append_of_le_length (by simpa using below), List.drop_replicate,
            List.cons_append, flow_shown blank, flow_append, last, flow_feed_inside]
          simp [Place.spaces]

theorem flow_line (plain : IsPlainlySpaced line) (noFeed : '\n' ∉ line)
    (least : IsVisible line → margin ≤ indentOf (codeRow line)) (rest : List Char) :
    flow margin (.lead 0) (line ++ '\n' :: rest) =
      (if IsVisible line then (codeRow line).drop margin ++ ['\n'] else []) ++
        flow margin (.lead 0) rest := by
  rw [codeRow_eq] at least ⊢
  exact flow_leadLine plain noFeed 0 least rest

end Lines

/-! ### Texts -/

section Texts

variable {text : List Char} {margin : Nat}

theorem unlines_concat {rows : List (List Char)} (filled : rows ≠ []) :
    unlines rows ++ ['\n'] = rows.flatMap (· ++ ['\n']) := by
  induction rows with
  | nil => exact absurd rfl filled
  | cons row rest ih =>
      cases rest with
      | nil => simp [unlines, joinWith]
      | cons second more =>
          have onward := ih (List.cons_ne_nil second more)
          rw [List.flatMap_cons, ← onward]
          simp [unlines, joinWith]

/-- The lines of a text are written one behind the other. -/
theorem flow_rows {rows : List (List Char)}
    (plain : ∀ line ∈ rows, IsPlainlySpaced line ∧ '\n' ∉ line)
    (least : ∀ row ∈ shown (rows.map codeRow), margin ≤ indentOf row) :
    flow margin (.lead 0) (rows.flatMap (· ++ ['\n'])) =
      (shown (rows.map codeRow)).flatMap fun row => row.drop margin ++ ['\n'] := by
  induction rows with
  | nil => rfl
  | cons line rows ih =>
      obtain ⟨⟨spaced, noFeed⟩, later⟩ := List.forall_mem_cons.mp plain
      rw [List.map_cons] at least ⊢
      by_cases visible : IsVisible line
      · rw [shown_cons_of_visible (isVisible_codeRow.mpr visible)] at least ⊢
        obtain ⟨here, below⟩ := List.forall_mem_cons.mp least
        rw [List.flatMap_cons, List.append_assoc, List.singleton_append,
          flow_line spaced noFeed fun _ => here, if_pos visible, ih later below, List.flatMap_cons]
      · rw [shown_cons_of_blank (mt isVisible_codeRow.mp visible)] at least ⊢
        rw [List.flatMap_cons, List.append_assoc, List.singleton_append,
          flow_line spaced noFeed (absurd · visible), if_neg visible, ih later least]
        rfl

theorem flow_text {text : List Char} (plain : IsPlainlySpaced text)
    (least : ∀ row ∈ shown ((lines text).map codeRow), margin ≤ indentOf row) :
    flow margin (.lead 0) (text ++ ['\n']) =
      (shown ((lines text).map codeRow)).flatMap fun row => row.drop margin ++ ['\n'] := by
  obtain ⟨first, others, whole⟩ := exists_lines_eq text
  have filled : lines text ≠ [] := by simp [whole]
  rw [← flow_rows _ least, ← unlines_concat filled, unlines_lines]
  exact fun line among => ⟨fun c member => plain c (mem_of_mem_lines among member),
    not_mem_of_mem_splitAt among⟩

/-- Code is normalised by passing over its text, if compatibility has nothing to replace. -/
theorem codeChars_concat (folded : fold text = text) (plain : IsPlainlySpaced (unifyLineEnds text))
    (filled : shownRows text ≠ []) :
    codeChars text ++ ['\n'] =
      flow (Answer.margin (shownRows text)) (.lead 0) (unifyLineEnds text ++ ['\n']) := by
  have passed : flow (Answer.margin (shownRows text)) (.lead 0) (unifyLineEnds text ++ ['\n']) =
      (shownRows text).flatMap fun row => row.drop (Answer.margin (shownRows text)) ++ ['\n'] :=
    flow_text plain fun row among => margin_le among
  rw [codeChars_of_folded folded, layOut, ← shownRows, unlines_concat (by simpa using filled), passed,
    List.flatMap_map]

end Texts

end Answer
end AnswerKey
