import AnswerKey.Proofs.Construct.Balance
import AnswerKey.Proofs.Construct.Loop

namespace AnswerKey
namespace Construct

/-!
Subscripts with bounds.

A slice is looked for as a colon between square brackets behind a name, a bracket or a string, with no
word lambda and no braces around it.  What is found so is a slice unless the colon is that of a walrus:
all other colons outside the inner square brackets are left over at the level of the subscript
(`surplus_of_clear`).  Not every slice is found, because a subscript is only read on one line and with
its inner square brackets one deep (`IsPlainSubscript`).
-/

open Text Pattern Snippet
open Snippet.Token (isSpacing)

/-! ### Outside square brackets -/

/-- Whether a character stands in a text outside all square brackets. -/
def Exposed (c : Char) (text : List Char) : Prop :=
  ∃ front rest, text = front ++ c :: rest ∧ level [.square] 0 front = some 0

section Exposed

variable {c : Char} {kinds : List Bracket} {depth count : Nat} {first second inside : List Char}

theorem Exposed.mem (exposed : Exposed c first) : c ∈ first := by
  obtain ⟨front, rest, rfl, -⟩ := exposed
  simp

/-- Behind a text that closes its square brackets, the others stand as they would alone. -/
theorem exposed_append_iff (closed : level [.square] 0 first = some 0) :
    Exposed c (first ++ second) ↔ Exposed c first ∨ Exposed c second := by
  constructor
  · rintro ⟨front, rest, whole, outside⟩
    rcases List.append_eq_append_iff.mp whole with ⟨more, rfl, onward⟩ | ⟨more, rfl, onward⟩
    · rw [level_append, closed] at outside
      exact .inr ⟨more, rest, onward, outside⟩
    · cases more with
      | nil => exact .inr ⟨[], rest, onward.symm, rfl⟩
      | cons d more =>
          obtain ⟨rfl, -⟩ := List.cons.inj onward
          exact .inl ⟨front, more, rfl, outside⟩
  · rintro (⟨front, rest, rfl, outside⟩ | ⟨front, rest, rfl, outside⟩)
    · exact ⟨front, rest ++ second, by simp, outside⟩
    · refine ⟨first ++ front, rest, by simp, ?_⟩
      rw [level_append, closed]
      exact outside

theorem level_add (read : level kinds depth first = some count) (more : Nat) :
    level kinds (depth + more) first = some (count + more) := by
  induction first generalizing depth with
  | nil =>
      cases read
      rfl
  | cons c first ih =>
      rw [level] at read ⊢
      split at read
      · next opened =>
          rw [if_pos opened, Nat.add_right_comm]
          exact ih read
      · next unopened =>
          rw [if_neg unopened]
          split at read
          · next closed =>
              split at read
              · cases read
              · rw [if_pos closed, if_neg (by omega), Nat.sub_add_comm (by omega)]
                exact ih read
          · next unclosed =>
              rw [if_neg unclosed]
              exact ih read

/-- At the head of a properly nested text no bracket around it is closed. -/
theorem le_level_of_nested (nested : Nested (first ++ second))
    (read : level kinds depth first = some count) : depth ≤ count := by
  have closed := nested.level kinds 0
  rw [level_append] at closed
  obtain ⟨least, outside, -⟩ := Option.bind_eq_some_iff.mp closed
  have shifted := level_add outside depth
  rw [Nat.zero_add, read] at shifted
  obtain rfl := Option.some.inj shifted
  omega

/-- In square brackets nothing stands outside all square brackets. -/
theorem not_exposed_square (nested : Nested inside) (other : isBracket c = false) :
    ¬ Exposed c ('[' :: (inside ++ [']'])) := by
  rintro ⟨front, rest, whole, outside⟩
  cases front with
  | nil =>
      obtain ⟨rfl, -⟩ := List.cons.inj whole
      cases other
  | cons d front =>
      obtain ⟨rfl, onward⟩ := List.cons.inj whole
      rcases List.append_eq_append_iff.mp onward with ⟨more, rfl, closing⟩ | ⟨more, rfl, closing⟩
      · cases more with
        | nil =>
            obtain ⟨rfl, -⟩ := List.cons.inj closing
            cases other
        | cons e more => simp at closing
      · have deep : level [.square] 1 front = some 0 := outside
        have low := le_level_of_nested nested deep
        omega

end Exposed

/-! ### Colons that are left over -/

/-- A text without walruses and, outside square brackets, without braces and the word lambda, behind a
character that stands in front of it. -/
structure Clear (before : Option Char) (text : List Char) : Prop where
  noWalrus : ¬ [':', '='] <:+: text
  noBrace : ¬ Exposed '\x7b' text
  noLambda : ∀ front rest, text = front ++ ("lambda".toList ++ rest) →
    level [.square] 0 front = some 0 → touches (frontOf before front) = false →
    touches rest.head? = true

section Clear

variable {before : Option Char} {first second text : List Char} {tokens : List Token} {surplus : Int}

theorem Clear.behind (clear : Clear before (first ++ second)) (closed : level [.square] 0 first = some 0) :
    Clear (frontOf before first) second where
  noWalrus walrus := clear.noWalrus (walrus.trans (List.suffix_append _ _).isInfix)
  noBrace exposed := clear.noBrace ((exposed_append_iff closed).mpr (.inr exposed))
  noLambda front rest whole outside opened := by
    rw [frontOf_frontOf] at opened
    refine clear.noLambda (first ++ front) rest (by simp [whole]) ?_ opened
    rw [level_append, closed]
    exact outside

/-- In front of a character that does not go on in words. -/
theorem Clear.front {c : Char} (clear : Clear before (first ++ c :: second))
    (outside : isWordCharacter c = false) : Clear before first where
  noWalrus walrus := clear.noWalrus (walrus.trans (List.prefix_append _ _).isInfix)
  noBrace exposed := by
    obtain ⟨front, rest, rfl, closed⟩ := exposed
    exact clear.noBrace ⟨front, rest ++ c :: second, by simp, closed⟩
  noLambda front rest whole closed opened := by
    have goesOn := clear.noLambda front (rest ++ c :: second) (by simp [whole]) closed opened
    cases rest with
    | nil => exact absurd goesOn (by simpa [touches] using outside)
    | cons d rest => exact goesOn

/-- In a clear text only colons are left over, and one that stands outside all square brackets stands
outside all brackets. -/
theorem surplus_of_clear {outer : Bool} (balanced : Balanced outer tokens surplus)
    (within : outer = false) (laid : Lays before tokens text) (clear : Clear before text) :
    0 ≤ surplus ∧ (Exposed ':' text → 0 < surplus) := by
  have noColon {gap : List Char} (spaces : ∀ c ∈ gap, isSpacing c = true) : ¬ Exposed ':' gap :=
    fun exposed => absurd (spaces _ exposed.mem) (by decide)
  induction balanced generalizing before text with
  | nil => exact ⟨le_rfl, fun exposed => absurd exposed (noColon laid.spaces)⟩
  | keep keeps _ ih =>
      obtain ⟨gap, shown, rest, rfl, spaces, shows, onward⟩ := laid.exists_first
      obtain ⟨nested, colons⟩ := shows.spec_of_keeps keeps
      have nestedGap := nested_of_isSpacing spaces
      have closed := (nestedGap.append nested).level [.square] 0
      rw [← List.append_assoc] at clear
      obtain ⟨least, more⟩ := ih within onward (clear.behind closed)
      refine ⟨least, fun exposed => more ?_⟩
      rw [exposed_append_iff (nestedGap.level _ _), exposed_append_iff (nested.level _ _)] at exposed
      refine (exposed.resolve_left (noColon spaces)).resolve_left fun exposed => ?_
      rw [colons exposed.mem] at clear
      exact clear.noWalrus ⟨gap, rest, by simp⟩
  | colon _ ih =>
      obtain ⟨gap, shown, rest, rfl, spaces, shows, onward⟩ := laid.exists_first
      obtain rfl := Shown.eq_of_counted (c := ':') shows (.inr rfl)
      have closed := ((nested_of_isSpacing spaces).append (.plain (c := ':') rfl .nil)).level [.square] 0
      rw [← List.append_assoc] at clear
      obtain ⟨least, -⟩ := ih within onward (clear.behind closed)
      omega
  | lambda _ _ =>
      obtain ⟨gap, shown, rest, rfl, spaces, shows, -⟩ := laid.exists_first
      obtain ⟨rfl, opened, ends⟩ := shows.eq_lambda
      have goesOn := clear.noLambda gap rest rfl ((nested_of_isSpacing spaces).level _ _) opened
      rw [ends] at goesOn
      cases goesOn
  | @group outer kind inside rest inner surplus content fits tail ihContent ihTail =>
      obtain ⟨gap, group, others, rfl, spaces, contentLaid, tailLaid⟩ := laid.exists_group
      have nestedGap := nested_of_isSpacing spaces
      have nested := nested_of_balanced content contentLaid
      have closed := (nestedGap.append (.group kind nested .nil)).level [.square] 0
      have whole : gap ++ kind.opening :: (group ++ kind.closing :: others) =
          (gap ++ kind.opening :: (group ++ [kind.closing])) ++ others := by simp
      have clearTail := clear
      rw [whole] at clearTail
      have clearTail := clearTail.behind closed
      have last : frontOf before (gap ++ kind.opening :: (group ++ [kind.closing])) =
          some kind.closing := by
        rw [← List.cons_append, ← List.append_assoc, frontOf_concat]
      rw [last] at clearTail
      obtain ⟨least, more⟩ := ihTail within tailLaid clearTail
      refine ⟨least, fun exposed => more ?_⟩
      rw [whole, exposed_append_iff closed, exposed_append_iff (nestedGap.level _ _)] at exposed
      refine exposed.resolve_left (not_or.mpr ⟨noColon spaces, fun exposed => ?_⟩)
      cases kind with
      | curly => exact clear.noBrace ⟨gap, _, rfl, nestedGap.level _ _⟩
      | square => exact not_exposed_square nested rfl exposed
      | round =>
          have opened : level [.square] 0 (gap ++ ['(']) = some 0 := by
            rw [level_append, nestedGap.level, Option.bind_some]
            rfl
          rw [List.append_cons] at clear
          have clearGroup := (clear.behind opened).front rfl
          rw [frontOf_concat] at clearGroup
          have counted := (ihContent rfl contentLaid clearGroup).2
          have inGroup : Exposed ':' group := by
            rw [← List.singleton_append, exposed_append_iff rfl,
              exposed_append_iff (nested.level _ _)] at exposed
            rcases exposed with opening | inside | closing
            · exact absurd opening.mem (by decide)
            · exact inside
            · exact absurd closing.mem (by decide)
          rw [fits within rfl] at counted
          exact absurd (counted inGroup) (lt_irrefl 0)

end Clear

/-! ### What the pattern takes -/

/-- Whether a word stands in a text on its own. -/
def HoldsWord (shown : List Char) (text : List Char) : Prop :=
  ∃ left right, text = left ++ (shown ++ right) ∧ Apart left right

/-- A bound as the pattern reads one: on one line, without braces and the word lambda, and with square
brackets that hold no further ones. -/
structure IsPlainBound (bound : List Char) : Prop where
  pieces : Pieces (· ∉ "[]\x7b\x7d\n".toList)
    (fun kind inside => kind = .square ∧ ∀ c ∈ inside, c ∉ "[]\n".toList) bound
  noLambda : ¬ HoldsWord "lambda".toList bound

/-- A subscript with bounds as the pattern reads one: behind a word, a bracket or a string, with blanks
and tabs between them. -/
structure IsPlainSubscript (front first second : List Char) : Prop where
  behind : ∃ early c gap, front = early ++ c :: gap ∧
    (isWordCharacter c || c == ')' || c == ']' || c == '"') = true ∧ ∀ d ∈ gap, isGap d = true
  lower : IsPlainBound first
  upper : IsPlainBound second

section Takes

variable {before : Option Char} {taken others rest : List Char} {c : Char}

/-- Whether the word lambda begins at a place. -/
def LambdaAt (before : Option Char) (text : List Char) : Prop :=
  ∃ rest, text = "lambda".toList ++ rest ∧ touches before = false ∧ touches rest.head? = false

theorem takes_notBefore_lambda :
    Takes (notBefore (word "lambda")) before taken rest ↔ taken = [] ∧ ¬ LambdaAt before rest := by
  rw [Takes]
  refine and_congr_right fun _ => not_congr ?_
  constructor
  · rintro ⟨stretch, left, rfl, found⟩
    obtain ⟨rfl, opened, closed⟩ := (takes_word_iff (by decide) (by decide)).mp found
    exact ⟨left, rfl, opened, closed⟩
  · rintro ⟨left, rfl, opened, closed⟩
    exact ⟨_, left, rfl, (takes_word_iff (by decide) (by decide)).mpr ⟨rfl, opened, closed⟩⟩

theorem takes_subscriptAtom : Takes subscriptAtom before taken rest ↔
    ¬ LambdaAt before (taken ++ rest) ∧
      ((∃ c, taken = [c] ∧ c ∉ "[]\x7b\x7d\n".toList) ∨
        ∃ inside, taken = '[' :: (inside ++ [']']) ∧ ∀ c ∈ inside, c ∉ "[]\n".toList) := by
  rw [subscriptAtom, Takes]
  constructor
  · rintro ⟨_, back, rfl, notLambda, found⟩
    obtain ⟨rfl, free⟩ := takes_notBefore_lambda.mp notLambda
    refine ⟨free, ?_⟩
    rcases found with single | group
    · exact .inl (takes_noneOf.mp single)
    · exact .inr (takes_flatGroup.mp group)
  · rintro ⟨free, found⟩
    refine ⟨[], taken, rfl, takes_notBefore_lambda.mpr ⟨rfl, free⟩, ?_⟩
    rcases found with single | group
    · exact .inl (takes_noneOf.mpr single)
    · exact .inr (takes_flatGroup.mpr group)

/-- A subscript is taken with what stands in front of its bracket. -/
theorem takes_slice : Takes slice.pattern before taken rest ↔
    before.any (fun c => isWordCharacter c || c == ')' || c == ']' || c == '"') = true ∧
      ∃ gap first second, taken = gap ++ '[' :: (first ++ ':' :: (second ++ [']'])) ∧
        (∀ c ∈ gap, isGap c = true) ∧
        Repeats (Takes subscriptAtom) (some '[') first (':' :: (second ++ ']' :: rest)) ∧
        Repeats (Takes subscriptAtom) (some ':') second (']' :: rest) := by
  constructor
  · intro found
    obtain ⟨_, _, rfl, ⟨rfl, fits⟩, found⟩ := takes_seq_cons.mp found
    obtain ⟨gap, _, rfl, isGap, found⟩ := takes_seq_cons.mp found
    obtain ⟨_, _, rfl, opened, found⟩ := takes_seq_cons.mp found
    obtain ⟨first, _, rfl, lower, found⟩ := takes_seq_cons.mp found
    obtain ⟨_, _, rfl, colon, found⟩ := takes_seq_cons.mp found
    obtain ⟨second, _, rfl, upper, closed⟩ := takes_seq_cons.mp found
    rw [takes_literal] at opened colon
    rw [seq, takes_literal] at closed
    subst opened colon closed
    refine ⟨fits, gap, first, second, rfl, takes_many_char.mp isGap, ?_, ?_⟩
    · simpa [Takes] using lower
    · simpa [Takes] using upper
  · rintro ⟨fits, gap, first, second, rfl, isGap, lower, upper⟩
    refine takes_seq_cons.mpr ⟨[], _, rfl, ⟨rfl, fits⟩, ?_⟩
    refine takes_seq_cons.mpr ⟨gap, _, rfl, takes_many_char.mpr isGap, ?_⟩
    refine takes_seq_cons.mpr ⟨['['], _, rfl, takes_literal.mpr rfl, ?_⟩
    refine takes_seq_cons.mpr ⟨first, _, rfl, ?_, ?_⟩
    · simpa [Takes] using lower
    refine takes_seq_cons.mpr ⟨[':'], _, rfl, takes_literal.mpr rfl, ?_⟩
    refine takes_seq_cons.mpr ⟨second, _, rfl, ?_, takes_literal.mpr rfl⟩
    simpa [Takes] using upper

/-- A piece closes its square brackets, is outside of them only where it begins, and begins with no
brace. -/
theorem spec_of_atom (atom : (∃ c, taken = [c] ∧ c ∉ "[]\x7b\x7d\n".toList) ∨
      ∃ inside, taken = '[' :: (inside ++ [']']) ∧ ∀ c ∈ inside, c ∉ "[]\n".toList) :
    level [.square] 0 taken = some 0 ∧
      (∀ front more, taken = front ++ more → more ≠ [] → level [.square] 0 front = some 0 →
        front = []) ∧ taken.head? ≠ some '\x7b' := by
  rcases atom with ⟨c, rfl, other⟩ | ⟨inside, rfl, free⟩
  · refine ⟨?_, ?_, ?_⟩
    · refine level_of_none fun d member => ?_
      obtain rfl := List.mem_singleton.mp member
      have all : ∀ e ∈ "[]".toList, e ∈ "[]\x7b\x7d\n".toList := by decide
      exact (uncounted_square d).mpr fun square => other (all d square)
    · intro front more whole filled _
      rcases List.append_eq_singleton_iff.mp whole.symm with ⟨rfl, -⟩ | ⟨-, rfl⟩
      · rfl
      · exact absurd rfl filled
    · rintro head
      obtain rfl := Option.some.inj head
      exact other (by decide)
  · have all : ∀ e ∈ "[]".toList, e ∈ "[]\n".toList := by decide
    have flat : ∀ d ∈ inside, Uncounted [.square] d := fun d member =>
      (uncounted_square d).mpr fun square => free d member (all d square)
    refine ⟨?_, ?_, ?_⟩
    · change level [.square] 1 (inside ++ [']']) = some 0
      rw [level_append, level_of_none flat]
      rfl
    · intro front more whole filled outside
      cases front with
      | nil => rfl
      | cons d front =>
          obtain ⟨rfl, onward⟩ := List.cons.inj whole
          change inside ++ [']'] = front ++ more at onward
          rcases List.eq_nil_or_concat' more with rfl | ⟨early, e, rfl⟩
          · exact absurd rfl filled
          · rw [← List.append_assoc] at onward
            obtain ⟨rfl, -⟩ := List.append_inj' onward rfl
            have deep : level [.square] 1 front = some 0 := outside
            rw [level_of_none fun d member => flat d (List.mem_append_left _ member)] at deep
            cases deep
    · intro head
      cases head

/-- What is taken piece by piece closes its square brackets, and outside of them no brace stands in it
and no word lambda begins. -/
theorem spec_of_repeats (repeats : Repeats (Takes subscriptAtom) before taken rest) :
    level [.square] 0 taken = some 0 ∧ ∀ front back, taken = front ++ back → back ≠ [] →
      level [.square] 0 front = some 0 →
        back.head? ≠ some '\x7b' ∧ ¬ LambdaAt (frontOf before front) (back ++ rest) := by
  induction repeats with
  | done => exact ⟨rfl, fun front back whole filled =>
      absurd (List.append_eq_nil_iff.mp whole.symm).2 filled⟩
  | @more before first others rest head tail ih =>
      obtain ⟨free, atom⟩ := takes_subscriptAtom.mp head
      obtain ⟨closed, atStart, noBrace⟩ := spec_of_atom atom
      obtain ⟨closedOthers, later⟩ := ih
      refine ⟨by rw [level_append, closed, Option.bind_some, closedOthers], ?_⟩
      intro front back whole filled outside
      have behind (more : List Char) (whole : others = more ++ back)
          (same : front = first ++ more) : back.head? ≠ some '\x7b' ∧
            ¬ LambdaAt (frontOf before front) (back ++ rest) := by
        rw [same, level_append, closed] at outside
        rw [same, ← frontOf_frontOf]
        exact later more back whole filled outside
      rcases List.append_eq_append_iff.mp whole with ⟨more, same, onward⟩ | ⟨more, same, rfl⟩
      · exact behind more onward same
      · cases more with
        | nil => exact behind [] rfl (by simpa using same.symm)
        | cons d more =>
            obtain rfl := atStart _ _ same (List.cons_ne_nil _ _) outside
            rw [List.nil_append] at same
            subst same
            exact ⟨noBrace, by simpa using free⟩

/-- What is taken in front of a bracket or a colon is clear. -/
theorem clear_of_repeats (repeats : Repeats (Takes subscriptAtom) before taken (c :: rest))
    (ends : isWordCharacter c = false) (noWalrus : ¬ [':', '='] <:+: taken) : Clear before taken where
  noWalrus := noWalrus
  noBrace := by
    rintro ⟨front, back, whole, outside⟩
    exact ((spec_of_repeats repeats).2 front _ whole (List.cons_ne_nil _ _) outside).1 rfl
  noLambda front back whole outside opened := by
    have free := ((spec_of_repeats repeats).2 front _ whole (by simp) outside).2
    rw [← Bool.not_eq_false]
    intro closed
    refine free ⟨back ++ c :: rest, List.append_assoc _ _ _, opened, ?_⟩
    cases back with
    | nil => exact ends
    | cons d back => exact closed

/-- A text of characters and square brackets is taken piece by piece if no word lambda begins in it. -/
theorem repeats_of_pieces (pieces : Pieces (· ∉ "[]\x7b\x7d\n".toList)
      (fun kind inside => kind = .square ∧ ∀ c ∈ inside, c ∉ "[]\n".toList) taken)
    (free : ∀ left right, taken = left ++ right → right ≠ [] →
      ¬ LambdaAt (frontOf before left) (right ++ rest)) :
    Repeats (Takes subscriptAtom) before taken rest := by
  induction pieces generalizing before with
  | nil => exact .done before rest
  | @plain c tail other _ ih =>
      have head : Takes subscriptAtom before [c] (tail ++ rest) :=
        takes_subscriptAtom.mpr ⟨free [] _ rfl (List.cons_ne_nil _ _), .inl ⟨c, rfl, other⟩⟩
      refine .more head (ih fun left right whole filled => ?_)
      rw [frontOf_frontOf]
      exact free ([c] ++ left) right (by simp [whole]) filled
  | @group kind inside tail content _ ih =>
      obtain ⟨rfl, flat⟩ := content
      have head : Takes subscriptAtom before ('[' :: (inside ++ [']'])) (tail ++ rest) := by
        refine takes_subscriptAtom.mpr ⟨?_, .inr ⟨inside, rfl, flat⟩⟩
        have start := free [] _ rfl (List.cons_ne_nil _ _)
        simpa [Bracket.opening, Bracket.closing] using start
      have others : Repeats (Takes subscriptAtom) (frontOf before ('[' :: (inside ++ [']']))) tail rest := by
        refine ih fun left right whole filled => ?_
        rw [frontOf_frontOf]
        exact free ('[' :: (inside ++ [']']) ++ left) right
          (by simp [whole, Bracket.opening, Bracket.closing]) filled
      have joined := Repeats.more head others
      simpa [Bracket.opening, Bracket.closing] using joined

theorem repeats_of_isPlainBound (plain : IsPlainBound taken) (ends : c ∉ "lambda".toList) :
    Repeats (Takes subscriptAtom) before taken (c :: rest) := by
  refine repeats_of_pieces plain.pieces ?_
  rintro left right rfl - ⟨more, whole, opened, closed⟩
  -- The word ends in front of the character behind the bound.
  have within : ∃ tail, right = "lambda".toList ++ tail ∧ touches tail.head? = false := by
    rcases List.append_eq_append_iff.mp whole with ⟨tail, word, onward⟩ | ⟨tail, rfl, onward⟩
    · cases tail with
      | nil => exact ⟨[], by simpa using word.symm, rfl⟩
      | cons d tail =>
          obtain ⟨rfl, -⟩ := List.cons.inj onward
          exact absurd (word ▸ List.mem_append_right _ List.mem_cons_self) ends
    · refine ⟨tail, rfl, ?_⟩
      cases tail with
      | nil => rfl
      | cons d tail =>
          rw [onward] at closed
          exact closed
  obtain ⟨tail, rfl, apart⟩ := within
  refine plain.noLambda ⟨left, tail, rfl, ?_, apart⟩
  cases left with
  | nil => rfl
  | cons d left =>
      rw [frontOf_of_ne_nil _ (List.cons_ne_nil _ _)] at opened
      exact opened

end Takes

/-! ### Slices of a module -/

section Module

variable {snippet : String} {tree : Tree}

theorem holdsBound_of_occursIn {tokens : List Token} {text : List Char} {after : Tally}
    (laid : Lays none tokens text) (run : Tally.start.run? tokens = some after)
    (done : after.frames = [])
    (noWalrus : ∀ front inside behind, text = front ++ '[' :: (inside ++ ']' :: behind) →
      Nested inside → ¬ [':', '='] <:+: inside)
    (found : slice.pattern.occursIn text = true) : HoldsBound tokens := by
  obtain ⟨front, taken, rest, rfl, taken_slice⟩ := (occursIn_iff _ _).mp found
  obtain ⟨-, gap, first, second, rfl, -, lower, upper⟩ := takes_slice.mp taken_slice
  have whole : front ++ (gap ++ '[' :: (first ++ ':' :: (second ++ [']'])) ++ rest) =
      (front ++ gap) ++ '[' :: ((first ++ ':' :: second) ++ ']' :: rest) := by simp
  rw [whole] at laid noWalrus
  obtain ⟨early, late, rfl, onward⟩ := laid.exists_square
  rw [Tally.run?_append] at run
  obtain ⟨start, -, run⟩ := Option.bind_eq_some_iff.mp run
  obtain ⟨next, step, run⟩ := run?_cons.mp run
  obtain ⟨inside, others, surplus, -, rfl, balanced, -⟩ :=
    exists_balanced (next?_opening .square step).1 run done
  refine ⟨early, inside, others, surplus, rfl, balanced, ?_⟩
  obtain ⟨content, behind, same, laidInside, -⟩ := Lays.split (c := ']') onward (.inl rfl)
  have nested := nested_of_balanced balanced laidInside
  -- The colon itself is a piece, so both bounds are taken as one stretch.
  have colon : Takes subscriptAtom (frontOf (some '[') first) [':'] (second ++ ']' :: rest) := by
    refine takes_subscriptAtom.mpr ⟨?_, .inl ⟨':', rfl, by decide⟩⟩
    rintro ⟨_, word, -⟩
    cases word
  have bounds : Repeats (Takes subscriptAtom) (some '[') (first ++ ([':'] ++ second)) (']' :: rest) :=
    lower.append (.more colon upper)
  obtain ⟨rfl, -⟩ :=
    eq_of_closing (nested.level [.square] 0) (spec_of_repeats bounds).1 same.symm
  have clear := clear_of_repeats bounds rfl (noWalrus _ _ _ rfl nested)
  exact (surplus_of_clear balanced rfl laidInside clear).2
    ⟨first, second, rfl, (spec_of_repeats lower).1⟩

theorem occursIn_of_holdsBound {tokens : List Token} {text : List Char}
    (laid : Lays none tokens text)
    (plain : ∀ front first second behind,
      text = front ++ '[' :: (first ++ ':' :: (second ++ ']' :: behind)) → Nested first →
      Nested second → IsPlainSubscript front first second)
    (held : HoldsBound tokens) : slice.pattern.occursIn text = true := by
  obtain ⟨early, inside, late, surplus, rfl, balanced, left⟩ := held
  obtain ⟨first, second, _, _, rfl, balancedFirst, balancedSecond⟩ := balanced.exists_colon left
  obtain ⟨front, _, rfl, -, onward⟩ := Lays.split (c := '[') laid (.inl rfl)
  obtain ⟨_, behind, rfl, content, -⟩ := Lays.split (c := ']') onward (.inl rfl)
  obtain ⟨lower, upper, rfl, laidLower, laidUpper⟩ := Lays.split (c := ':') content (.inr rfl)
  have subscript := plain front lower upper behind (by simp)
    (nested_of_balanced balancedFirst laidLower) (nested_of_balanced balancedSecond laidUpper)
  obtain ⟨start, c, gap, rfl, fits, isGap⟩ := subscript.behind
  refine (occursIn_iff _ _).mpr ⟨start ++ [c], gap ++ '[' :: (lower ++ ':' :: (upper ++ [']'])), behind,
    by simp, takes_slice.mpr ⟨?_, gap, lower, upper, rfl, isGap, ?_, ?_⟩⟩
  · rw [List.getLast?_concat]
    exact fits
  · exact repeats_of_isPlainBound subscript.lower (by decide)
  · exact repeats_of_isPlainBound subscript.upper (by decide)

/-- Slices are detected in a module exactly if its tree holds one, provided that lines do not end with
a carriage return, no walrus stands in square brackets, and every colon that stands in square brackets
outside of all others is one of a subscript as the pattern reads it. -/
theorem isDetected_slice_iff (parsed : Tree.parse? .module snippet = some tree)
    (noReturn : '\r' ∉ snippet.toList)
    (noWalrus : ∀ front inside behind,
      outline snippet.toList = front ++ '[' :: (inside ++ ']' :: behind) → Nested inside →
      ¬ [':', '='] <:+: inside)
    (plain : ∀ front first second behind,
      outline snippet.toList = front ++ '[' :: (first ++ ':' :: (second ++ ']' :: behind)) →
      Nested first → Nested second → IsPlainSubscript front first second) :
    isDetected "slice" snippet = tree.hasSlice := by
  obtain ⟨tokens, laid, run, -⟩ := exists_lays_of_parse? noReturn parsed
  obtain ⟨surplus, balanced⟩ := exists_balanced_outside (show Tally.start.frames = [] from rfl) run rfl
  have held : tree.hasSlice = true ↔ HoldsBound tokens := by
    rw [← slices_iff_of_balanced balanced run rfl]
    simp [Tally.hold, Tally.start]
  rw [Bool.eq_iff_iff, held]
  constructor
  · exact holdsBound_of_occursIn laid run rfl noWalrus
  · exact occursIn_of_holdsBound laid plain

/-- A slice of what a call gives. -/
theorem isDetected_slice_call :
    isDetected "slice" "f(x)[a:b]" = true ∧
      ∃ tree, Tree.parse? .module "f(x)[a:b]" = some tree ∧ tree.hasSlice = true := by
  have detected : isDetected "slice" "f(x)[a:b]" = true := by decide +kernel
  have parses : (Tree.parse? .module "f(x)[a:b]").isSome = true := by decide +kernel
  have kept : outline "f(x)[a:b]".toList = "f(x)[a:b]".toList := by decide +kernel
  have letter (c : Char) (other : c ∉ "[]\x7b\x7d\n".toList) : IsPlainBound [c] := by
    refine ⟨.plain other .nil, ?_⟩
    rintro ⟨left, right, same, -⟩
    have long := congrArg List.length same
    simp at long
    omega
  obtain ⟨tree, parsed⟩ := Option.isSome_iff_exists.mp parses
  refine ⟨detected, tree, parsed, ?_⟩
  rw [← isDetected_slice_iff parsed (by decide +kernel) ?_ ?_, detected]
  · rintro front inside behind whole - ⟨early, late, walrus⟩
    rw [kept] at whole
    have member : '=' ∈ "f(x)[a:b]".toList := by
      rw [whole, ← walrus]
      simp
    exact absurd member (by decide)
  · intro front first second behind whole _ _
    rw [kept] at whole
    obtain ⟨rfl, bounds⟩ : front = "f(x)".toList ∧
        first ++ ':' :: (second ++ ']' :: behind) = "a:b]".toList := by
      simpa [List.cons_eq_append_iff] using whole
    obtain ⟨early, rfl, onward⟩ : ∃ early, first = 'a' :: early ∧
        ":b]".toList = early ++ ':' :: (second ++ ']' :: behind) := by
      simpa [List.append_eq_cons_iff] using bounds
    obtain ⟨rfl, upper⟩ : early = [] ∧ second ++ ']' :: behind = "b]".toList := by
      simpa [List.cons_eq_append_iff] using onward
    obtain ⟨late, rfl, ends⟩ : ∃ late, second = 'b' :: late ∧ [']'] = late ++ ']' :: behind := by
      simpa [List.append_eq_cons_iff] using upper
    obtain ⟨rfl, -⟩ : late = [] ∧ behind = [] := by
      simpa [List.cons_eq_append_iff] using ends
    exact ⟨⟨"f(x".toList, ')', [], rfl, rfl, List.forall_mem_nil _⟩, letter 'a' (by decide),
      letter 'b' (by decide)⟩

/-- A subscript with two more in its lower bound is overlooked. -/
theorem isDetected_slice_nested :
    (Tree.parse? .module "x[a[b[0]]:1]").map (·.hasSlice) = some true ∧
      isDetected "slice" "x[a[b[0]]:1]" = false := by
  constructor
  · decide +kernel
  · decide +kernel

end Module

end Construct
end AnswerKey
