import AnswerKey.Proofs.Construct.Matching
import AnswerKey.Proofs.Construct.Nesting

namespace AnswerKey
namespace Construct

/-!
Loops in brackets.

A comprehension is looked for as a pair of square or curly brackets whose content reads as a loop at
its own level, and a generator as such a pair of round ones.  In a properly nested text a pattern
finds nothing else: wherever a match begins, its pieces are the pieces of the text, so it ends at the
partner of the bracket it begins with.  It does not find every such pair, because it looks into the
groups of a loop only so deep.
-/

open Text Pattern

/-! ### Loops -/

/-- Whether a word can stand between two texts: no word character touches it. -/
def Apart (left right : List Char) : Prop :=
  left.getLast?.any isWordCharacter = false ∧ right.head?.any isWordCharacter = false

/-- A text that reads as a loop: something for targets in a source.  The rule tells what the three
parts may be; none of them is empty, and both words are whole. -/
def IsLoop (part : List Char → Prop) (inside : List Char) : Prop :=
  ∃ element targets source,
    inside = element ++ ("for".toList ++ (targets ++ ("in".toList ++ source))) ∧
      (part element ∧ element ≠ []) ∧ (part targets ∧ targets ≠ []) ∧
      (part source ∧ source ≠ []) ∧ Apart element targets ∧ Apart targets source

/-- A text with a pair of brackets, of one of some kinds, whose content reads as a loop. -/
def HoldsLoop (kinds : List Bracket) (part : List Char → Prop) (text : List Char) : Prop :=
  ∃ kind ∈ kinds, ∃ front inside behind,
    text = front ++ kind.opening :: (inside ++ kind.closing :: behind) ∧ Nested inside ∧
      IsLoop part inside

section Mono

variable {part part' : List Char → Prop} (weaker : ∀ text, part text → part' text)

include weaker

theorem IsLoop.mono {inside : List Char} (loop : IsLoop part inside) : IsLoop part' inside := by
  obtain ⟨element, targets, source, whole, first, second, third, apart⟩ := loop
  exact ⟨element, targets, source, whole, ⟨weaker _ first.1, first.2⟩,
    ⟨weaker _ second.1, second.2⟩, ⟨weaker _ third.1, third.2⟩, apart⟩

theorem HoldsLoop.mono {kinds : List Bracket} {text : List Char}
    (holds : HoldsLoop kinds part text) : HoldsLoop kinds part' text := by
  obtain ⟨kind, member, front, inside, behind, whole, nested, loop⟩ := holds
  exact ⟨kind, member, front, inside, behind, whole, nested, loop.mono weaker⟩

end Mono

/-! ### Groups that are looked into -/

/-- What a generator may have in a group of brackets: no brackets of the same kind. -/
def generatorReach (kind : Bracket) (inside : List Char) : Prop :=
  Within [kind] 0 inside

/-- What a comprehension may have in a group of brackets: in round ones round ones again, but these
hold no further ones, and in square or curly ones neither of these. -/
def comprehensionReach : Bracket → List Char → Prop
  | .round, inside => Within [.round] 1 inside
  | _, inside => Within [.square, .curly] 0 inside

theorem level_of_generatorReach (kind : Bracket) (inside : List Char)
    (reached : generatorReach kind inside) : level [kind] 0 inside = some 0 :=
  Within.level reached

theorem level_of_comprehensionReach (kind : Bracket) (inside : List Char)
    (reached : comprehensionReach kind inside) : level [kind] 0 inside = some 0 := by
  have absent (reached : Within [.square, .curly] 0 inside) (member : kind ∈ [.square, .curly]) :
      level [kind] 0 inside = some 0 := by
    apply level_of_none
    intro c inText
    have uncounted := within_zero_iff.mp reached c inText
    simp only [Uncounted, opens, closes, List.any_eq_false] at uncounted ⊢
    constructor
    · intro other same
      exact uncounted.1 other (List.mem_singleton.mp same ▸ member)
    · intro other same
      exact uncounted.2 other (List.mem_singleton.mp same ▸ member)
  cases kind with
  | round => exact Within.level reached
  | square => exact absent reached (by decide)
  | curly => exact absent reached (by decide)

/-! ### What the patterns take -/

section Takes

variable {before : Option Char} {taken rest : List Char}

theorem takes_noneOf {characters : String} : Takes (noneOf characters) before taken rest ↔
    ∃ c, taken = [c] ∧ c ∉ characters.toList := by
  simp [noneOf, Takes]

theorem takes_many_noneOf {characters : String} :
    Takes (many (noneOf characters)) before taken rest ↔ ∀ c ∈ taken, c ∉ characters.toList := by
  rw [noneOf, takes_many_char]
  simp

theorem takes_flatGroup {opening excluded closing : String} :
    Takes (flatGroup opening excluded closing) before taken rest ↔
      ∃ inside, taken = opening.toList ++ (inside ++ closing.toList) ∧
        ∀ c ∈ inside, c ∉ excluded.toList := by
  rw [flatGroup, takes_seq_cons]
  constructor
  · rintro ⟨_, _, rfl, opened, within⟩
    obtain ⟨inside, _, rfl, free, closed⟩ := takes_seq_cons.mp within
    rw [takes_literal] at opened
    rw [seq, takes_literal] at closed
    exact ⟨inside, by rw [opened, closed], takes_many_noneOf.mp free⟩
  · rintro ⟨inside, rfl, free⟩
    exact ⟨_, _, rfl, takes_literal.mpr rfl,
      takes_seq_cons.mpr ⟨inside, _, rfl, takes_many_noneOf.mpr free, takes_literal.mpr rfl⟩⟩

/-- The characters that no bracket of some kinds is, as a list of characters to leave out. -/
theorem forall_uncounted_iff {kinds : List Bracket} {characters : String}
    (same : ∀ c, Uncounted kinds c ↔ c ∉ characters.toList) {text : List Char} :
    Within kinds 0 text ↔ ∀ c ∈ text, c ∉ characters.toList := by
  rw [within_zero_iff]
  exact forall₂_congr fun c _ => same c

theorem uncounted_round (c : Char) : Uncounted [.round] c ↔ c ∉ "()".toList := by
  simp [uncounted_iff, Bracket.opening, Bracket.closing]

theorem uncounted_square (c : Char) : Uncounted [.square] c ↔ c ∉ "[]".toList := by
  simp [uncounted_iff, Bracket.opening, Bracket.closing]

theorem uncounted_curly (c : Char) : Uncounted [.curly] c ↔ c ∉ "\x7b\x7d".toList := by
  simp [uncounted_iff, Bracket.opening, Bracket.closing]

theorem uncounted_square_curly (c : Char) :
    Uncounted [.square, .curly] c ↔ c ∉ "[]\x7b\x7d".toList := by
  simp [uncounted_iff, Bracket.opening, Bracket.closing, and_assoc]

theorem not_isBracket_iff (c : Char) : isBracket c = false ↔ c ∉ "()[]\x7b\x7d".toList := by
  rw [isBracket, ← Bool.not_eq_true, List.contains_iff_mem]

/-- What holds of some kind of bracket holds of one of the three. -/
theorem exists_bracket {holds : Bracket → Prop} :
    (∃ kind, holds kind) ↔ holds .round ∨ holds .square ∨ holds .curly := by
  constructor
  · rintro ⟨_ | _ | _, found⟩
    · exact .inl found
    · exact .inr (.inl found)
    · exact .inr (.inr found)
  · rintro (found | found | found)
    all_goals exact ⟨_, found⟩

/-- An atom of a generator is a character that is no bracket, or a group. -/
theorem takes_generatorAtom : Takes generatorAtom before taken rest ↔
    IsPiece (isBracket · = false) generatorReach taken := by
  simp only [generatorAtom, oneOf, Takes, takes_noneOf, takes_flatGroup, IsPiece, exists_bracket,
    not_isBracket_iff, generatorReach, forall_uncounted_iff uncounted_round,
    forall_uncounted_iff uncounted_square, forall_uncounted_iff uncounted_curly]
  rfl

/-- Repetitions of pieces. -/
theorem takes_many_of_isPiece {atom : Pattern} {plain : Char → Prop}
    {reached : Bracket → List Char → Prop}
    (pieces : ∀ before taken rest, Takes atom before taken rest ↔ IsPiece plain reached taken) :
    Takes (many atom) before taken rest ↔ Pieces plain reached taken := by
  rw [Takes, repeats_iff_of_plain _ _ pieces, Pieces.iff_flatten]

/-- One piece or more. -/
theorem takes_oneOrMore_of_isPiece {atom : Pattern} {plain : Char → Prop}
    {reached : Bracket → List Char → Prop}
    (pieces : ∀ before taken rest, Takes atom before taken rest ↔ IsPiece plain reached taken) :
    Takes (oneOrMore atom) before taken rest ↔ Pieces plain reached taken ∧ taken ≠ [] := by
  constructor
  · rintro ⟨first, others, rfl, head, tail⟩
    have isPiece := (pieces _ _ _).mp head
    refine ⟨(Pieces.of_isPiece isPiece).append ((takes_many_of_isPiece pieces).mp tail), ?_⟩
    rcases isPiece with ⟨c, rfl, -⟩ | ⟨kind, inside, rfl, -⟩ <;> exact List.cons_ne_nil _ _
  · rintro ⟨stretch, filled⟩
    obtain ⟨_ | ⟨piece, others⟩, rfl, all⟩ := Pieces.iff_flatten.mp stretch
    · exact absurd rfl filled
    · rw [List.forall_mem_cons] at all
      exact ⟨piece, others.flatten, rfl, (pieces _ _ _).mpr all.1,
        (takes_many_of_isPiece pieces).mpr (Pieces.iff_flatten.mpr ⟨others, rfl, all.2⟩)⟩

/-- The round brackets of a comprehension hold round brackets without further ones. -/
theorem takes_roundGroup :
    Takes (seq [literal "(", many (either (noneOf "()") (flatGroup "(" "()" ")")), literal ")"])
      before taken rest ↔
    ∃ inside, taken = '(' :: (inside ++ [')']) ∧ Within [.round] 1 inside := by
  have pieces (before : Option Char) (taken rest : List Char) :
      Takes (either (noneOf "()") (flatGroup "(" "()" ")")) before taken rest ↔
        IsPiece (Uncounted [.round])
          (fun kind inside => kind ∈ [.round] ∧ Within [.round] 0 inside) taken := by
    simp only [Takes, takes_noneOf, takes_flatGroup, IsPiece, exists_bracket, uncounted_round,
      forall_uncounted_iff uncounted_round]
    simp [Bracket.opening, Bracket.closing]
  rw [takes_seq_cons]
  constructor
  · rintro ⟨_, _, rfl, opened, within⟩
    obtain ⟨inside, _, rfl, found, closed⟩ := takes_seq_cons.mp within
    rw [takes_literal] at opened
    rw [seq, takes_literal] at closed
    exact ⟨inside, by rw [opened, closed]; rfl, (takes_many_of_isPiece pieces).mp found⟩
  · rintro ⟨inside, rfl, found⟩
    exact ⟨['('], inside ++ [')'], rfl, takes_literal.mpr rfl, takes_seq_cons.mpr
      ⟨inside, [')'], rfl, (takes_many_of_isPiece pieces).mpr found, takes_literal.mpr rfl⟩⟩

/-- An atom of a comprehension is a character that is no bracket, or a group. -/
theorem takes_comprehensionAtom : Takes comprehensionAtom before taken rest ↔
    IsPiece (isBracket · = false) comprehensionReach taken := by
  rw [comprehensionAtom, oneOf, oneOf, oneOf]
  simp only [oneOf, Takes, takes_noneOf, takes_flatGroup, takes_roundGroup, IsPiece,
    exists_bracket, not_isBracket_iff, comprehensionReach,
    forall_uncounted_iff uncounted_square_curly]
  rfl

/-- A word is taken where no word character touches it. -/
theorem takes_word_iff {shown : String} (filled : shown.toList ≠ [])
    (within : ∀ c ∈ shown.toList, isWordCharacter c = true) :
    Takes (word shown) before taken rest ↔ taken = shown.toList ∧
      before.any isWordCharacter = false ∧ rest.head?.any isWordCharacter = false := by
  rw [takes_word]
  refine and_congr_right fun same => ?_
  subst same
  have first : (shown.toList ++ rest).head?.any isWordCharacter = true := by
    cases characters : shown.toList with
    | nil => exact absurd characters filled
    | cons c others => exact within c (characters ▸ List.mem_cons_self)
  have last : (frontOf before shown.toList).any isWordCharacter = true := by
    rw [frontOf_of_ne_nil before filled, List.getLast?_eq_some_getLast filled]
    exact within _ (List.getLast_mem filled)
  simp only [Place.isEdge, first, last, Bool.bne_true, Bool.true_bne, Bool.not_eq_true']

/-- A word between two texts that are not empty. -/
theorem takes_word_between {shown : String} {left right word : List Char}
    (filled : shown.toList ≠ []) (within : ∀ c ∈ shown.toList, isWordCharacter c = true)
    (leftFilled : left ≠ []) (rightFilled : right ≠ []) :
    Takes (Pattern.word shown) (frontOf before left) word (right ++ rest) ↔
      word = shown.toList ∧ Apart left right := by
  have head : (right ++ rest).head? = right.head? := by
    cases right with
    | nil => exact absurd rfl rightFilled
    | cons c right => rfl
  rw [takes_word_iff filled within, frontOf_of_ne_nil before leftFilled, head, Apart]

/-- A loop is taken as its three parts and the words between them. -/
theorem takes_loopOf {atom : Pattern} {reached : Bracket → List Char → Prop}
    (pieces : ∀ before taken rest,
      Takes atom before taken rest ↔ IsPiece (isBracket · = false) reached taken) :
    Takes (loopOf atom) before taken rest ↔
      IsLoop (Pieces (isBracket · = false) reached) taken := by
  rw [loopOf, takes_seq_cons]
  constructor
  · rintro ⟨element, _, rfl, isElement, behindElement⟩
    obtain ⟨first, _, rfl, isFor, behindFor⟩ := takes_seq_cons.mp behindElement
    obtain ⟨targets, _, rfl, isTargets, behindTargets⟩ := takes_seq_cons.mp behindFor
    obtain ⟨second, source, rfl, isIn, isSource⟩ := takes_seq_cons.mp behindTargets
    rw [takes_oneOrMore_of_isPiece pieces] at isElement isTargets
    rw [seq, takes_oneOrMore_of_isPiece pieces] at isSource
    rw [List.append_assoc, takes_word_between (by decide) (by decide) isElement.2 isTargets.2]
      at isFor
    rw [takes_word_between (by decide) (by decide) isTargets.2 isSource.2] at isIn
    obtain ⟨rfl, apart⟩ := isFor
    obtain ⟨rfl, apart'⟩ := isIn
    exact ⟨element, targets, source, rfl, isElement, isTargets, isSource, apart, apart'⟩
  · rintro ⟨element, targets, source, rfl, isElement, isTargets, isSource, apart, apart'⟩
    refine ⟨element, _, rfl, (takes_oneOrMore_of_isPiece pieces).mpr isElement,
      takes_seq_cons.mpr ⟨"for".toList, _, rfl, ?_, takes_seq_cons.mpr ⟨targets, _, rfl,
        (takes_oneOrMore_of_isPiece pieces).mpr isTargets, takes_seq_cons.mpr ⟨"in".toList, source,
          rfl, ?_, (takes_oneOrMore_of_isPiece pieces).mpr isSource⟩⟩⟩⟩
    · rw [List.append_assoc, takes_word_between (by decide) (by decide) isElement.2 isTargets.2]
      exact ⟨rfl, apart⟩
    · rw [takes_word_between (by decide) (by decide) isTargets.2 isSource.2]
      exact ⟨rfl, apart'⟩

/-- A loop between an opening and a closing bracket of some kinds. -/
theorem takes_between {kinds : List Bracket} {opening closing body : Pattern}
    {language : List Char → Prop}
    (opens : ∀ before taken rest,
      Takes opening before taken rest ↔ ∃ kind ∈ kinds, taken = [kind.opening])
    (closes : ∀ before taken rest,
      Takes closing before taken rest ↔ ∃ kind ∈ kinds, taken = [kind.closing])
    (plain : ∀ before taken rest, Takes body before taken rest ↔ language taken) :
    Takes (seq [opening, body, closing]) before taken rest ↔
      ∃ kind ∈ kinds, ∃ last ∈ kinds, ∃ inside,
        taken = kind.opening :: (inside ++ [last.closing]) ∧ language inside := by
  rw [takes_seq_cons]
  constructor
  · rintro ⟨_, _, rfl, opened, behind⟩
    obtain ⟨inside, _, rfl, found, closed⟩ := takes_seq_cons.mp behind
    obtain ⟨kind, member, rfl⟩ := (opens _ _ _).mp opened
    obtain ⟨last, memberLast, rfl⟩ := (closes _ _ _).mp closed
    exact ⟨kind, member, last, memberLast, inside, rfl, (plain _ _ _).mp found⟩
  · rintro ⟨kind, member, last, memberLast, inside, rfl, found⟩
    exact ⟨[kind.opening], inside ++ [last.closing], rfl, (opens _ _ _).mpr ⟨kind, member, rfl⟩,
      takes_seq_cons.mpr ⟨inside, [last.closing], rfl, (plain _ _ _).mpr found,
        (closes _ _ _).mpr ⟨last, memberLast, rfl⟩⟩⟩

theorem takes_comprehension : Takes comprehension.pattern before taken rest ↔
    ∃ kind ∈ [.square, .curly], ∃ last ∈ [.square, .curly], ∃ inside,
      taken = Bracket.opening kind :: (inside ++ [Bracket.closing last]) ∧
        IsLoop (Pieces (isBracket · = false) comprehensionReach) inside := by
  refine takes_between (fun _ _ _ => ?_) (fun _ _ _ => ?_)
    fun _ _ _ => takes_loopOf fun _ _ _ => takes_comprehensionAtom
  all_goals
    simp only [Takes, Bool.or_eq_true, beq_iff_eq, and_or_left, exists_or, exists_eq_right,
      List.mem_cons, List.not_mem_nil, or_false, or_and_right, exists_eq_left]
    rfl

theorem takes_generator : Takes generator.pattern before taken rest ↔
    ∃ kind ∈ [.round], ∃ last ∈ [.round], ∃ inside,
      taken = Bracket.opening kind :: (inside ++ [Bracket.closing last]) ∧
        IsLoop (Pieces (isBracket · = false) generatorReach) inside := by
  refine takes_between (fun _ _ _ => ?_) (fun _ _ _ => ?_)
    fun _ _ _ => takes_loopOf fun _ _ _ => takes_generatorAtom
  all_goals
    rw [takes_literal]
    simp only [List.mem_singleton, exists_eq_left]
    rfl

end Takes

/-! ### Loops that are found -/

/-- In a properly nested text a loop whose parts are stretches of pieces, and that stands between an
opening and a closing bracket, fills its pair of brackets. -/
theorem IsLoop.fills {reached : Bracket → List Char → Prop} {front inside behind : List Char}
    {kind last : Bracket}
    (closed : ∀ kind inside, reached kind inside → level [kind] 0 inside = some 0)
    (loop : IsLoop (Pieces (isBracket · = false) reached) inside)
    (nested : Nested (front ++ kind.opening :: (inside ++ last.closing :: behind))) :
    last = kind ∧ Nested inside ∧
      IsLoop (fun part => Nested part ∧ Pieces (isBracket · = false) reached part) inside := by
  obtain ⟨element, targets, source, rfl, isElement, isTargets, isSource, apart⟩ := loop
  obtain ⟨content, after, whole, nestedContent⟩ := nested.exists_partner
  have plain {word : List Char} (all : ∀ c ∈ word, isBracket c = false) :
      Pieces (isBracket · = false) reached word := .of_plain all
  simp only [List.append_assoc] at whole
  -- Piece by piece the loop is a part of what stands between the partners.
  obtain ⟨more, rfl, nestedElement, nestedMore, whole⟩ :=
    isElement.1.split closed nestedContent whole.symm
  obtain ⟨more, rfl, nestedFor, nestedMore, whole⟩ :=
    (plain (by decide)).split closed nestedMore whole.symm
  obtain ⟨more, rfl, nestedTargets, nestedMore, whole⟩ :=
    isTargets.1.split closed nestedMore whole.symm
  obtain ⟨more, rfl, nestedIn, nestedMore, whole⟩ :=
    (plain (by decide)).split closed nestedMore whole.symm
  obtain ⟨more, rfl, nestedSource, nestedMore, whole⟩ :=
    isSource.1.split closed nestedMore whole.symm
  cases more with
  | cons c more =>
      obtain ⟨rfl, -⟩ := List.cons.inj whole
      exact absurd nestedMore Nested.not_closing
  | nil =>
      obtain ⟨same, -⟩ := List.cons.inj whole
      refine ⟨Bracket.closing_injective same, ?_, element, targets, source, rfl,
        ⟨⟨nestedElement, isElement.1⟩, isElement.2⟩, ⟨⟨nestedTargets, isTargets.1⟩, isTargets.2⟩,
        ⟨⟨nestedSource, isSource.1⟩, isSource.2⟩, apart⟩
      simpa using nestedContent

/-- A pattern that takes loops in brackets occurs in a properly nested text exactly if the text holds
such a loop with parts that the pattern can read. -/
theorem occursIn_iff_holdsLoop {pattern : Pattern} {kinds : List Bracket}
    {reached : Bracket → List Char → Prop} {text : List Char}
    (closed : ∀ kind inside, reached kind inside → level [kind] 0 inside = some 0)
    (takes : ∀ before taken rest, Takes pattern before taken rest ↔
      ∃ kind ∈ kinds, ∃ last ∈ kinds, ∃ inside,
        taken = Bracket.opening kind :: (inside ++ [Bracket.closing last]) ∧
          IsLoop (Pieces (isBracket · = false) reached) inside)
    (nested : Nested text) :
    pattern.occursIn text = true ↔
      HoldsLoop kinds (fun part => Nested part ∧ Pieces (isBracket · = false) reached part)
        text := by
  rw [occursIn_iff]
  constructor
  · rintro ⟨front, _, rest, rfl, found⟩
    obtain ⟨kind, member, last, -, inside, rfl, loop⟩ := (takes _ _ _).mp found
    simp only [List.cons_append, List.append_assoc, List.nil_append] at nested ⊢
    obtain ⟨rfl, nestedInside, isLoop⟩ := loop.fills closed nested
    exact ⟨last, member, front, inside, rest, rfl, nestedInside, isLoop⟩
  · rintro ⟨kind, member, front, inside, behind, rfl, -, loop⟩
    refine ⟨front, kind.opening :: (inside ++ [kind.closing]), behind, by simp, ?_⟩
    exact (takes _ _ _).mpr ⟨kind, member, kind, member, inside, rfl, loop.mono fun _ => And.right⟩

/-- What the pattern of a comprehension finds. -/
theorem comprehension_occursIn_iff {text : List Char} (nested : Nested text) :
    comprehension.pattern.occursIn text = true ↔
      HoldsLoop [.square, .curly]
        (fun part => Nested part ∧ Pieces (isBracket · = false) comprehensionReach part) text :=
  occursIn_iff_holdsLoop level_of_comprehensionReach (fun _ _ _ => takes_comprehension) nested

/-- What the pattern of a generator finds. -/
theorem generator_occursIn_iff {text : List Char} (nested : Nested text) :
    generator.pattern.occursIn text = true ↔
      HoldsLoop [.round]
        (fun part => Nested part ∧ Pieces (isBracket · = false) generatorReach part) text :=
  occursIn_iff_holdsLoop level_of_generatorReach (fun _ _ _ => takes_generator) nested

/-! ### No loop is mistaken -/

/-- In a properly nested text, of any length and depth, the pattern of a comprehension finds only
loops at the own level of square or curly brackets, and the pattern of a generator only those of round
brackets. -/
theorem holdsLoop_of_occursIn {text : List Char} (nested : Nested text) :
    (comprehension.pattern.occursIn text = true → HoldsLoop [.square, .curly] Nested text) ∧
      (generator.pattern.occursIn text = true → HoldsLoop [.round] Nested text) := by
  constructor
  · intro found
    exact ((comprehension_occursIn_iff nested).mp found).mono fun _ => And.left
  · intro found
    exact ((generator_occursIn_iff nested).mp found).mono fun _ => And.left

/-- A generator that is passed to a call inside a list is a loop in round brackets. -/
theorem holdsLoop_of_occursIn_call :
    Nested "[sum(x for x in row)]".toList ∧
      generator.pattern.occursIn "[sum(x for x in row)]".toList = true ∧
      HoldsLoop [.round] Nested "[sum(x for x in row)]".toList := by
  have nested : Nested "[sum(x for x in row)]".toList :=
    .group .square
      (.append (.of_plain (by decide : ∀ c ∈ "sum".toList, isBracket c = false))
        (.group .round (.of_plain (by decide : ∀ c ∈ "x for x in row".toList, isBracket c = false))
          .nil))
      .nil
  have found : generator.pattern.occursIn "[sum(x for x in row)]".toList = true := by
    decide +kernel
  exact ⟨nested, found, (holdsLoop_of_occursIn nested).2 found⟩

/-! ### Loops that are read -/

/-- In a properly nested text the patterns find the loops whose parts go only so deep: at most two
round brackets, or one square or curly one, in a comprehension, and no bracket within one of its own
kind in a generator. -/
theorem occursIn_iff_readable {text : List Char} (nested : Nested text) :
    (comprehension.pattern.occursIn text = true ↔
        HoldsLoop [.square, .curly]
          (fun part => Nested part ∧ Pieces (isBracket · = false) comprehensionReach part) text) ∧
      (generator.pattern.occursIn text = true ↔
        HoldsLoop [.round]
          (fun part => Nested part ∧ Pieces (isBracket · = false) generatorReach part) text) := by
  constructor
  · exact comprehension_occursIn_iff nested
  · exact generator_occursIn_iff nested

/-- A comprehension whose element is a call of a call goes just so deep. -/
theorem occursIn_iff_readable_callOfCall :
    Nested "[f(g(x)) for x in xs]".toList ∧
      comprehension.pattern.occursIn "[f(g(x)) for x in xs]".toList = true ∧
      HoldsLoop [.square, .curly]
        (fun part => Nested part ∧ Pieces (isBracket · = false) comprehensionReach part)
        "[f(g(x)) for x in xs]".toList := by
  have plain (text : String) (all : ∀ c ∈ text.toList, isBracket c = false) : Nested text.toList :=
    .of_plain all
  have nested : Nested "[f(g(x)) for x in xs]".toList :=
    .group .square
      (.append (plain "f" (by decide)) (.group .round
        (.append (plain "g" (by decide)) (.group .round (plain "x" (by decide)) .nil))
        (plain " for x in xs" (by decide))))
      .nil
  have found : comprehension.pattern.occursIn "[f(g(x)) for x in xs]".toList = true := by
    decide +kernel
  exact ⟨nested, found, (occursIn_iff_readable nested).1.mp found⟩

/-- A generator whose element is a call of a call is overlooked. -/
theorem occursIn_callOfCall :
    Nested "sum(f(g(x)) for x in xs)".toList ∧
      HoldsLoop [.round] Nested "sum(f(g(x)) for x in xs)".toList ∧
      generator.pattern.occursIn "sum(f(g(x)) for x in xs)".toList = false := by
  have plain (text : String) (all : ∀ c ∈ text.toList, isBracket c = false) : Nested text.toList :=
    .of_plain all
  have element : Nested "f(g(x)) ".toList :=
    .append (plain "f" (by decide)) (.group .round
      (.append (plain "g" (by decide)) (.group .round (plain "x" (by decide)) .nil))
      (plain " " (by decide)))
  have inside : Nested "f(g(x)) for x in xs".toList :=
    .append element (plain "for x in xs" (by decide))
  refine ⟨.append (plain "sum" (by decide)) (.group .round inside .nil), ?_, by decide +kernel⟩
  refine ⟨.round, by decide, "sum".toList, "f(g(x)) for x in xs".toList, [], rfl, inside,
    "f(g(x)) ".toList, " x ".toList, " xs".toList, rfl, ⟨element, by decide⟩,
    ⟨plain " x " (by decide), by decide⟩, ⟨plain " xs" (by decide), by decide⟩, ?_, ?_⟩
  all_goals exact ⟨rfl, rfl⟩

end Construct
end AnswerKey
