import AnswerKey.Construct.Pattern

namespace AnswerKey
namespace Construct
namespace Pattern

/-!
What a pattern takes.

A pattern is run with the rest of the search as its continuation.  Here a match is a stretch of text
between the character in front of it and what follows, so that a pattern is a language with two
sides to it.  A pattern runs successfully exactly if it takes a stretch behind which the continuation
succeeds (`run_iff`), and it occurs in a text exactly if it takes some stretch of it
(`occursIn_iff`).
-/

/-! ### Stretches -/

/-- The character in front of what stands behind a stretch. -/
def frontOf (before : Option Char) (taken : List Char) : Option Char :=
  taken.getLast?.or before

section Front

variable (before : Option Char) (first second : List Char) (c : Char)

@[simp] theorem frontOf_nil : frontOf before [] = before := rfl

@[simp] theorem frontOf_singleton : frontOf before [c] = some c := rfl

@[simp] theorem frontOf_frontOf :
    frontOf (frontOf before first) second = frontOf before (first ++ second) := by
  rw [frontOf, frontOf, frontOf, List.getLast?_append, Option.or_assoc]

@[simp] theorem frontOf_concat : frontOf before (first ++ [c]) = some c := by
  rw [frontOf, List.getLast?_concat, Option.some_or]

/-- Behind a stretch that is not empty its last character stands in front. -/
theorem frontOf_of_ne_nil {first : List Char} (filled : first ≠ []) :
    frontOf before first = first.getLast? := by
  cases last : first.getLast? with
  | none => exact absurd (List.getLast?_eq_none_iff.mp last) filled
  | some c => rw [frontOf, last, Option.some_or]

end Front

/-- Stretches one behind the other, each taken where the one in front of it ends. -/
inductive Repeats (takes : (before : Option Char) → (taken rest : List Char) → Prop) :
    (before : Option Char) → (taken rest : List Char) → Prop where
  | done (before : Option Char) (rest : List Char) : Repeats takes before [] rest
  | more {before : Option Char} {first others rest : List Char}
      (head : takes before first (others ++ rest))
      (tail : Repeats takes (frontOf before first) others rest) :
      Repeats takes before (first ++ others) rest

theorem Repeats.append {takes : Option Char → List Char → List Char → Prop} {before : Option Char}
    {first second rest : List Char} (head : Repeats takes before first (second ++ rest))
    (tail : Repeats takes (frontOf before first) second rest) :
    Repeats takes before (first ++ second) rest := by
  generalize whole : second ++ rest = others at head
  induction head with
  | done => exact tail
  | more found _ ih =>
      subst whole
      rw [← frontOf_frontOf] at tail
      rw [List.append_assoc]
      refine .more ?_ (ih tail rfl)
      rwa [List.append_assoc]

/-- Whether a pattern takes a stretch of text, given the character in front of the stretch and the
text behind it. -/
def Takes : Pattern → (before : Option Char) → (taken rest : List Char) → Prop
  | empty, _, taken, _ => taken = []
  | char p, _, taken, _ => ∃ c, taken = [c] ∧ p c = true
  | both first second, before, taken, rest =>
      ∃ front back, taken = front ++ back ∧ Takes first before front (back ++ rest) ∧
        Takes second (frontOf before front) back rest
  | either first second, before, taken, rest =>
      Takes first before taken rest ∨ Takes second before taken rest
  | many body, before, taken, rest => Repeats (Takes body) before taken rest
  | edge, before, taken, rest => taken = [] ∧ Place.isEdge ⟨before, rest⟩ = true
  | after p, before, taken, _ => taken = [] ∧ before.any p = true
  | notAfter p, before, taken, _ => taken = [] ∧ before.any p = false
  | notBefore body, before, taken, rest =>
      taken = [] ∧ ¬ ∃ stretch left, rest = stretch ++ left ∧ Takes body before stretch left

/-! ### Runs -/

section Run

variable {body : Pattern} {next : Place → Bool}

/-- What the run of a pattern says, for a pattern at all places and with all continuations. -/
def RunsAsTaken (pattern : Pattern) : Prop :=
  ∀ (next : Place → Bool) (before : Option Char) (text : List Char),
    run pattern next ⟨before, text⟩ = true ↔
      ∃ taken rest, text = taken ++ rest ∧ Takes pattern before taken rest ∧
        next ⟨frontOf before taken, rest⟩ = true

/-- Repetitions that succeed have taken their stretches. -/
theorem exists_repeats_of_repeatMatch (runs : RunsAsTaken body) (fuel : Nat)
    {before : Option Char} {text : List Char}
    (matched : repeatMatch (run body) next fuel ⟨before, text⟩ = true) :
    ∃ taken rest, text = taken ++ rest ∧ Repeats (Takes body) before taken rest ∧
      next ⟨frontOf before taken, rest⟩ = true := by
  induction fuel generalizing before text with
  | zero => exact ⟨[], text, rfl, .done before text, matched⟩
  | succ fuel ih =>
      rw [repeatMatch, Bool.or_eq_true] at matched
      rcases matched with stop | goOn
      · exact ⟨[], text, rfl, .done before text, stop⟩
      · obtain ⟨first, behind, rfl, head, onward⟩ := (runs _ _ _).mp goOn
        rw [Bool.and_eq_true] at onward
        obtain ⟨others, rest, rfl, tail, success⟩ := ih onward.2
        rw [frontOf_frontOf] at success
        exact ⟨first ++ others, rest, (List.append_assoc _ _ _).symm, .more head tail, success⟩

/-- Stretches that have been taken are found by repetition.  Repetitions that consume nothing are
left out. -/
theorem repeatMatch_of_repeats (runs : RunsAsTaken body) {before : Option Char}
    {taken rest : List Char} (repeats : Repeats (Takes body) before taken rest)
    (success : next ⟨frontOf before taken, rest⟩ = true) (fuel : Nat)
    (enough : (taken ++ rest).length ≤ fuel) :
    repeatMatch (run body) next fuel ⟨before, taken ++ rest⟩ = true := by
  induction repeats generalizing fuel with
  | done before rest =>
      cases fuel with
      | zero => exact success
      | succ fuel =>
          rw [repeatMatch, Bool.or_eq_true]
          exact .inl success
  | @more before first others rest head tail ih =>
      rw [← frontOf_frontOf] at success
      cases first with
      | nil => exact ih success fuel enough
      | cons c first =>
          cases fuel with
          | zero =>
              rw [List.append_assoc, List.length_append, List.length_cons] at enough
              omega
          | succ fuel =>
              rw [List.append_assoc, List.length_append, List.length_cons] at enough
              rw [repeatMatch, Bool.or_eq_true]
              refine .inr ((runs _ _ _).mpr ⟨c :: first, others ++ rest, by simp, head, ?_⟩)
              rw [Bool.and_eq_true, decide_eq_true_eq]
              constructor
              · simp only [List.length_append, List.length_cons]
                omega
              · exact ih success fuel (by omega)

end Run

/-- A condition on a place takes nothing. -/
theorem exists_stretch_nil {text : List Char} {holds : List Char → List Char → Prop} :
    (∃ taken rest, text = taken ++ rest ∧ taken = [] ∧ holds taken rest) ↔ holds [] text := by
  constructor
  · rintro ⟨_, rest, rfl, rfl, found⟩
    exact found
  · intro found
    exact ⟨[], text, rfl, rfl, found⟩

/-- A pattern runs successfully exactly if it takes a stretch behind which the continuation does. -/
theorem run_iff (pattern : Pattern) : RunsAsTaken pattern := by
  induction pattern with
  | empty =>
      intro next before text
      simp only [Takes, exists_stretch_nil]
      rfl
  | char p =>
      intro next before text
      constructor
      · intro matched
        cases text with
        | nil => cases matched
        | cons c rest =>
            rw [run, Bool.and_eq_true] at matched
            exact ⟨[c], rest, rfl, ⟨c, rfl, matched.1⟩, matched.2⟩
      · rintro ⟨_, rest, rfl, ⟨c, rfl, inClass⟩, success⟩
        rw [List.singleton_append, run, Bool.and_eq_true]
        exact ⟨inClass, success⟩
  | both first second ihFirst ihSecond =>
      intro next before text
      rw [run, ihFirst]
      constructor
      · rintro ⟨front, behind, rfl, head, onward⟩
        obtain ⟨back, rest, rfl, tail, success⟩ := (ihSecond _ _ _).mp onward
        rw [frontOf_frontOf] at success
        exact ⟨front ++ back, rest, (List.append_assoc _ _ _).symm, ⟨front, back, rfl, head, tail⟩,
          success⟩
      · rintro ⟨_, rest, rfl, ⟨front, back, rfl, head, tail⟩, success⟩
        refine ⟨front, back ++ rest, List.append_assoc _ _ _, head, ?_⟩
        rw [← frontOf_frontOf] at success
        exact (ihSecond _ _ _).mpr ⟨back, rest, rfl, tail, success⟩
  | either first second ihFirst ihSecond =>
      intro next before text
      rw [run, Bool.or_eq_true, ihFirst, ihSecond, ← exists_or]
      refine exists_congr fun taken => ?_
      rw [← exists_or]
      refine exists_congr fun rest => ?_
      rw [Takes, ← and_or_left, ← or_and_right]
  | many body ih =>
      intro next before text
      constructor
      · exact exists_repeats_of_repeatMatch ih _
      · rintro ⟨taken, rest, rfl, repeats, success⟩
        exact repeatMatch_of_repeats ih repeats success _ (Nat.le_refl _)
  | edge =>
      intro next before text
      simp only [run, Takes, and_assoc, exists_stretch_nil, frontOf_nil, Bool.and_eq_true]
  | after p =>
      intro next before text
      simp only [run, Takes, and_assoc, exists_stretch_nil, frontOf_nil, Bool.and_eq_true]
  | notAfter p =>
      intro next before text
      simp only [run, Takes, and_assoc, exists_stretch_nil, frontOf_nil, Bool.and_eq_true,
        Bool.not_eq_true']
  | notBefore body ih =>
      intro next before text
      have refused : run body (fun _ => true) ⟨before, text⟩ = false ↔
          ¬ ∃ stretch left, text = stretch ++ left ∧ Takes body before stretch left := by
        rw [← Bool.not_eq_true, ih]
        simp only [and_true]
      simp only [run, Takes, and_assoc, exists_stretch_nil, frontOf_nil, Bool.and_eq_true,
        Bool.not_eq_true', refused]

/-- Whether a pattern takes a stretch of a text from a given character on. -/
theorem matchesFrom_iff (pattern : Pattern) (before : Option Char) (text : List Char) :
    matchesFrom pattern before text = true ↔
      ∃ front taken rest, text = front ++ (taken ++ rest) ∧
        Takes pattern (frontOf before front) taken rest := by
  induction text generalizing before with
  | nil =>
      rw [matchesFrom, run_iff]
      constructor
      · rintro ⟨taken, rest, whole, found, _⟩
        exact ⟨[], taken, rest, whole, found⟩
      · rintro ⟨front, taken, rest, whole, found⟩
        cases front with
        | nil => exact ⟨taken, rest, whole, found, rfl⟩
        | cons c front => cases whole
  | cons c text ih =>
      rw [matchesFrom, Bool.or_eq_true, run_iff, ih]
      constructor
      · rintro (⟨taken, rest, whole, found, _⟩ | ⟨front, taken, rest, rfl, found⟩)
        · exact ⟨[], taken, rest, whole, found⟩
        · refine ⟨c :: front, taken, rest, rfl, ?_⟩
          rwa [← List.singleton_append, ← frontOf_frontOf, frontOf_singleton]
      · rintro ⟨front, taken, rest, whole, found⟩
        cases front with
        | nil => exact .inl ⟨taken, rest, whole, found, rfl⟩
        | cons d front =>
            obtain ⟨rfl, rfl⟩ := List.cons.inj whole
            refine .inr ⟨front, taken, rest, rfl, ?_⟩
            rwa [← List.singleton_append, ← frontOf_frontOf, frontOf_singleton] at found

/-- A pattern occurs in a text exactly if it takes a stretch of it. -/
theorem occursIn_iff (pattern : Pattern) (text : List Char) :
    pattern.occursIn text = true ↔
      ∃ front taken rest, text = front ++ (taken ++ rest) ∧
        Takes pattern front.getLast? taken rest := by
  rw [occursIn, matchesFrom_iff]
  simp only [frontOf, Option.or_none]

/-! ### Composite patterns -/

section Composite

variable {pattern : Pattern} {others : List Pattern} {before : Option Char} {taken rest : List Char}

/-- A row of patterns takes what its first pattern and the other ones take. -/
theorem takes_seq_cons : Takes (seq (pattern :: others)) before taken rest ↔
    ∃ front back, taken = front ++ back ∧ Takes pattern before front (back ++ rest) ∧
      Takes (seq others) (frontOf before front) back rest := by
  cases others with
  | nil => simp [seq, Takes]
  | cons other others => rfl

/-- A given text takes itself. -/
theorem takes_literal {shown : String} :
    Takes (literal shown) before taken rest ↔ taken = shown.toList := by
  rw [literal]
  generalize shown.toList = characters
  induction characters generalizing before taken with
  | nil => simp [seq, Takes]
  | cons c characters ih =>
      rw [List.map_cons, takes_seq_cons]
      constructor
      · rintro ⟨_, _, rfl, ⟨d, rfl, same⟩, tail⟩
        rw [ih.mp tail, eq_of_beq same]
        rfl
      · rintro rfl
        exact ⟨[c], characters, rfl, ⟨c, rfl, beq_self_eq_true c⟩, ih.mpr rfl⟩

/-- A given word takes itself between two edges. -/
theorem takes_word {shown : String} : Takes (word shown) before taken rest ↔
    taken = shown.toList ∧ Place.isEdge ⟨before, taken ++ rest⟩ = true ∧
      Place.isEdge ⟨frontOf before taken, rest⟩ = true := by
  rw [word, takes_seq_cons]
  simp only [takes_seq_cons, takes_literal]
  constructor
  · rintro ⟨_, _, rfl, ⟨rfl, opened⟩, _, _, rfl, rfl, _, _, rfl, ⟨rfl, closed⟩, rfl⟩
    simpa using ⟨by simpa using opened, by simpa using closed⟩
  · rintro ⟨rfl, opened, closed⟩
    exact ⟨[], shown.toList, rfl, ⟨rfl, opened⟩, shown.toList, [], (List.append_nil _).symm, rfl,
      [], [], rfl, ⟨rfl, closed⟩, rfl⟩

/-- Repetitions of a pattern whose stretches are told without looking around. -/
theorem repeats_iff_of_plain (takes : Option Char → List Char → List Char → Prop)
    (language : List Char → Prop)
    (plain : ∀ before taken rest, takes before taken rest ↔ language taken) :
    Repeats takes before taken rest ↔
      ∃ stretches : List (List Char), taken = stretches.flatten ∧ ∀ s ∈ stretches, language s := by
  constructor
  · intro repeats
    induction repeats with
    | done => exact ⟨[], rfl, List.forall_mem_nil _⟩
    | @more before first others rest head tail ih =>
        obtain ⟨stretches, rfl, all⟩ := ih
        refine ⟨first :: stretches, rfl, ?_⟩
        rw [List.forall_mem_cons]
        exact ⟨(plain _ _ _).mp head, all⟩
  · rintro ⟨stretches, rfl, all⟩
    induction stretches generalizing before with
    | nil => exact .done before rest
    | cons first stretches ih =>
        rw [List.forall_mem_cons] at all
        exact .more ((plain _ _ _).mpr all.1) (ih all.2)

/-- Repetitions of a character of a class. -/
theorem takes_many_char {p : Char → Bool} :
    Takes (many (char p)) before taken rest ↔ ∀ c ∈ taken, p c = true := by
  rw [Takes, repeats_iff_of_plain (Takes (char p)) (fun stretch => ∃ c, stretch = [c] ∧ p c = true)
    fun _ _ _ => Iff.rfl]
  constructor
  · rintro ⟨stretches, rfl, all⟩ c member
    obtain ⟨stretch, inStretches, inStretch⟩ := List.mem_flatten.mp member
    obtain ⟨d, rfl, inClass⟩ := all stretch inStretches
    exact List.mem_singleton.mp inStretch ▸ inClass
  · intro all
    refine ⟨taken.map fun c => [c], ?_, ?_⟩
    · rw [← List.flatMap_def, List.flatMap_singleton']
    rintro _ member
    obtain ⟨c, inTaken, rfl⟩ := List.mem_map.mp member
    exact ⟨c, rfl, all c inTaken⟩

end Composite

end Pattern
end Construct
end AnswerKey
