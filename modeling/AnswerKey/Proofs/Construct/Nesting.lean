import AnswerKey.Construct.Basic

namespace AnswerKey
namespace Construct

/-!
Nested brackets.

A text is properly nested if every bracket in it has its partner (`Nested`).  Whether a place of such
a text stands outside all brackets is told by what stands in front of it, which is then properly
nested itself; and a bracket has one partner only, because brackets of its kind can be counted
(`eq_of_closing`).  So a stretch that is read as characters and groups, with any rule for what may
stand in a group, consists of whole groups (`Pieces.split`).
-/

inductive Bracket where
  | round
  | square
  | curly
  deriving DecidableEq, Repr

namespace Bracket

def opening : Bracket → Char
  | round => '('
  | square => '['
  | curly => '\x7b'

def closing : Bracket → Char
  | round => ')'
  | square => ']'
  | curly => '\x7d'

theorem opening_injective {first second : Bracket} (same : first.opening = second.opening) :
    first = second := by
  cases first <;> cases second <;> first | rfl | cases same

theorem closing_injective {first second : Bracket} (same : first.closing = second.closing) :
    first = second := by
  cases first <;> cases second <;> first | rfl | cases same

theorem opening_ne_closing (first second : Bracket) : first.opening ≠ second.closing := by
  cases first <;> cases second <;> decide

end Bracket

def isBracket (c : Char) : Bool :=
  "()[]\x7b\x7d".toList.contains c

theorem isBracket_opening (kind : Bracket) : isBracket kind.opening = true := by
  cases kind <;> rfl

theorem isBracket_closing (kind : Bracket) : isBracket kind.closing = true := by
  cases kind <;> rfl

/-! ### Properly nested texts -/

/-- A text in which every bracket has its partner. -/
inductive Nested : List Char → Prop where
  | nil : Nested []
  | plain {c : Char} {rest : List Char} (other : isBracket c = false) (tail : Nested rest) :
      Nested (c :: rest)
  | group (kind : Bracket) {inside rest : List Char} (content : Nested inside)
      (tail : Nested rest) : Nested (kind.opening :: (inside ++ kind.closing :: rest))

namespace Nested

variable {first second inside rest behind : List Char} {kind : Bracket}

theorem of_plain {text : List Char} (all : ∀ c ∈ text, isBracket c = false) : Nested text := by
  induction text with
  | nil => exact .nil
  | cons c text ih =>
      rw [List.forall_mem_cons] at all
      exact .plain all.1 (ih all.2)

theorem append (before : Nested first) (after : Nested second) : Nested (first ++ second) := by
  induction before with
  | nil => exact after
  | plain other _ ih => exact .plain other ih
  | @group kind inside rest content _ _ ih =>
      rw [List.cons_append, List.append_assoc, List.cons_append]
      exact .group kind content ih

/-- No closing bracket comes first. -/
theorem not_closing : ¬ Nested (kind.closing :: rest) := by
  intro nested
  generalize whole : kind.closing :: rest = text at nested
  cases nested with
  | nil => cases whole
  | plain other _ =>
      obtain ⟨rfl, -⟩ := List.cons.inj whole
      rw [isBracket_closing] at other
      cases other
  | group opened _ _ => exact Bracket.opening_ne_closing opened kind (List.cons.inj whole).1.symm

/-- A character that is no bracket may be taken off. -/
theorem tail_of_plain {c : Char} (nested : Nested (c :: rest)) (other : isBracket c = false) :
    Nested rest := by
  generalize whole : c :: rest = text at nested
  cases nested with
  | nil => cases whole
  | plain _ tail =>
      obtain ⟨-, rfl⟩ := List.cons.inj whole
      exact tail
  | group opened _ _ =>
      obtain ⟨rfl, -⟩ := List.cons.inj whole
      rw [isBracket_opening] at other
      cases other

/-- A text that starts with an opening bracket starts with its group. -/
theorem exists_group (nested : Nested (kind.opening :: rest)) :
    ∃ inside behind, rest = inside ++ kind.closing :: behind ∧ Nested inside ∧ Nested behind := by
  generalize whole : kind.opening :: rest = text at nested
  cases nested with
  | nil => cases whole
  | plain other _ =>
      obtain ⟨rfl, -⟩ := List.cons.inj whole
      rw [isBracket_opening] at other
      cases other
  | @group opened inside behind content tail =>
      obtain ⟨same, rfl⟩ := List.cons.inj whole
      obtain rfl := Bracket.opening_injective same
      exact ⟨inside, behind, rfl, content, tail⟩

/-- Every opening bracket of a text has its partner. -/
theorem exists_partner {front : List Char} (nested : Nested (front ++ kind.opening :: rest)) :
    ∃ inside behind, rest = inside ++ kind.closing :: behind ∧ Nested inside := by
  generalize whole : front ++ kind.opening :: rest = text at nested
  induction nested generalizing front rest with
  | nil => simp at whole
  | @plain c text other tail ih =>
      cases front with
      | nil =>
          obtain ⟨rfl, -⟩ := List.cons.inj whole
          rw [isBracket_opening] at other
          cases other
      | cons d front => exact ih (List.cons.inj whole).2
  | @group opened content text nestedContent tail ihContent ihTail =>
      cases front with
      | nil =>
          obtain ⟨same, rfl⟩ := List.cons.inj whole
          obtain rfl := Bracket.opening_injective same
          exact ⟨content, text, rfl, nestedContent⟩
      | cons d front =>
          have tails := (List.cons.inj whole).2
          rcases List.append_eq_append_iff.mp tails with ⟨more, within, last⟩ | ⟨more, within, last⟩
          · -- The bracket stands in the content of the group.
            cases more with
            | nil => exact absurd (List.cons.inj last).1 (Bracket.opening_ne_closing _ _)
            | cons e more =>
                obtain ⟨rfl, rfl⟩ := List.cons.inj last
                obtain ⟨inside, behind, rfl, nested⟩ := ihContent within.symm
                exact ⟨inside, behind ++ opened.closing :: text, by simp, nested⟩
          · -- It stands behind the group.
            cases more with
            | nil => exact absurd (List.cons.inj last).1.symm (Bracket.opening_ne_closing _ _)
            | cons e more => exact ihTail (List.cons.inj last).2.symm

end Nested

/-! ### Counting brackets -/

def opens (kinds : List Bracket) (c : Char) : Bool :=
  kinds.any (·.opening == c)

def closes (kinds : List Bracket) (c : Char) : Bool :=
  kinds.any (·.closing == c)

/-- How many brackets of some kinds are open behind a text, with the number of those that are open in
front of it.  Nothing when one is closed that is not open. -/
def level (kinds : List Bracket) : (depth : Nat) → List Char → Option Nat
  | depth, [] => some depth
  | depth, c :: rest =>
      if opens kinds c then level kinds (depth + 1) rest
      else if closes kinds c then
        if depth = 0 then none else level kinds (depth - 1) rest
      else level kinds depth rest

section Level

variable {kinds : List Bracket} {depth : Nat} {first second : List Char}

theorem opens_opening (kinds : List Bracket) (kind : Bracket) :
    opens kinds kind.opening = decide (kind ∈ kinds) := by
  rw [Bool.eq_iff_iff, opens, List.any_eq_true, decide_eq_true_eq]
  constructor
  · rintro ⟨other, member, same⟩
    exact Bracket.opening_injective (eq_of_beq same) ▸ member
  · intro member
    exact ⟨kind, member, beq_self_eq_true _⟩

theorem closes_closing (kinds : List Bracket) (kind : Bracket) :
    closes kinds kind.closing = decide (kind ∈ kinds) := by
  rw [Bool.eq_iff_iff, closes, List.any_eq_true, decide_eq_true_eq]
  constructor
  · rintro ⟨other, member, same⟩
    exact Bracket.closing_injective (eq_of_beq same) ▸ member
  · intro member
    exact ⟨kind, member, beq_self_eq_true _⟩

theorem opens_closing (kinds : List Bracket) (kind : Bracket) :
    opens kinds kind.closing = false := by
  rw [opens, List.any_eq_false]
  intro other _ same
  exact Bracket.opening_ne_closing other kind (eq_of_beq same)

theorem closes_opening (kinds : List Bracket) (kind : Bracket) :
    closes kinds kind.opening = false := by
  rw [closes, List.any_eq_false]
  intro other _ same
  exact Bracket.opening_ne_closing kind other (eq_of_beq same).symm

/-- A character that is no bracket is not counted. -/
theorem uncounted_of_not_isBracket {c : Char} (other : isBracket c = false) :
    opens kinds c = false ∧ closes kinds c = false := by
  rw [opens, closes, List.any_eq_false, List.any_eq_false]
  constructor
  · intro kind _ same
    rw [← eq_of_beq same, isBracket_opening] at other
    cases other
  · intro kind _ same
    rw [← eq_of_beq same, isBracket_closing] at other
    cases other

theorem level_append : level kinds depth (first ++ second) =
    (level kinds depth first).bind (level kinds · second) := by
  induction first generalizing depth with
  | nil => rfl
  | cons c first ih =>
      rw [List.cons_append, level, level]
      split
      · exact ih
      · split
        · split
          · rfl
          · exact ih
        · exact ih

/-- Where no bracket of some kinds is, none is counted. -/
theorem level_of_none (absent : ∀ c ∈ first, opens kinds c = false ∧ closes kinds c = false) :
    level kinds depth first = some depth := by
  induction first with
  | nil => rfl
  | cons c first ih =>
      rw [List.forall_mem_cons] at absent
      rw [level, absent.1.1, absent.1.2]
      exact ih absent.2

/-- In a properly nested text all brackets of any kinds are closed again. -/
theorem Nested.level (nested : Nested first) (kinds : List Bracket) (depth : Nat) :
    level kinds depth first = some depth := by
  induction nested generalizing depth with
  | nil => rfl
  | plain other _ ih =>
      have uncounted := @uncounted_of_not_isBracket kinds _ other
      rw [Construct.level, uncounted.1, uncounted.2]
      exact ih depth
  | group kind _ _ ihContent ihTail =>
      rw [Construct.level, opens_opening, closes_opening]
      simp only [level_append, ihContent, ihTail, Option.bind_some, Construct.level, opens_closing,
        closes_closing]
      by_cases member : kind ∈ kinds <;> simp [member]

/-- Two texts in front of a closing bracket are the same if they close all brackets of its kind that
they open: in the longer one a bracket would be closed that is not open. -/
theorem eq_of_closing {kind : Bracket} {left right : List Char}
    (before : level [kind] 0 first = some 0) (before' : level [kind] 0 second = some 0)
    (same : first ++ kind.closing :: left = second ++ kind.closing :: right) :
    first = second ∧ left = right := by
  have unopened {text more rest rest' : List Char} (closed : level [kind] 0 text = some 0)
      (longer : level [kind] 0 (text ++ more) = some 0)
      (tail : kind.closing :: rest = more ++ kind.closing :: rest') : more = [] := by
    cases more with
    | nil => rfl
    | cons c more =>
        obtain ⟨rfl, -⟩ := List.cons.inj tail
        rw [level_append, closed, Option.bind_some, level, opens_closing, closes_closing] at longer
        simp at longer
  rcases List.append_eq_append_iff.mp same with ⟨more, rfl, tail⟩ | ⟨more, rfl, tail⟩
  · obtain rfl := unopened before before' tail
    exact ⟨(List.append_nil _).symm, (List.cons.inj tail).2⟩
  · obtain rfl := unopened before' before tail
    exact ⟨List.append_nil _, (List.cons.inj tail).2.symm⟩

end Level

/-! ### Stretches of pieces -/

/-- A stretch of characters of a class and of groups, with a rule for what may stand in a group. -/
inductive Pieces (plain : Char → Prop) (reached : Bracket → List Char → Prop) :
    List Char → Prop where
  | nil : Pieces plain reached []
  | plain {c : Char} {rest : List Char} (other : plain c) (tail : Pieces plain reached rest) :
      Pieces plain reached (c :: rest)
  | group (kind : Bracket) {inside rest : List Char} (content : reached kind inside)
      (tail : Pieces plain reached rest) :
      Pieces plain reached (kind.opening :: (inside ++ kind.closing :: rest))

/-- A character of a class, or a group. -/
def IsPiece (plain : Char → Prop) (reached : Bracket → List Char → Prop) (piece : List Char) :
    Prop :=
  (∃ c, piece = [c] ∧ plain c) ∨
    ∃ kind inside, piece = Bracket.opening kind :: (inside ++ [kind.closing]) ∧
      reached kind inside

namespace Pieces

variable {plain : Char → Prop} {reached : Bracket → List Char → Prop} {first second : List Char}

theorem of_plain {text : List Char} (all : ∀ c ∈ text, plain c) : Pieces plain reached text := by
  induction text with
  | nil => exact .nil
  | cons c text ih =>
      rw [List.forall_mem_cons] at all
      exact .plain all.1 (ih all.2)

theorem append (before : Pieces plain reached first) (after : Pieces plain reached second) :
    Pieces plain reached (first ++ second) := by
  induction before with
  | nil => exact after
  | plain other _ ih => exact .plain other ih
  | @group kind inside rest content _ ih =>
      rw [List.cons_append, List.append_assoc, List.cons_append]
      exact .group kind content ih

theorem of_isPiece {piece : List Char} (isPiece : IsPiece plain reached piece) :
    Pieces plain reached piece := by
  rcases isPiece with ⟨c, rfl, other⟩ | ⟨kind, inside, rfl, content⟩
  · exact .plain other .nil
  · exact .group kind content .nil

/-- A stretch of pieces, piece by piece. -/
theorem iff_flatten : Pieces plain reached first ↔
    ∃ pieces : List (List Char), first = pieces.flatten ∧
      ∀ piece ∈ pieces, IsPiece plain reached piece := by
  constructor
  · intro stretch
    induction stretch with
    | nil => exact ⟨[], rfl, List.forall_mem_nil _⟩
    | @plain c rest other _ ih =>
        obtain ⟨pieces, rfl, all⟩ := ih
        refine ⟨[c] :: pieces, rfl, ?_⟩
        rw [List.forall_mem_cons]
        exact ⟨.inl ⟨c, rfl, other⟩, all⟩
    | @group kind inside rest content _ ih =>
        obtain ⟨pieces, rfl, all⟩ := ih
        refine ⟨(kind.opening :: (inside ++ [kind.closing])) :: pieces, by simp, ?_⟩
        rw [List.forall_mem_cons]
        exact ⟨.inr ⟨kind, inside, rfl, content⟩, all⟩
  · rintro ⟨pieces, rfl, all⟩
    induction pieces with
    | nil => exact .nil
    | cons piece pieces ih =>
        rw [List.forall_mem_cons] at all
        exact (of_isPiece all.1).append (ih all.2)

/-- A stretch at the head of what stands between two partners does not reach over the closing one,
and what is left in front of it is properly nested again. -/
theorem split (closed : ∀ kind inside, reached kind inside → level [kind] 0 inside = some 0)
    {stretch inside left behind : List Char} {kind : Bracket}
    (pieces : Pieces (isBracket · = false) reached stretch)
    (nested : Nested inside) (same : inside ++ kind.closing :: behind = stretch ++ left) :
    ∃ more, inside = stretch ++ more ∧ Nested stretch ∧ Nested more ∧
      left = more ++ kind.closing :: behind := by
  induction pieces generalizing inside with
  | nil => exact ⟨inside, rfl, .nil, nested, same.symm⟩
  | @plain c rest other tail ih =>
      cases inside with
      | nil =>
          obtain ⟨rfl, -⟩ := List.cons.inj same
          rw [isBracket_closing] at other
          cases other
      | cons d inside =>
          obtain ⟨rfl, onward⟩ := List.cons.inj same
          obtain ⟨more, rfl, nestedRest, nestedMore, behindIt⟩ :=
            ih (nested.tail_of_plain other) onward
          exact ⟨more, rfl, .plain other nestedRest, nestedMore, behindIt⟩
  | @group opened content rest reachedHere tail ih =>
      cases inside with
      | nil => exact absurd (List.cons.inj same).1.symm (Bracket.opening_ne_closing _ _)
      | cons d inside =>
          rw [List.cons_append, List.cons_append] at same
          obtain ⟨rfl, onward⟩ := List.cons.inj same
          obtain ⟨partner, others, rfl, nestedContent, nestedOthers⟩ := nested.exists_group
          rw [List.append_assoc, List.append_assoc, List.cons_append, List.cons_append] at onward
          -- The group of the stretch ends where the group of the text does.
          obtain ⟨rfl, later⟩ := eq_of_closing (nestedContent.level [opened] 0)
            (closed opened content reachedHere) onward
          obtain ⟨more, rfl, nestedRest, nestedMore, behindIt⟩ := ih nestedOthers later
          exact ⟨more, by simp, .group opened nestedContent nestedRest, nestedMore, behindIt⟩

end Pieces

/-! ### How deep brackets nest -/

/-- A character that is no bracket of some kinds. -/
def Uncounted (kinds : List Bracket) (c : Char) : Prop :=
  opens kinds c = false ∧ closes kinds c = false

theorem uncounted_iff {kinds : List Bracket} {c : Char} : Uncounted kinds c ↔
    ∀ kind ∈ kinds, c ≠ kind.opening ∧ c ≠ kind.closing := by
  simp only [Uncounted, opens, closes, List.any_eq_false, beq_iff_eq, ← forall_and, ne_eq,
    @eq_comm _ c]

/-- A text in which brackets of some kinds have their partners and nest at most so deep.  Brackets of
other kinds count as characters. -/
def Within (kinds : List Bracket) : (limit : Nat) → List Char → Prop
  | 0 => Pieces (Uncounted kinds) fun _ _ => False
  | limit + 1 => Pieces (Uncounted kinds) fun kind inside =>
      kind ∈ kinds ∧ Within kinds limit inside

section Within

variable {kinds : List Bracket} {limit depth : Nat} {text : List Char}

/-- Where no depth is allowed, there are no brackets of these kinds. -/
theorem within_zero_iff : Within kinds 0 text ↔ ∀ c ∈ text, Uncounted kinds c := by
  constructor
  · intro within
    induction within with
    | nil => exact List.forall_mem_nil _
    | plain other _ ih =>
        rw [List.forall_mem_cons]
        exact ⟨other, ih⟩
    | group _ content _ _ => exact content.elim
  · exact .of_plain

/-- All brackets of these kinds are closed again. -/
theorem Within.level (within : Within kinds limit text) : level kinds depth text = some depth := by
  induction limit generalizing depth text with
  | zero => exact level_of_none (within_zero_iff.mp within)
  | succ limit ihLimit =>
      induction within generalizing depth with
      | nil => rfl
      | plain other _ ih =>
          rw [Construct.level, other.1, other.2]
          exact ih
      | group _ content _ ih =>
          rw [Construct.level, opens_opening, decide_eq_true content.1, if_pos rfl, level_append,
            ihLimit content.2, Option.bind_some, Construct.level, opens_closing, closes_closing,
            decide_eq_true content.1]
          exact ih

end Within

end Construct
end AnswerKey
