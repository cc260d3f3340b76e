import AnswerKey.Proofs.Construct.Nesting
import AnswerKey.Proofs.Snippet.Field

namespace AnswerKey
namespace Snippet

/-!
What is counted while tokens are read.

A tally goes along the tokens and keeps, for every open bracket, how many more colons than lambdas
were read at its own level.  That surplus tells a subscript with bounds from one without when its
bracket closes.  Round brackets may have a surplus only at the level of statements, where they hold
the parameters of a function.  A string must not stand right behind a name beyond ASCII, and must not
close a field that it has not opened; a text in which one does is not read at all.
-/

open Construct (Bracket)

/-- The symbol that closes a bracket. -/
def closingSymbol : Bracket → String
  | .round => ")"
  | .square => "]"
  | .curly => "\x7d"

/-- Whether a token changes nothing: no bracket, colon, lambda or string, and no name beyond ASCII. -/
def Token.isUncounted : Token → Bool
  | .name _ isPlain => isPlain
  | .string _ => false
  | .keyword word => word != "lambda"
  | .symbol shown => !(["(", "[", "\x7b", ")", "]", "\x7d", ":"].contains shown)
  | _ => true

/-- An open bracket and the surplus of colons over lambdas at its own level. -/
structure Frame where
  kind : Bracket
  surplus : Int
  deriving DecidableEq

structure Tally where
  /-- The open brackets, the innermost first. -/
  frames : List Frame
  slices : Bool
  fields : Bool
  /-- Whether the last token was a name beyond ASCII. -/
  foreign : Bool
  deriving DecidableEq

namespace Tally

def start : Tally := ⟨[], false, false, false⟩

/-- The tally behind a token, where the flag tells whether it was a name beyond ASCII. -/
def behind (tally : Tally) (foreign : Bool) : Tally :=
  { tally with foreign := foreign }

/-- A tally with more slices and fields. -/
def hold (tally : Tally) (held : Bool × Bool) : Tally :=
  { tally with slices := tally.slices || held.1, fields := tally.fields || held.2 }

/-- A tally with a larger surplus at the level of the innermost bracket. -/
def shift (tally : Tally) (more : Int) : Tally :=
  { tally with
    frames :=
      match tally.frames with
      | [] => []
      | top :: below => { top with surplus := top.surplus + more } :: below }

/-- A tally with one more open bracket. -/
def opened (tally : Tally) (kind : Bracket) : Tally :=
  { tally with frames := ⟨kind, 0⟩ :: tally.frames }

/-- Close a bracket.  Inside other brackets, round ones must not have a surplus. -/
def closed? (tally : Tally) (kind : Bracket) : Option Tally :=
  match tally.frames with
  | [] => none
  | top :: below =>
      if top.kind ≠ kind then none
      else if kind = .round ∧ top.surplus ≠ 0 ∧ below ≠ [] then none
      else
        some { tally with
          frames := below
          slices := tally.slices || (kind == .square && decide (0 < top.surplus)) }

/-- Go over a symbol. -/
def symbol? (tally : Tally) (shown : String) : Option Tally :=
  if shown = "(" then some (tally.opened .round)
  else if shown = "[" then some (tally.opened .square)
  else if shown = "\x7b" then some (tally.opened .curly)
  else if shown = ")" then tally.closed? .round
  else if shown = "]" then tally.closed? .square
  else if shown = "\x7d" then tally.closed? .curly
  else if shown = ":" then some (tally.shift 1)
  else some tally

/-- Go over a token. -/
def next? (tally : Tally) : Token → Option Tally
  | .name _ isPlain => some (tally.behind !isPlain)
  | .string literal =>
      if tally.foreign || literal.isStray then none
      else some (tally.hold (false, literal.holdsField))
  | .keyword word => some ((if word = "lambda" then tally.shift (-1) else tally).behind false)
  | .symbol shown => (tally.symbol? shown).map (·.behind false)
  | _ => some (tally.behind false)

/-- Go over some tokens. -/
def run? (tally : Tally) : List Token → Option Tally
  | [] => some tally
  | token :: rest => (tally.next? token).bind (·.run? rest)

theorem run?_append (tally : Tally) (first second : List Token) :
    tally.run? (first ++ second) = (tally.run? first).bind (·.run? second) := by
  induction first generalizing tally with
  | nil => rfl
  | cons token first ih =>
      rw [List.cons_append, run?, run?, Option.bind_assoc]
      exact congrArg _ (funext fun after => ih after)

/-! ### How tallies change -/

section Changes

variable (tally : Tally) (held more : Bool × Bool) (foreign other : Bool) (first second : Int)

@[simp] theorem foreign_behind : (tally.behind foreign).foreign = foreign := rfl

@[simp] theorem behind_foreign : tally.behind tally.foreign = tally := rfl

theorem behind_of_foreign {tally : Tally} (ready : tally.foreign ≤ false) :
    tally.behind false = tally := by
  rw [← Bool.eq_false_of_le_false ready, behind_foreign]

@[simp] theorem frames_behind : (tally.behind foreign).frames = tally.frames := rfl

@[simp] theorem frames_hold : (tally.hold held).frames = tally.frames := rfl

@[simp] theorem behind_behind : (tally.behind other).behind foreign = tally.behind foreign := rfl

@[simp] theorem hold_behind :
    (tally.behind foreign).hold held = (tally.hold held).behind foreign := rfl

@[simp] theorem hold_hold : (tally.hold held).hold more = tally.hold (held ⊔ more) := by
  simp only [hold, Bool.or_assoc]
  rfl

@[simp] theorem hold_bot : tally.hold ⊥ = tally := by
  change { tally with slices := tally.slices || false, fields := tally.fields || false } = tally
  rw [Bool.or_false, Bool.or_false]

@[simp] theorem shift_behind :
    (tally.behind foreign).shift first = (tally.shift first).behind foreign := rfl

@[simp] theorem hold_shift : (tally.shift first).hold held = (tally.hold held).shift first := rfl

@[simp] theorem shift_shift : (tally.shift first).shift second = tally.shift (first + second) := by
  obtain ⟨frames, slices, fields, foreign⟩ := tally
  cases frames with
  | nil => rfl
  | cons top below => simp [shift, Int.add_assoc]

@[simp] theorem shift_zero : tally.shift 0 = tally := by
  obtain ⟨frames, slices, fields, foreign⟩ := tally
  cases frames with
  | nil => rfl
  | cons top below => simp [shift]

/-- At the level of statements no surplus is kept. -/
theorem shift_of_frames_nil {tally : Tally} (bare : tally.frames = []) :
    tally.shift first = tally := by
  obtain ⟨frames, slices, fields, foreign⟩ := tally
  cases bare
  rfl

@[simp] theorem opened_behind (kind : Bracket) :
    (tally.behind foreign).opened kind = (tally.opened kind).behind foreign := rfl

@[simp] theorem hold_opened (kind : Bracket) :
    (tally.opened kind).hold held = (tally.hold held).opened kind := rfl

end Changes

/-! ### Tokens -/

section Tokens

variable (tally : Tally) (foreign : Bool) (surplus : Int)

theorem next?_of_isUncounted {token : Token} (uncounted : token.isUncounted = true) :
    tally.next? token = some (tally.behind false) := by
  cases token with
  | symbol shown =>
      simp only [Token.isUncounted, Bool.not_eq_true', List.contains_cons, List.contains_nil, Bool.or_false,
        Bool.or_eq_false_iff, beq_eq_false_iff_ne] at uncounted
      simp [next?, symbol?, uncounted]
  | name id isPlain =>
      cases uncounted
      rfl
  | keyword word =>
      rw [next?, if_neg (by simpa [Token.isUncounted] using uncounted)]
  | string => cases uncounted
  | _ => rfl

theorem next?_colon : tally.next? (.symbol ":") = some ((tally.shift 1).behind false) := rfl

/-- Outside all brackets a colon does not count. -/
theorem next?_colon_outside {tally : Tally} (bare : tally.frames = []) :
    tally.next? (.symbol ":") = some (tally.behind false) := by
  rw [next?_colon, shift_of_frames_nil _ bare]

theorem next?_lambda : tally.next? (.keyword "lambda") = some ((tally.shift (-1)).behind false) := rfl

theorem next?_round : tally.next? (.symbol "(") = some ((tally.opened .round).behind false) := rfl

theorem next?_square : tally.next? (.symbol "[") = some ((tally.opened .square).behind false) := rfl

theorem next?_curly : tally.next? (.symbol "\x7b") = some ((tally.opened .curly).behind false) := rfl

/-- A bracket closes that has no surplus, or may have one. -/
theorem next?_closing {kind : Bracket} (fits : surplus = 0 ∨ kind = .curly) :
    (((tally.opened kind).shift surplus).behind foreign).next? (.symbol (closingSymbol kind)) =
      some (tally.behind false) := by
  rcases fits with rfl | rfl
  · cases kind <;> simp [next?, closingSymbol, symbol?, closed?, opened, behind]
  · simp [next?, closingSymbol, symbol?, closed?, opened, behind, shift]

/-- Outside all other brackets, a round bracket closes whatever its surplus. -/
theorem next?_round_closing {tally : Tally} (bare : tally.frames = []) :
    (((tally.opened .round).shift surplus).behind foreign).next? (.symbol ")") =
      some (tally.behind false) := by
  simp [next?, symbol?, closed?, opened, behind, shift, bare]

/-- A subscript has bounds if a colon is left over. -/
theorem next?_square_closing : (((tally.opened .square).shift surplus).behind foreign).next?
    (.symbol "]") = some ((tally.hold (decide (0 < surplus), false)).behind false) := by
  simp [next?, symbol?, closed?, opened, hold, behind, shift]

end Tokens

end Tally
end Snippet
end AnswerKey
