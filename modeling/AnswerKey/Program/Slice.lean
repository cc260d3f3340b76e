import AnswerKey.Program.Value

namespace AnswerKey
namespace Program

/-!
Slices.  Bounds may be absent, count from the end when they are negative, and are moved to the nearest
end of the sequence when they lie outside it.
-/

/-- The three parts of a slice; an absent part has its default. -/
structure Slice where
  lower : Option Int
  upper : Option Int
  step : Option Int
  deriving DecidableEq, Repr

namespace Slice

/-- The distance from one selected position to the next. -/
def stride (slice : Slice) : Int :=
  slice.step.getD 1

/-- A bound counted from the start and moved between two ends. -/
def clamp (length least greatest bound : Int) : Int :=
  max least (min greatest (if bound < 0 then bound + length else bound))

/-- The first position of a slice of so many members, if the slice selects any. -/
def first (slice : Slice) (length : Nat) : Int :=
  if slice.stride < 0 then
    (slice.lower.map (clamp length (-1) (length - 1))).getD (length - 1)
  else (slice.lower.map (clamp length 0 length)).getD 0

/-- The position before which a slice of so many members stops. -/
def stop (slice : Slice) (length : Nat) : Int :=
  if slice.stride < 0 then (slice.upper.map (clamp length (-1) (length - 1))).getD (-1)
  else (slice.upper.map (clamp length 0 length)).getD length

/-- The selected positions in order; a slice whose step is zero has none. -/
def positions (slice : Slice) (length : Nat) : List Int :=
  let first := slice.first length
  (List.range (Value.rangeLength first (slice.stop length) slice.stride)).map
    fun (count : Nat) => first + count * slice.stride

/-- The selected members in order. -/
def select {α : Type} (slice : Slice) (members : List α) : List α :=
  (slice.positions members.length).filterMap fun position => members[position.toNat]?

end Slice
end Program
end AnswerKey
