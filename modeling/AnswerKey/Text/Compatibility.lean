import Std.Data.HashMap
import AnswerKey.Text.CharClass
import AnswerKey.Text.CodeRange
import AnswerKey.Text.Compatibility.Tables

namespace AnswerKey
namespace Text
namespace Compatibility

/-!
Compatibility normalisation (NFKC): decompose every character fully, put runs of combining marks in
the order of their classes, then compose what has a primary composite.  ASCII text is its own
normal form and is recognised before any table is consulted.
-/

/-- A decomposition entry with one source code point, or nothing for a run of them. -/
def readSequence? (entry : List Char) : Option (Nat × List Nat) :=
  match splitAt ':' entry with
  | [source, images] =>
      match splitAt '.' images with
      | [_] => none
      | parts => some (hexValue source, parts.map hexValue)
  | _ => none

/-- Whether a code point that is not blank stays visible in the code points it is mapped to.  No
entry of the tables may fail this, so it is checked when they are read. -/
def staysVisible (code : Nat) (images : List Nat) : Bool :=
  isBlankCode code || images.any (!isBlankCode ·)

/-- Entries that map a code point to several. -/
def sequences : Std.HashMap Nat (List Nat) :=
  .ofList (((entriesOf decompositionText).filterMap readSequence?).filter
    fun (code, images) => staysVisible code images)

/-- Whether every code point of a run stays visible. -/
def runStaysVisible (run : MappedRun) : Bool :=
  (List.range (run.last + 1 - run.first)).all fun offset =>
    staysVisible (run.first + offset) [run.image + offset]

/-- Entries that map code points one by one. -/
def singles : RunTable :=
  ⟨((((entriesOf decompositionText).filter
      (fun entry => (readSequence? entry).isNone)).map RunTable.readRun).filter
        runStaysVisible).toArray⟩

/-- Combining classes as mapped runs; the image of a run is the class of all its members. -/
def combiningClasses : RunTable :=
  ⟨((entriesOf combiningClassText).map RunTable.readRun).toArray⟩

/-- A composition entry `a.b:c`. -/
def readComposite? (entry : List Char) : Option ((Nat × Nat) × Nat) :=
  match splitAt ':' entry with
  | [pair, image] =>
      match splitAt '.' pair with
      | [first, second] => some ((hexValue first, hexValue second), hexValue image)
      | _ => none
  | _ => none

/-- Composites of two code points, none of them blank. -/
def composites : Std.HashMap (Nat × Nat) Nat :=
  .ofList (((entriesOf compositionText).filterMap readComposite?).filter
    fun (_, composite) => !isBlankCode composite)

/-- The first Hangul syllable. -/
def syllableBase : Nat := 0xac00
def syllableCount : Nat := 11172
def leadBase : Nat := 0x1100
def vowelBase : Nat := 0x1161
def tailBase : Nat := 0x11a7
def leadCount : Nat := 19
def vowelCount : Nat := 21
def tailCount : Nat := 28

/-- The full compatibility decomposition of one code point. -/
def decompose (code : Nat) : List Nat :=
  if code < 128 then [code]
  else if syllableBase ≤ code ∧ code < syllableBase + syllableCount then
    let index := code - syllableBase
    let lead := leadBase + index / (vowelCount * tailCount)
    let vowel := vowelBase + index % (vowelCount * tailCount) / tailCount
    let tail := index % tailCount
    if tail = 0 then [lead, vowel] else [lead, vowel, tailBase + tail]
  else
    match sequences[code]? with
    | some images => images
    | none => [(singles.image? code).getD code]

/-- The canonical combining class of a code point; zero for a starter. -/
def combiningClass (code : Nat) : Nat :=
  match combiningClasses.findBetween code (combiningClasses.runs.size + 1) 0
      combiningClasses.runs.size with
  | none => 0
  | some run => run.image

/-- The primary composite of two code points. -/
def compose? (first second : Nat) : Option Nat :=
  if leadBase ≤ first ∧ first < leadBase + leadCount ∧
      vowelBase ≤ second ∧ second < vowelBase + vowelCount then
    some (syllableBase +
      ((first - leadBase) * vowelCount + (second - vowelBase)) * tailCount)
  else if syllableBase ≤ first ∧ first < syllableBase + syllableCount ∧
      (first - syllableBase) % tailCount = 0 ∧
      tailBase < second ∧ second < tailBase + tailCount then
    some (first + (second - tailBase))
  else
    composites[(first, second)]?

/-- Insert a combining mark behind all marks of the same or a lower class. -/
def insertMark (mark : Nat × Nat) : List (Nat × Nat) → List (Nat × Nat)
  | [] => [mark]
  | other :: rest =>
      if mark.2 < other.2 then mark :: other :: rest else other :: insertMark mark rest

/-- Canonical ordering: every maximal run of combining marks is sorted by class, stably.  The
second argument holds the marks of the run being read. -/
def reorder : List Nat → List (Nat × Nat) → List (Nat × Nat)
  | [], marks => marks
  | code :: rest, marks =>
      let rank := combiningClass code
      if rank = 0 then marks ++ (code, 0) :: reorder rest []
      else reorder rest (insertMark (code, rank) marks)

/-- Canonical composition.  `starter` is the last starter, `kept` holds, in reverse, the marks behind
it that did not compose, and `blocked` is the class of the last of these. -/
def composeFrom (starter : Nat) (kept : List Nat) (blocked : Nat) :
    List (Nat × Nat) → List Nat
  | [] => starter :: kept.reverse
  | (code, rank) :: rest =>
      let free := kept.isEmpty || blocked < rank
      match if free then compose? starter code else none with
      | some composite => composeFrom composite kept blocked rest
      | none =>
          if rank = 0 then starter :: (kept.reverse ++ composeFrom code [] 0 rest)
          else composeFrom starter (code :: kept) rank rest

/-- Composition of an ordered sequence: marks before the first starter stay as they are. -/
def composeAll : List (Nat × Nat) → List Nat
  | [] => []
  | (code, rank) :: rest =>
      if rank = 0 then composeFrom code [] 0 rest else code :: composeAll rest

/-- The compatibility normal form of a text. -/
def normalize (text : List Char) : List Char :=
  if text.all (fun c => c.toNat < 128) then text
  else (composeAll (reorder (text.flatMap (fun c => decompose c.toNat)) [])).map Char.ofNat

end Compatibility
end Text
end AnswerKey
