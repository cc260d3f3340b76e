import AnswerKey.Snippet.Grammar.Expression

namespace AnswerKey
namespace Snippet
namespace Rule

open Snippet.Parser

/-!
The rules of patterns, which stand behind the word `case`.

A lone underscore is the wildcard and captures nothing; any other bare name captures, and a dotted
name is compared with.
-/

/-! ### Literals in patterns -/

/-- Whether a value may be the real part of a complex number in a pattern. -/
def isReal : Constant → Bool
  | .int _ => true
  | .float _ => true
  | _ => false

def isImaginary : Constant → Bool
  | .imaginary _ => true
  | _ => false

/-- A number, possibly with a minus sign, and whether it is real. -/
def signedNumber : Parser (Bool × Tree) := fun tokens =>
  match tokens with
  | .number value :: rest => some ((isReal value, .constant value), rest)
  | .symbol "-" :: .number value :: rest =>
      some ((isReal value, .node (.unary .minus) [[.constant value]]), rest)
  | _ => none

/-- A signed number, or a complex number as the sum or difference of its two parts. -/
def patternNumber : Parser Tree := do
  let (real, first) ← signedNumber
  match ← peek with
  | .symbol shown =>
      match List.lookup shown [("+", BinaryOp.add), ("-", .sub)] with
      | some op => fun tokens =>
          match tokens with
          | _ :: .number value :: rest =>
              if real && isImaginary value then
                some (.node (.binary op) [[first], [.constant value]], rest)
              else none
          | _ => none
      | none => pure first
  | _ => pure first

/-- A literal that a key of a mapping or a whole pattern may be; a constant of one word is told from
the others. -/
def patternLiteral (g : Grammar) : Parser (Option Constant × Tree) := fun tokens =>
  match tokens with
  | .keyword shown :: rest =>
      (constant? shown).map fun value => ((some value, .constant value), rest)
  | .string _ :: _ => (strings g tokens).map fun (tree, rest) => ((none, tree), rest)
  | _ => (patternNumber tokens).map fun (tree, rest) => ((none, tree), rest)

/-! ### Names in patterns -/

/-- Whether a pattern may end here with a name as its last part. -/
def nameMayEnd : Parser Bool := do
  match ← peek with
  | .symbol shown => pure (shown ≠ "." && shown ≠ "(" && shown ≠ "=")
  | _ => pure true

/-- Whether the wildcard is next. -/
def atWildcard : Parser Bool := do
  pure ((← peek) == .name "_" true)

/-- A name that captures. -/
def captureName : Parser String := do
  if ← atWildcard then failure
  let id ← name
  if ← nameMayEnd then pure id else failure

/-- A name with attributes: the tree and whether there are any attributes. -/
def dottedName : Parser (Tree × Bool) := do
  let first ← name
  let others ← many (do symbol "."; name)
  let found : Tree := others.foldl (fun value id => .node (.attribute id .load) [[value]])
    (.name first .load)
  pure (found, !others.isEmpty)

/-- What stands behind the star of a sequence pattern. -/
def starName : Parser (Option String) := do
  if ← atWildcard then
    word "_"
    pure none
  else some <$> captureName

/-! ### Compound patterns -/

/-- An item of a sequence pattern, and whether it is starred. -/
def sequenceItem (g : Grammar) : Parser (Tree × Bool) := do
  if ← takeSymbol "*" then pure (.node (.matchStar (← starName)) [], true)
  else pure (← g.pattern, false)

def sequencePattern (items : List (Tree × Bool)) : Tree :=
  .node .matchSequence [items.map (·.1)]

/-- What follows an opening round bracket: a group or a sequence. -/
def roundPattern (g : Grammar) : Parser Tree := do
  if ← takeSymbol ")" then pure (sequencePattern [])
  else
    let (items, trailing) ← commaList (sequenceItem g)
    symbol ")"
    match items, trailing with
    | [(single, false)], false => pure single
    | [(_, true)], false => failure
    | _, _ => pure (sequencePattern items)

/-- What follows an opening square bracket. -/
def squarePattern (g : Grammar) : Parser Tree := do
  if ← takeSymbol "]" then pure (sequencePattern [])
  else
    let (items, _) ← commaList (sequenceItem g)
    symbol "]"
    pure (sequencePattern items)

/-- An entry of a mapping pattern: a key with its pattern, or the name of the rest. -/
def mappingItem (g : Grammar) : Parser (String ⊕ Tree × Tree) := do
  if ← takeSymbol "**" then pure (.inl (← captureName))
  else
    let key ← match ← peek with
      | .name _ _ => do
          let (found, dotted) ← dottedName
          if dotted then pure found else failure
      | _ => do
          let (_, found) ← patternLiteral g
          pure found
    symbol ":"
    let value ← g.pattern
    pure (.inr (key, value))

/-- A mapping pattern from its entries; the rest may only come last. -/
def mappingOf? : List (String ⊕ Tree × Tree) → Option (List Tree × List Tree × Option String)
  | [] => some ([], [], none)
  | [.inl rest] => some ([], [], some rest)
  | .inl _ :: _ => none
  | .inr (key, value) :: others =>
      (mappingOf? others).map fun (keys, values, rest) => (key :: keys, value :: values, rest)

/-- What follows an opening brace. -/
def bracePattern (g : Grammar) : Parser Tree := do
  if ← takeSymbol "\x7d" then pure (.node (.matchMapping none) [[], []])
  else
    let (items, _) ← commaList (mappingItem g)
    symbol "\x7d"
    let (keys, values, rest) ← lift (mappingOf? items)
    pure (.node (.matchMapping rest) [keys, values])

/-- An argument of a class pattern, with the attribute it is for if it names one. -/
def classItem (g : Grammar) : Parser (Option String × Tree) := do
  if ← atNameThen "=" then
    let id ← name
    symbol "="
    let value ← g.pattern
    pure (some id, value)
  else pure (none, ← g.pattern)

/-- The arguments of a class pattern behind its opening bracket. -/
def classItems (g : Grammar) (subject : Tree) : Parser Tree := do
  if ← takeSymbol ")" then pure (.node (.matchClass []) [[subject], [], []])
  else
    let (items, _) ← commaList (classItem g)
    symbol ")"
    let (byPlace, byName) := items.span (·.1.isNone)
    if byName.all (·.1.isSome) then
      pure (.node (.matchClass (byName.filterMap (·.1)))
        [[subject], byPlace.map (·.2), byName.map (·.2)])
    else failure

/-- A pattern that starts with a name. -/
def namePattern (g : Grammar) : Parser Tree := do
  if ← atWildcard then
    word "_"
    pure (.node (.matchAs none) [[]])
  else
    let (found, dotted) ← dottedName
    if ← takeSymbol "(" then classItems g found
    else if ← atSymbol "=" then failure
    else
      match found with
      | .name id _ => pure (.node (.matchAs (some id)) [[]])
      | _ => if dotted then pure (.node .matchValue [[found]]) else failure

/-! ### Patterns -/

def closedPattern (g : Grammar) : Parser Tree := fun tokens =>
  match tokens with
  | .name _ _ :: _ => namePattern g tokens
  | .symbol "(" :: rest => roundPattern g rest
  | .symbol "[" :: rest => squarePattern g rest
  | .symbol "\x7b" :: rest => bracePattern g rest
  | _ =>
      match patternLiteral g tokens with
      | some ((some value, _), rest) => some (.node (.matchSingleton value) [], rest)
      | some ((none, tree), rest) => some (.node .matchValue [[tree]], rest)
      | none => none

/-- Patterns of which one has to match, and the name that what matched is bound to. -/
def pattern (g : Grammar) : Parser Tree := do
  let choices ← separated (symbol "|") (closedPattern g)
  let found : Tree :=
    match choices with
    | [single] => single
    | _ => .node .matchOr [choices]
  if ← takeKeyword "as" then pure (.node (.matchAs (some (← captureName))) [[found]])
  else pure found

/-- The pattern of a case, which may be a sequence without brackets. -/
def casePattern (g : Grammar) : Parser Tree := do
  let (items, trailing) ← commaList (sequenceItem g)
  match items, trailing with
  | [(single, false)], false => pure single
  | [(_, true)], false => failure
  | _, _ => pure (sequencePattern items)

end Rule
end Snippet
end AnswerKey
