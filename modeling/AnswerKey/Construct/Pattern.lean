import AnswerKey.Text.CharClass

namespace AnswerKey
namespace Construct

/-!
Patterns of text and whether they match at a place.  Besides sequences, choices and repetitions there
are conditions on what stands around a place: the character in front of it, the edge of a word, and
what must not follow.
-/

open Text

inductive Pattern where
  /-- Nothing. -/
  | empty
  /-- One character of a class. -/
  | char (p : Char → Bool)
  | both (first second : Pattern)
  | either (first second : Pattern)
  /-- Any number of repetitions, none included. -/
  | many (body : Pattern)
  /-- The beginning or the end of a word. -/
  | edge
  /-- There is a character in front, and it is in a class. -/
  | after (p : Char → Bool)
  /-- There is no character of a class in front. -/
  | notAfter (p : Char → Bool)
  /-- Another pattern does not match from here on. -/
  | notBefore (body : Pattern)

namespace Pattern

/-- A place in a text: the character in front of it and what follows. -/
structure Place where
  before : Option Char
  rest : List Char

/-- Whether exactly one side of a place belongs to a word. -/
def Place.isEdge (place : Place) : Bool :=
  place.before.any isWordCharacter != place.rest.head?.any isWordCharacter

/-- Repeat a match as often as needed to go on with success; every repetition has to consume
something. -/
def repeatMatch (body : (Place → Bool) → Place → Bool) (next : Place → Bool) :
    (fuel : Nat) → Place → Bool
  | 0, place => next place
  | fuel + 1, place =>
      next place ||
        body (fun after =>
          after.rest.length < place.rest.length && repeatMatch body next fuel after) place

/-- Whether a pattern matches from a place on in such a way that what follows succeeds. -/
def run : Pattern → (next : Place → Bool) → Place → Bool
  | empty, next, place => next place
  | char p, next, place =>
      match place.rest with
      | c :: rest => p c && next ⟨some c, rest⟩
      | [] => false
  | both first second, next, place => run first (run second next) place
  | either first second, next, place => run first next place || run second next place
  | many body, next, place => repeatMatch (run body) next place.rest.length place
  | edge, next, place => place.isEdge && next place
  | after p, next, place => place.before.any p && next place
  | notAfter p, next, place => !place.before.any p && next place
  | notBefore body, next, place => !run body (fun _ => true) place && next place

/-- Whether a pattern matches at some place from a given one on. -/
def matchesFrom (pattern : Pattern) (before : Option Char) : List Char → Bool
  | [] => run pattern (fun _ => true) ⟨before, []⟩
  | c :: rest =>
      run pattern (fun _ => true) ⟨before, c :: rest⟩ || matchesFrom pattern (some c) rest

/-- Whether a pattern matches anywhere in a text. -/
def occursIn (pattern : Pattern) (text : List Char) : Bool :=
  matchesFrom pattern none text

/-! ### Composite patterns -/

/-- Patterns one behind the other. -/
def seq : List Pattern → Pattern
  | [] => empty
  | [pattern] => pattern
  | pattern :: rest => both pattern (seq rest)

/-- One of some patterns. -/
def oneOf : Pattern → List Pattern → Pattern
  | pattern, [] => pattern
  | pattern, other :: rest => either pattern (oneOf other rest)

/-- One repetition or more. -/
def oneOrMore (pattern : Pattern) : Pattern :=
  both pattern (many pattern)

/-- A given text. -/
def literal (text : String) : Pattern :=
  seq (text.toList.map fun c => char (· == c))

/-- A given word, and not a part of a longer one. -/
def word (text : String) : Pattern :=
  seq [edge, literal text, edge]

/-- One character that is not in a list. -/
def noneOf (characters : String) : Pattern :=
  char fun c => !characters.toList.contains c

end Pattern
end Construct
end AnswerKey
