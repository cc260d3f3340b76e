import AnswerKey.Decimal.Binary64

namespace AnswerKey
namespace Snippet

/-!
Syntax trees of snippets.

A tree has its own constructor for everything that opens a scope, binds a name or looks one up, and
for subscripts with bounds; all other constructs share the constructor `node`, whose form says which
construct it is.  The parts of a node are its grammatical positions in the order in which they are
visited.  A position that may be absent is a list of at most one tree.
-/

/-- Whether an expression is read, assigned or deleted. -/
inductive Context where
  | load
  | store
  | del
  deriving DecidableEq, Repr

/-- The value of a literal.  Texts are code points, because an escape may name a surrogate; `marked`
tells a text written with the mark `u`. -/
inductive Constant where
  | none
  | bool (value : Bool)
  | ellipsis
  | int (value : Nat)
  | float (value : Decimal.Binary64)
  | imaginary (value : Decimal.Binary64)
  | str (codes : List Nat) (marked : Bool)
  | bytes (values : List Nat)
  deriving DecidableEq, Repr

inductive BoolOp where
  | and
  | or
  deriving DecidableEq, Repr

inductive BinaryOp where
  | add | sub | mult | matMult | div | mod | pow
  | leftShift | rightShift | bitOr | bitXor | bitAnd | floorDiv
  deriving DecidableEq, Repr

inductive UnaryOp where
  | invert
  | not
  | plus
  | minus
  deriving DecidableEq, Repr

inductive CompareOp where
  | eq | notEq | lt | ltE | gt | gtE | is | isNot | isIn | notIn
  deriving DecidableEq, Repr

/-- How an interpolated value is turned into text. -/
inductive Conversion where
  | str
  | repr
  | ascii
  deriving DecidableEq, Repr

/-- A name that is imported, and the name it is bound to if that differs. -/
structure Alias where
  name : String
  boundAs : Option String
  deriving DecidableEq, Repr

/-- Constructs that neither bind nor look up a name by themselves.  The comment behind each form
lists its positions; a star marks a position of any number of trees and a question mark an optional
one. -/
inductive Form where
  -- expressions
  | boolean (op : BoolOp)                          -- operands*
  | named                                          -- target, value
  | binary (op : BinaryOp)                         -- left, right
  | unary (op : UnaryOp)                           -- operand
  | conditional                                    -- test, body, alternative
  | dict (keyed : List Bool)                       -- keys*, values*
  | set                                            -- elements*
  | await                                          -- value
  | yield                                          -- value?
  | yieldFrom                                      -- value
  | compare (ops : List CompareOp)                 -- left, comparators*
  | call                                           -- function, arguments*, keywords*
  | keyword (name : Option String)                 -- value
  | interpolation (conversion : Option Conversion) -- value, specification?
  | joined                                         -- pieces*
  | attribute (name : String) (context : Context)  -- value
  | subscript (context : Context)                  -- value, index
  | starred (context : Context)                    -- value
  | list (context : Context)                       -- elements*
  | tuple (context : Context)                      -- elements*
  -- statements
  | expr                                           -- value
  | returnStatement                                -- value?
  | deleteStatement                                -- targets*
  | assign                                         -- targets*, value
  | augmented (op : BinaryOp)                      -- target, value
  | annotated (simple : Bool)                      -- target, type hint, value?
  | whileStatement                                 -- test, body*, alternative*
  | ifStatement                                    -- test, body*, alternative*
  | withStatement (isAsync : Bool)                 -- items*, body*
  | withItem                                       -- manager, target?
  | matchStatement                                 -- subject, cases*
  | caseBlock                                      -- pattern, guard?, body*
  | raiseStatement                                 -- exception?, cause?
  | tryStatement (isGroup : Bool)                  -- body*, handlers*, alternative*, final*
  | handler (name : Option String)                 -- type?, body*
  | assertStatement                                -- test, message?
  | importStatement (names : List Alias)
  | importFrom (source : Option String) (names : List Alias) (level : Nat)
  | globalStatement (names : List String)
  | nonlocalStatement (names : List String)
  | passStatement
  | breakStatement
  | continueStatement
  -- patterns
  | matchValue                                     -- value
  | matchSingleton (value : Constant)
  | matchSequence                                  -- patterns*
  | matchMapping (rest : Option String)            -- keys*, patterns*
  | matchClass (attributes : List String)          -- class, patterns*, patterns of attributes*
  | matchStar (name : Option String)
  | matchAs (name : Option String)                 -- pattern?
  | matchOr                                        -- patterns*
  -- whole inputs that open no scope
  | interactive                                    -- statements*
  | functionType                                   -- parameters*, result
  deriving DecidableEq, Repr

/-- How the parameters of a function are divided.  The parameters themselves are listed in the order
positional-only, positional, variadic, keyword-only, keyword rest. -/
structure ParameterLayout where
  positionalOnly : Nat
  positional : Nat
  variadic : Bool
  /-- One entry per keyword-only parameter: whether it has a default. -/
  keywordOnly : List Bool
  keywordRest : Bool
  deriving DecidableEq, Repr

/-- What a comprehension builds. -/
inductive ComprehensionKind where
  | list
  | set
  | dict
  | generator
  deriving DecidableEq, Repr

inductive Tree where
  | name (id : String) (context : Context)
  | constant (value : Constant)
  | slice (lower upper step : List Tree)
  | parameter (id : String) (hint : List Tree)
  | lambda (layout : ParameterLayout) (parameters defaults keywordDefaults : List Tree)
      (body : Tree)
  | function (isAsync : Bool) (id : String) (layout : ParameterLayout)
      (decorators parameters defaults keywordDefaults returns body : List Tree)
  | classDef (id : String) (decorators bases keywords body : List Tree)
  | comprehension (kind : ComprehensionKind) (results clauses : List Tree)
  | clause (isAsync : Bool) (target iterable : Tree) (conditions : List Tree)
  | loop (isAsync : Bool) (target iterable : Tree) (body alternative : List Tree)
  | module (body : List Tree)
  | expression (body : Tree)
  | node (form : Form) (parts : List (List Tree))

instance : Inhabited Tree := ⟨.node .passStatement []⟩

namespace Tree

mutual

/-- The number of trees on the longest path from the root to a leaf. -/
def depth : Tree → Nat
  | name _ _ => 1
  | constant _ => 1
  | slice lower upper step =>
      max (depthOfAll lower) (max (depthOfAll upper) (depthOfAll step)) + 1
  | parameter _ hint => depthOfAll hint + 1
  | lambda _ parameters defaults keywordDefaults body =>
      max (depthOfAll parameters)
        (max (depthOfAll defaults) (max (depthOfAll keywordDefaults) (depth body))) + 1
  | function _ _ _ decorators parameters defaults keywordDefaults returns body =>
      max (depthOfAll decorators)
        (max (depthOfAll parameters)
          (max (depthOfAll defaults)
            (max (depthOfAll keywordDefaults) (max (depthOfAll returns) (depthOfAll body))))) + 1
  | classDef _ decorators bases keywords body =>
      max (depthOfAll decorators)
        (max (depthOfAll bases) (max (depthOfAll keywords) (depthOfAll body))) + 1
  | comprehension _ results clauses => max (depthOfAll results) (depthOfAll clauses) + 1
  | clause _ target iterable conditions =>
      max (depth target) (max (depth iterable) (depthOfAll conditions)) + 1
  | loop _ target iterable body alternative =>
      max (depth target)
        (max (depth iterable) (max (depthOfAll body) (depthOfAll alternative))) + 1
  | module body => depthOfAll body + 1
  | expression body => depth body + 1
  | node _ parts => depthOfParts parts + 1

/-- The greatest depth of some trees. -/
def depthOfAll : List Tree → Nat
  | [] => 0
  | tree :: rest => max (depth tree) (depthOfAll rest)

/-- The greatest depth of the trees in some positions. -/
def depthOfParts : List (List Tree) → Nat
  | [] => 0
  | trees :: rest => max (depthOfAll trees) (depthOfParts rest)

end

end Tree
end Snippet
end AnswerKey
