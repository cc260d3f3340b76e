import AnswerKey.Json
import AnswerKey.Snippet.Dump
import AnswerKey.Snippet.Parse
import AnswerKey.Snippet.Render

namespace AnswerKey
namespace Snippet

/-!
The canonical form of a tree, in which differences of no importance are gone.

Loop targets, parameters and comprehension targets are renamed to placeholders in the order in which
they are first bound; bounds of a slice that select what an absent bound selects are dropped; leading
documentation strings are removed.  Each of the three can be switched off.

The tree is walked once, with a stack of scopes.  A module, an expression, a function, a lambda, a
class and a comprehension open a scope; what they evaluate outside of it (decorators, defaults, type
hints, bases, the first iterable) is visited before.
-/

namespace Canonical

structure Options where
  renameLocals : Bool
  normalizeSlices : Bool
  ignoreDocstrings : Bool
  deriving DecidableEq, Repr

/-- Everything on. -/
def Options.standard : Options := ⟨true, true, true⟩

instance : Inhabited Options := ⟨.standard⟩

/-- The options given by the fields of an object.  A field counts by whether its value counts as
true, and an absent one leaves the option on. -/
def Options.ofFields (fields : List (String × Json)) : Options :=
  let on (key : String) : Bool := ((Json.lookup? key fields).map Json.isTruthy).getD true
  ⟨on "renameLocals", on "normalizeSlices", on "ignoreDocstrings"⟩

/-! ### Scopes -/

/-- The names bound so far with the numbers of their placeholders, the innermost scope first, and
the number of the next placeholder. -/
structure Scopes where
  stack : List (List (String × Nat))
  next : Nat
  deriving DecidableEq, Repr

/-- The placeholder of a given number. -/
def placeholder (index : Nat) : String :=
  "_v" ++ toString index

namespace Scopes

def empty : Scopes := ⟨[], 0⟩

/-- Open a scope. -/
def push : StateM Scopes Unit :=
  modify fun scopes => { scopes with stack := [] :: scopes.stack }

/-- Close the innermost scope. -/
def pop : StateM Scopes Unit :=
  modify fun scopes => { scopes with stack := scopes.stack.drop 1 }

/-- The number of the innermost binding of a name. -/
def find? (id : String) : List (List (String × Nat)) → Option Nat
  | [] => none
  | scope :: rest =>
      match scope.lookup id with
      | some index => some index
      | none => find? id rest

/-- The name a reference is replaced by: the placeholder of its binding, or itself. -/
def resolve (id : String) : StateM Scopes String := fun scopes =>
  match find? id scopes.stack with
  | some index => (placeholder index, scopes)
  | none => (id, scopes)

/-- The name a binding is replaced by.  A name that is new in the innermost scope gets the next
placeholder; without a scope nothing is bound. -/
def bind (options : Options) (id : String) : StateM Scopes String := fun scopes =>
  match scopes.stack with
  | [] => (id, scopes)
  | scope :: rest =>
      if options.renameLocals then
        match scope.lookup id with
        | some index => (placeholder index, scopes)
        | none =>
            (placeholder scopes.next, ⟨((id, scopes.next) :: scope) :: rest, scopes.next + 1⟩)
      else (id, scopes)

end Scopes

/-! ### Slices and documentation -/

def isInt (value : Nat) : Tree → Bool
  | .constant (.int other) => other == value
  | _ => false

def isNone : Tree → Bool
  | .constant .none => true
  | _ => false

/-- Drop a bound that an absent one would stand for. -/
def dropBound (isDefault : Tree → Bool) (bound : List Tree) : List Tree :=
  if bound.any isDefault then [] else bound

/-- The three bounds of a slice without those that an absent bound stands for: none at all, a lower
bound of zero and a step of one. -/
def simplifySlice (lower upper step : List Tree) : List Tree × List Tree × List Tree :=
  (dropBound (fun tree => isInt 0 tree || isNone tree) lower, dropBound isNone upper,
    dropBound (fun tree => isInt 1 tree || isNone tree) step)

/-- Whether a statement is nothing but a string. -/
def isDocstring : Tree → Bool
  | .node .expr [[.constant (.str _ _)]] => true
  | _ => false

/-- Bind the names of parameters, in order. -/
def bindParameters (options : Options) : List Tree → StateM Scopes (List Tree)
  | [] => pure []
  | .parameter id hint :: rest => do
      let id ← Scopes.bind options id
      let rest ← bindParameters options rest
      pure (.parameter id hint :: rest)
  | tree :: rest => do
      let rest ← bindParameters options rest
      pure (tree :: rest)

/-! ### The walk -/

mutual

/-- Visit a tree. -/
def visit (options : Options) : Tree → StateM Scopes Tree
  | .name id context => do pure (.name (← Scopes.resolve id) context)
  | .constant value => pure (.constant value)
  | .slice lower upper step => do
      let newLower ← visitAll options lower
      let newUpper ← visitAll options upper
      let newStep ← visitAll options step
      if options.normalizeSlices then
        let (newLower, newUpper, newStep) := simplifySlice newLower newUpper newStep
        pure (.slice newLower newUpper newStep)
      else pure (.slice newLower newUpper newStep)
  | .parameter id hint => do pure (.parameter id (← visitAll options hint))
  | .lambda layout parameters defaults keywordDefaults body => do
      let defaults ← visitAll options defaults
      let keywordDefaults ← visitAll options keywordDefaults
      let parameters ← visitAll options parameters
      Scopes.push
      let parameters ← bindParameters options parameters
      let body ← visit options body
      Scopes.pop
      pure (.lambda layout parameters defaults keywordDefaults body)
  | .function isAsync id layout decorators parameters defaults keywordDefaults returns body => do
      let decorators ← visitAll options decorators
      let defaults ← visitAll options defaults
      let keywordDefaults ← visitAll options keywordDefaults
      let parameters ← visitAll options parameters
      let returns ← visitAll options returns
      Scopes.push
      let parameters ← bindParameters options parameters
      let body ← visitBody options options.ignoreDocstrings body
      Scopes.pop
      pure (.function isAsync id layout decorators parameters defaults keywordDefaults returns body)
  | .classDef id decorators bases keywords body => do
      let decorators ← visitAll options decorators
      let bases ← visitAll options bases
      let keywords ← visitAll options keywords
      Scopes.push
      let body ← visitBody options options.ignoreDocstrings body
      Scopes.pop
      pure (.classDef id decorators bases keywords body)
  | .comprehension kind results clauses => do
      let first ← visitFirstIterable options clauses
      Scopes.push
      let clauses ← visitClauses options first clauses
      let results ← visitAll options results
      Scopes.pop
      pure (.comprehension kind results clauses)
  | .clause isAsync target iterable conditions => do
      let iterable ← visit options iterable
      let target ← bindTarget options target
      let conditions ← visitAll options conditions
      pure (.clause isAsync target iterable conditions)
  | .loop isAsync target iterable body alternative => do
      let iterable ← visit options iterable
      let target ← bindTarget options target
      let body ← visitAll options body
      let alternative ← visitAll options alternative
      pure (.loop isAsync target iterable body alternative)
  | .module body => do
      Scopes.push
      let body ← visitBody options (options.ignoreDocstrings && body.length > 1) body
      Scopes.pop
      pure (.module body)
  | .expression body => do
      Scopes.push
      let body ← visit options body
      Scopes.pop
      pure (.expression body)
  | .node form parts => do pure (.node form (← visitParts options parts))

/-- Visit some trees in order. -/
def visitAll (options : Options) : List Tree → StateM Scopes (List Tree)
  | [] => pure []
  | tree :: rest => do
      let tree ← visit options tree
      let rest ← visitAll options rest
      pure (tree :: rest)

/-- Visit the trees of some positions in order. -/
def visitParts (options : Options) : List (List Tree) → StateM Scopes (List (List Tree))
  | [] => pure []
  | trees :: rest => do
      let trees ← visitAll options trees
      let rest ← visitParts options rest
      pure (trees :: rest)

/-- Visit the statements of a body, leaving out a leading documentation string if asked to. -/
def visitBody (options : Options) (strip : Bool) : List Tree → StateM Scopes (List Tree)
  | [] => pure []
  | first :: rest =>
      if strip && isDocstring first then visitAll options rest
      else do
        let first ← visit options first
        let rest ← visitAll options rest
        pure (first :: rest)

/-- Visit the iterable of the first clause of a comprehension. -/
def visitFirstIterable (options : Options) : List Tree → StateM Scopes (Option Tree)
  | .clause _ _ iterable _ :: _ => do pure (some (← visit options iterable))
  | _ => pure none

/-- Visit the clauses of a comprehension in its own scope; the iterable of the first one may have
been visited before. -/
def visitClauses (options : Options) (visited : Option Tree) :
    List Tree → StateM Scopes (List Tree)
  | [] => pure []
  | .clause isAsync target iterable conditions :: rest => do
      let iterable ←
        match visited with
        | some tree => pure tree
        | none => visit options iterable
      let target ← bindTarget options target
      let conditions ← visitAll options conditions
      let rest ← visitClauses options none rest
      pure (.clause isAsync target iterable conditions :: rest)
  | tree :: rest => do
      let tree ← visit options tree
      let rest ← visitClauses options none rest
      pure (tree :: rest)

/-- Bind the names of a target; a target that is no name is only visited. -/
def bindTarget (options : Options) : Tree → StateM Scopes Tree
  | .name id context => do pure (.name (← Scopes.bind options id) context)
  | .node (.tuple context) parts => do
      pure (.node (.tuple context) (← bindTargetParts options parts))
  | .node (.list context) parts => do
      pure (.node (.list context) (← bindTargetParts options parts))
  | .node (.starred context) parts => do
      pure (.node (.starred context) (← bindTargetParts options parts))
  | .node form parts => do pure (.node form (← visitParts options parts))
  | tree => pure tree

/-- Bind the names of some targets in order. -/
def bindTargets (options : Options) : List Tree → StateM Scopes (List Tree)
  | [] => pure []
  | tree :: rest => do
      let tree ← bindTarget options tree
      let rest ← bindTargets options rest
      pure (tree :: rest)

/-- Bind the names of the targets of some positions in order. -/
def bindTargetParts (options : Options) : List (List Tree) → StateM Scopes (List (List Tree))
  | [] => pure []
  | trees :: rest => do
      let trees ← bindTargets options trees
      let rest ← bindTargetParts options rest
      pure (trees :: rest)

end

/-- The canonical form of a tree. -/
def ofTree (options : Options) (tree : Tree) : Tree :=
  (visit options tree .empty).1

/-- How deep a tree may be to have a canonical form. -/
def depthLimit : Nat := 450

/-- The canonical tree of a text, if the text is well formed and not nested too deeply. -/
def tree? (options : Options) (mode : Mode) (source : String) : Option Tree :=
  match Tree.parse? mode source with
  | some tree => if tree.depth ≤ depthLimit then some (ofTree options tree) else none
  | none => none

/-- The text of the canonical form of a source text; nothing when the source has none. -/
def dump? (options : Options) (mode : Mode) (source : String) :
    Except WritingFault (Option String) :=
  (tree? options mode source).mapM Tree.dump?

/-- The canonical form of a source text, written as a source text itself. -/
def source? (options : Options) (mode : Mode) (source : String) :
    Except WritingFault (Option String) :=
  (tree? options mode source).mapM Tree.render?

end Canonical
end Snippet
end AnswerKey
