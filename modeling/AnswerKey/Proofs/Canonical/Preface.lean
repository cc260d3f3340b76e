import AnswerKey.Proofs.Canonical.Composition

namespace AnswerKey
namespace Snippet
namespace Canonical

/-!
Strings at the head of bodies.

A string that stands alone at the head of a module, a function or a class is documentation and is
left out; at the head of any other block it is a statement like the others.  `Prefaced` puts strings
at the head of as many bodies of one kind as one likes, anywhere in a tree.  Documentation is gone
after pruning (`prune_prefaced`), so canonical forms do not tell it; a statement in a block is
counted (`blockLength_prefaced`), and no canonical form changes the count (`blockLength_visit`).
-/

/-! ### Bodies -/

/-- What the statements of a list are the body of. -/
inductive Body where
  /-- A module, a function or a class. -/
  | definition
  /-- A branch of a loop, of a condition, of an attempt, of a match, or what a context manager
  guards. -/
  | block
  deriving DecidableEq, Repr

/-- Whether a body has no string at its head yet.  A definition must have a statement to begin with,
since a module that holds a single string keeps it. -/
def Body.isUnprefaced : Body → List Tree → Bool
  | .definition, [] => false
  | .definition, first :: _ => !isDocstring first
  -- At the head of a block a string means nothing, so there may be any number.
  | .block, _ => true

/-- What the trees at a position of a form are the body of, if of anything. -/
def bodyAt : Form → Nat → Option Body
  | .whileStatement, 1 => some .block
  | .whileStatement, 2 => some .block
  | .ifStatement, 1 => some .block
  | .ifStatement, 2 => some .block
  | .withStatement _, 1 => some .block
  | .tryStatement _, 0 => some .block
  | .tryStatement _, 2 => some .block
  | .tryStatement _, 3 => some .block
  | .handler _, 1 => some .block
  | .caseBlock, 2 => some .block
  | _, _ => none

/-- A statement that is nothing but a string. -/
def stringStatement (codes : List Nat) (marked : Bool) : Tree :=
  .node .expr [[.constant (.str codes marked)]]

mutual

/-- `Prefaced body count tree prefaced` says that `prefaced` is `tree` with strings put at the head
of `count` of its bodies of one kind. -/
inductive Prefaced (body : Body) : Nat → Tree → Tree → Prop
  | refl (tree : Tree) : Prefaced body 0 tree tree
  | function {isAsync id layout decorators parameters defaults keywordDefaults returns}
      {count : Nat} {statements prefaced : List Tree}
      (inside : PrefacedAt body (some .definition) count statements prefaced) :
      Prefaced body count
        (.function isAsync id layout decorators parameters defaults keywordDefaults returns
          statements)
        (.function isAsync id layout decorators parameters defaults keywordDefaults returns
          prefaced)
  | classDef {id decorators bases keywords} {count : Nat} {statements prefaced : List Tree}
      (inside : PrefacedAt body (some .definition) count statements prefaced) :
      Prefaced body count (.classDef id decorators bases keywords statements)
        (.classDef id decorators bases keywords prefaced)
  | module {count : Nat} {statements prefaced : List Tree}
      (inside : PrefacedAt body (some .definition) count statements prefaced) :
      Prefaced body count (.module statements) (.module prefaced)
  | loop {isAsync target iterable} {count more : Nat}
      {statements prefaced alternative prefacedAlternative : List Tree}
      (inside : PrefacedAt body (some .block) count statements prefaced)
      (after : PrefacedAt body (some .block) more alternative prefacedAlternative) :
      Prefaced body (count + more) (.loop isAsync target iterable statements alternative)
        (.loop isAsync target iterable prefaced prefacedAlternative)
  | node {form : Form} {count : Nat} {parts prefaced : List (List Tree)}
      (inside : PrefacedParts body form 0 count parts prefaced) :
      Prefaced body count (.node form parts) (.node form prefaced)

/-- The same for the trees of a list. -/
inductive PrefacedAll (body : Body) : Nat → List Tree → List Tree → Prop
  | nil : PrefacedAll body 0 [] []
  | cons {count more : Nat} {tree prefaced : Tree} {rest prefacedRest : List Tree}
      (first : Prefaced body count tree prefaced)
      (others : PrefacedAll body more rest prefacedRest) :
      PrefacedAll body (count + more) (tree :: rest) (prefaced :: prefacedRest)

/-- The same for the statements of a list that may be a body. -/
inductive PrefacedAt (body : Body) : Option Body → Nat → List Tree → List Tree → Prop
  | keep {own : Option Body} {count : Nat} {trees prefaced : List Tree}
      (inside : PrefacedAll body count trees prefaced) : PrefacedAt body own count trees prefaced
  | preface (codes : List Nat) (marked : Bool) {count : Nat} {trees prefaced : List Tree}
      (unprefaced : body.isUnprefaced trees = true)
      (inside : PrefacedAll body count trees prefaced) :
      PrefacedAt body (some body) (count + 1) trees (stringStatement codes marked :: prefaced)

/-- The same for the positions of a form from the given one on. -/
inductive PrefacedParts (body : Body) :
    Form → Nat → Nat → List (List Tree) → List (List Tree) → Prop
  | nil {form : Form} {position : Nat} : PrefacedParts body form position 0 [] []
  | cons {form : Form} {position count more : Nat} {trees prefaced : List Tree}
      {rest prefacedRest : List (List Tree)}
      (first : PrefacedAt body (bodyAt form position) count trees prefaced)
      (others : PrefacedParts body form (position + 1) more rest prefacedRest) :
      PrefacedParts body form position (count + more) (trees :: rest) (prefaced :: prefacedRest)

end

/-! ### Documentation is left out -/

section Definitions

variable {options : Options}

/-- Bodies whose statements are pruned to the same are, with or without their first strings. -/
theorem pruneBody_congr {trees others : List Tree}
    (same : pruneAll options others = pruneAll options trees) (strip : Bool) :
    pruneBody options strip others = pruneBody options strip trees := by
  cases trees with
  | nil =>
      cases others with
      | nil => rfl
      | cons other more => cases same
  | cons tree rest =>
      cases others with
      | nil => cases same
      | cons other more =>
          rw [pruneAll, pruneAll] at same
          have first := (List.cons.inj same).1
          have docstring : isDocstring other = isDocstring tree := by
            rw [← isDocstring_prune options other, first, isDocstring_prune]
          rw [pruneBody, pruneBody, docstring, first, (List.cons.inj same).2]

/-- A string that is put at the head of a definition is left out again. -/
theorem pruneBody_prefaced {count : Nat} {trees prefaced : List Tree}
    (inside : PrefacedAt .definition (some .definition) count trees prefaced)
    (ofAll : ∀ {count : Nat} {prefaced : List Tree},
      PrefacedAll .definition count trees prefaced →
        pruneAll options prefaced = pruneAll options trees) :
    pruneBody options true prefaced = pruneBody options true trees ∧
      pruneBody options (decide (prefaced.length > 1)) prefaced =
        pruneBody options (decide (trees.length > 1)) trees := by
  cases inside with
  | keep inside =>
      have same := ofAll inside
      have length : prefaced.length = trees.length := by
        rw [← length_pruneAll options prefaced, same, length_pruneAll]
      rw [length]
      exact ⟨pruneBody_congr same _, pruneBody_congr same _⟩
  | @preface codes marked count trees others unprefaced inside =>
      have same := ofAll inside
      have length : others.length = trees.length := by
        rw [← length_pruneAll options others, same, length_pruneAll]
      cases trees with
      | nil => cases unprefaced
      | cons tree rest =>
          have plain : isDocstring tree = false := by
            simpa only [Body.isUnprefaced, Bool.not_eq_true'] using unprefaced
          have long : decide ((stringStatement codes marked :: others).length > 1) = true := by
            simp [length]
          rw [long, pruneBody_of_isDocstring options rfl, same,
            pruneBody_of_not_isDocstring options _ plain,
            pruneBody_of_not_isDocstring options _ plain]
          exact ⟨rfl, rfl⟩

/-- No position of a form is a definition. -/
theorem bodyAt_ne_definition (form : Form) (position : Nat) :
    bodyAt form position ≠ some .definition := by
  unfold bodyAt
  split <;> simp

mutual

/-- A tree with documentation put in is pruned to what the tree without it is pruned to. -/
theorem prune_prefaced (on : options.ignoreDocstrings = true) (tree : Tree) {count : Nat}
    {prefaced : Tree} (inside : Prefaced .definition count tree prefaced) :
    prune options prefaced = prune options tree := by
  cases inside with
  | refl => rfl
  | function inside =>
      rw [prune, prune, on, (pruneBody_prefaced inside (pruneAll_prefaced on _)).1]
  | classDef inside =>
      rw [prune, prune, on, (pruneBody_prefaced inside (pruneAll_prefaced on _)).1]
  | module inside =>
      rw [prune, prune, on, Bool.true_and, Bool.true_and,
        (pruneBody_prefaced inside (pruneAll_prefaced on _)).2]
  | loop inside after =>
      cases inside with
      | keep inside =>
          cases after with
          | keep after =>
              rw [prune, prune, pruneAll_prefaced on _ inside, pruneAll_prefaced on _ after]
  | node inside => rw [prune, prune, pruneParts_prefaced on _ inside]

theorem pruneAll_prefaced (on : options.ignoreDocstrings = true) (trees : List Tree) {count : Nat}
    {prefaced : List Tree} (inside : PrefacedAll .definition count trees prefaced) :
    pruneAll options prefaced = pruneAll options trees := by
  cases inside with
  | nil => rfl
  | cons first others =>
      rw [pruneAll, pruneAll, prune_prefaced on _ first, pruneAll_prefaced on _ others]

theorem pruneParts_prefaced (on : options.ignoreDocstrings = true) {form : Form} {position : Nat}
    (parts : List (List Tree)) {count : Nat} {prefaced : List (List Tree)}
    (inside : PrefacedParts .definition form position count parts prefaced) :
    pruneParts options prefaced = pruneParts options parts := by
  cases inside with
  | nil => rfl
  | cons first others =>
      rw [pruneParts, pruneParts, pruneParts_prefaced on _ others]
      generalize own : bodyAt form position = body at first
      cases first with
      | keep inside => rw [pruneAll_prefaced on _ inside]
      | preface => exact absurd own (bodyAt_ne_definition form position)

end

end Definitions

/-! ### Statements in blocks are kept -/

/-- The number of statements of a list, if it is a block. -/
def lengthAt (own : Option Body) (trees : List Tree) : Nat :=
  if own = some .block then trees.length else 0

theorem lengthAt_definition (trees : List Tree) : lengthAt (some .definition) trees = 0 :=
  if_neg nofun

mutual

/-- The number of statements that stand in the blocks of a tree. -/
def blockLength : Tree → Nat
  | .function _ _ _ _ _ _ _ _ body => blockLengthAll body
  | .classDef _ _ _ _ body => blockLengthAll body
  | .module body => blockLengthAll body
  | .loop _ _ _ body alternative =>
      lengthAt (some .block) body + blockLengthAll body +
        (lengthAt (some .block) alternative + blockLengthAll alternative)
  | .node form parts => blockLengthParts form 0 parts
  | _ => 0

/-- The same for some trees. -/
def blockLengthAll : List Tree → Nat
  | [] => 0
  | tree :: rest => blockLength tree + blockLengthAll rest

/-- The same for the positions of a form from the given one on. -/
def blockLengthParts (form : Form) (position : Nat) : List (List Tree) → Nat
  | [] => 0
  | trees :: rest =>
      lengthAt (bodyAt form position) trees + blockLengthAll trees +
        blockLengthParts form (position + 1) rest

end

theorem blockLength_of_isDocstring {tree : Tree} (docstring : isDocstring tree = true) :
    blockLength tree = 0 := by
  rcases exists_eq_docstring docstring with ⟨codes, marked, rfl⟩
  rfl

section Visit

variable (options : Options)

mutual

/-- A visit neither adds a statement to a block nor leaves one out. -/
theorem blockLength_visit (tree : Tree) (scopes : Scopes) :
    blockLength ((visit options tree).run scopes).1 = blockLength tree := by
  cases tree with
  | slice lower upper step =>
      rcases exists_visit_slice options lower upper step scopes with ⟨_, _, _, slice⟩
      rw [slice, blockLength, blockLength] <;> nofun
  | function isAsync id layout decorators parameters defaults keywordDefaults returns body =>
      simp only [visit, run_then, run_done, blockLength, blockLengthAll_visitBody]
  | classDef id decorators bases keywords body =>
      simp only [visit, run_then, run_done, blockLength, blockLengthAll_visitBody]
  | loop isAsync target iterable body alternative =>
      simp only [visit, run_then, run_done, blockLength, lengthAt, length_visitAll,
        blockLengthAll_visitAll]
  | module body => simp only [visit, run_then, run_done, blockLength, blockLengthAll_visitBody]
  | node form parts => simp only [visit, run_then, run_done, blockLength, blockLengthParts_visit]
  | _ => simp only [visit, run_then, run_done, blockLength]

theorem blockLengthAll_visitAll (trees : List Tree) (scopes : Scopes) :
    blockLengthAll ((visitAll options trees).run scopes).1 = blockLengthAll trees := by
  cases trees with
  | nil => rfl
  | cons tree rest =>
      simp only [visitAll, run_then, run_done, blockLengthAll, blockLength_visit tree,
        blockLengthAll_visitAll rest]

theorem blockLengthAll_visitBody (strip : Bool) (body : List Tree) (scopes : Scopes) :
    blockLengthAll ((visitBody options strip body).run scopes).1 = blockLengthAll body := by
  cases body with
  | nil => rfl
  | cons first rest =>
      rw [visitBody]
      cases stripped : strip && isDocstring first with
      | true =>
          have docstring : isDocstring first = true := (Bool.and_eq_true_iff.mp stripped).2
          rw [if_pos rfl, blockLengthAll_visitAll rest, blockLengthAll,
            blockLength_of_isDocstring docstring, Nat.zero_add]
      | false =>
          simp only [Bool.false_eq_true, if_false, run_then, run_done, blockLengthAll,
            blockLength_visit first, blockLengthAll_visitAll rest]

theorem blockLengthParts_visit (form : Form) (position : Nat) (parts : List (List Tree))
    (scopes : Scopes) :
    blockLengthParts form position ((visitParts options parts).run scopes).1 =
      blockLengthParts form position parts := by
  cases parts with
  | nil => rfl
  | cons trees rest =>
      simp only [visitParts, run_then, run_done, blockLengthParts, lengthAt, length_visitAll,
        blockLengthAll_visitAll trees, blockLengthParts_visit form (position + 1) rest]

end

end Visit

section Blocks

/-- A list with strings put in has that many statements more, counted in its blocks. -/
theorem blockLengthAt_prefaced {own : Option Body} {count : Nat} {trees prefaced : List Tree}
    (inside : PrefacedAt .block own count trees prefaced)
    (ofAll : ∀ {count : Nat} {prefaced : List Tree}, PrefacedAll .block count trees prefaced →
      prefaced.length = trees.length ∧ blockLengthAll prefaced = blockLengthAll trees + count) :
    lengthAt own prefaced + blockLengthAll prefaced =
      lengthAt own trees + blockLengthAll trees + count := by
  cases inside with
  | keep inside =>
      have same := ofAll inside
      rw [lengthAt, lengthAt, same.1, same.2, Nat.add_assoc]
  | preface codes marked unprefaced inside =>
      have same := ofAll inside
      have string : blockLength (stringStatement codes marked) = 0 := rfl
      rw [lengthAt, lengthAt, if_pos rfl, if_pos rfl, List.length_cons, same.1, blockLengthAll,
        string, same.2]
      omega

mutual

/-- A tree with strings put into its blocks has that many statements more in them. -/
theorem blockLength_prefaced (tree : Tree) {count : Nat} {prefaced : Tree}
    (inside : Prefaced .block count tree prefaced) :
    blockLength prefaced = blockLength tree + count := by
  cases inside with
  | refl => rfl
  | function inside =>
      have counted := blockLengthAt_prefaced inside (blockLengthAll_prefaced _)
      simpa only [blockLength, lengthAt_definition, Nat.zero_add] using counted
  | classDef inside =>
      have counted := blockLengthAt_prefaced inside (blockLengthAll_prefaced _)
      simpa only [blockLength, lengthAt_definition, Nat.zero_add] using counted
  | module inside =>
      have counted := blockLengthAt_prefaced inside (blockLengthAll_prefaced _)
      simpa only [blockLength, lengthAt_definition, Nat.zero_add] using counted
  | loop inside after =>
      have counted := blockLengthAt_prefaced inside (blockLengthAll_prefaced _)
      have countedAfter := blockLengthAt_prefaced after (blockLengthAll_prefaced _)
      rw [blockLength, blockLength, counted, countedAfter]
      omega
  | node inside => exact blockLengthParts_prefaced _ inside

theorem blockLengthAll_prefaced (trees : List Tree) {count : Nat} {prefaced : List Tree}
    (inside : PrefacedAll .block count trees prefaced) :
    prefaced.length = trees.length ∧ blockLengthAll prefaced = blockLengthAll trees + count := by
  cases inside with
  | nil => exact ⟨rfl, rfl⟩
  | cons first others =>
      have counted := blockLength_prefaced _ first
      have countedOthers := blockLengthAll_prefaced _ others
      rw [List.length_cons, List.length_cons, countedOthers.1, blockLengthAll, blockLengthAll,
        counted, countedOthers.2]
      exact ⟨rfl, by omega⟩

theorem blockLengthParts_prefaced {form : Form} {position : Nat} (parts : List (List Tree))
    {count : Nat} {prefaced : List (List Tree)}
    (inside : PrefacedParts .block form position count parts prefaced) :
    blockLengthParts form position prefaced = blockLengthParts form position parts + count := by
  cases inside with
  | nil => rfl
  | cons first others =>
      have counted := blockLengthAt_prefaced first (blockLengthAll_prefaced _)
      have countedOthers := blockLengthParts_prefaced _ others
      rw [blockLengthParts, blockLengthParts, counted, countedOthers]
      omega

end

end Blocks

/-! ### What a canonical form tells -/

/-- The options that leave out documentation and nothing else. -/
def Options.docstringsOnly : Options :=
  ⟨false, false, true⟩

/-- Documentation may be left out before everything else. -/
theorem ofTree_prune_docstrings {options : Options} (on : options.ignoreDocstrings = true)
    (tree : Tree) :
    ofTree { options with ignoreDocstrings := false } (prune .docstringsOnly tree) =
      ofTree options tree := by
  have pruned : ofTree .docstringsOnly tree = prune .docstringsOnly tree := by
    rw [ofTree_eq_prune, Options.docstringsOnly, ofTree_namesOnly_false]
  have joined :
      Options.docstringsOnly.join { options with ignoreDocstrings := false } = options := by
    cases options
    cases on
    rfl
  rw [← pruned, ofTree_ofTree _ _ rfl rfl, joined]

/-- A definition that stands in a block that stands in a definition, each with the given statements
at its head. -/
def nestedDefinitions (ofModule ofFunction ofBlock ofClass : List Tree) : Tree :=
  .module (ofModule ++ [.function false "f" ⟨0, 0, false, [], false⟩ [] [] [] [] []
    (ofFunction ++ [.node .ifStatement [[.name "a" .load],
      ofBlock ++ [.classDef "C" [] [] [] (ofClass ++ [.node .passStatement []])], []]])])

/-- Documentation never tells canonical forms apart, and a string at the head of any other block
always does. -/
theorem ofTree_prefaced {options : Options} (on : options.ignoreDocstrings = true) (tree : Tree) :
    (∀ count prefaced, Prefaced .definition count tree prefaced →
      ofTree options prefaced = ofTree options tree) ∧
    (∀ count prefaced, Prefaced .block count tree prefaced → 0 < count →
      ofTree options prefaced ≠ ofTree options tree) := by
  constructor
  · intro count prefaced inside
    rw [← ofTree_prune_docstrings on prefaced, prune_prefaced rfl tree inside,
      ofTree_prune_docstrings on]
  · intro count prefaced inside any same
    have counted := blockLength_prefaced tree inside
    have kept := blockLength_visit options prefaced .empty
    rw [← blockLength_visit options tree .empty] at counted
    change blockLength (ofTree options prefaced) = _ at kept
    rw [same] at kept
    change _ = blockLength (ofTree options tree) + count at counted
    omega

/-- Three strings at the head of definitions go unnoticed; one at the head of a block does not. -/
theorem ofTree_prefaced_nested :
    let string := stringStatement [97] false
    let tree := nestedDefinitions [] [] [] []
    Prefaced .definition 3 tree (nestedDefinitions [string] [string] [] [string]) ∧
      ofTree .standard (nestedDefinitions [string] [string] [] [string]) =
        ofTree .standard tree ∧
      Prefaced .block 1 tree (nestedDefinitions [] [] [string] []) ∧
      ofTree .standard (nestedDefinitions [] [] [string] []) ≠ ofTree .standard tree := by
  intro string tree
  obtain ⟨_, documented, rfl⟩ : ∃ count, Prefaced .definition count tree
      (nestedDefinitions [string] [string] [] [string]) ∧ count = 3 :=
    ⟨_, .module <| .preface [97] false rfl <| .cons (.function <| .preface [97] false rfl <|
      .cons (.node <| .cons (.keep <| .cons (.refl _) .nil) <|
        .cons (.keep <| .cons (.classDef <| .preface [97] false rfl <|
          .cons (.refl _) .nil) .nil) <| .cons (.keep .nil) .nil) .nil) .nil, rfl⟩
  obtain ⟨_, remarked, rfl⟩ : ∃ count, Prefaced .block count tree
      (nestedDefinitions [] [] [string] []) ∧ count = 1 :=
    ⟨_, .module <| .keep <| .cons (.function <| .keep <|
      .cons (.node <| .cons (.keep <| .cons (.refl _) .nil) <|
        .cons (.preface [97] false rfl <| .cons (.refl _) .nil) <|
          .cons (.keep .nil) .nil) .nil) .nil, rfl⟩
  have whole := @ofTree_prefaced .standard rfl tree
  exact ⟨documented, whole.1 _ _ documented, remarked, whole.2 _ _ remarked (by decide)⟩

end Canonical
end Snippet
end AnswerKey
