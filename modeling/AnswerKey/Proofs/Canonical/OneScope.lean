import AnswerKey.Proofs.Canonical.Occurrence

namespace AnswerKey
namespace Snippet

/-!
Programs with one scope.

Where nothing opens a scope, every name is a variable of the module.  The canonical form of such a
program depends on nothing but its names (`Canonical.ofTree_of_oneScope`), and a change of names
is a change of the names in its walk (`Canonical.mapNames_eq_of_names`).
-/

/-! ### Renaming -/

namespace Tree

mutual

/-- Put another name in the place of every name of a tree. -/
def mapNames (change : String → String) : Tree → Tree
  | name id context => name (change id) context
  | constant value => constant value
  | slice lower upper step =>
      slice (mapNamesAll change lower) (mapNamesAll change upper) (mapNamesAll change step)
  | parameter id hint => parameter (change id) (mapNamesAll change hint)
  | lambda layout parameters defaults keywordDefaults body =>
      lambda layout (mapNamesAll change parameters) (mapNamesAll change defaults)
        (mapNamesAll change keywordDefaults) (mapNames change body)
  | function isAsync id layout decorators parameters defaults keywordDefaults returns body =>
      function isAsync id layout (mapNamesAll change decorators) (mapNamesAll change parameters)
        (mapNamesAll change defaults) (mapNamesAll change keywordDefaults)
        (mapNamesAll change returns) (mapNamesAll change body)
  | classDef id decorators bases keywords body =>
      classDef id (mapNamesAll change decorators) (mapNamesAll change bases)
        (mapNamesAll change keywords) (mapNamesAll change body)
  | comprehension kind results clauses =>
      comprehension kind (mapNamesAll change results) (mapNamesAll change clauses)
  | clause isAsync target iterable conditions =>
      clause isAsync (mapNames change target) (mapNames change iterable)
        (mapNamesAll change conditions)
  | loop isAsync target iterable body alternative =>
      loop isAsync (mapNames change target) (mapNames change iterable) (mapNamesAll change body)
        (mapNamesAll change alternative)
  | module body => module (mapNamesAll change body)
  | expression body => expression (mapNames change body)
  | node form parts => node form (mapNamesParts change parts)

/-- The same for some trees. -/
def mapNamesAll (change : String → String) : List Tree → List Tree
  | [] => []
  | tree :: rest => mapNames change tree :: mapNamesAll change rest

/-- The same for the trees of some positions. -/
def mapNamesParts (change : String → String) : List (List Tree) → List (List Tree)
  | [] => []
  | trees :: rest => mapNamesAll change trees :: mapNamesParts change rest

end

end Tree

namespace Canonical

/-- The event of a renamed tree. -/
def Event.mapName (change : String → String) : Event → Event
  | use id => use (change id)
  | bind id => bind (change id)
  | event => event

/-! ### Programs with one scope -/

mutual

/-- Whether a tree opens no scope, binds nothing but the names of loops, and has no slice. -/
def opensNoScope : Tree → Bool
  | .name _ _ => true
  | .constant _ => true
  | .loop _ (.name _ _) iterable body alternative =>
      opensNoScope iterable && opensNoScopeAll body && opensNoScopeAll alternative
  | .node _ parts => opensNoScopeParts parts
  | _ => false

/-- The same for some trees. -/
def opensNoScopeAll : List Tree → Bool
  | [] => true
  | tree :: rest => opensNoScope tree && opensNoScopeAll rest

/-- The same for the trees of some positions. -/
def opensNoScopeParts : List (List Tree) → Bool
  | [] => true
  | trees :: rest => opensNoScopeAll trees && opensNoScopeParts rest

end

/-- The body of a module in which all names share one scope, without documentation. -/
structure OneScope (body : List Tree) : Prop where
  opensNone : opensNoScopeAll body = true
  undocumented : body.head?.any isDocstring = false

/-! ### What such programs do not depend on -/

section OneScope

mutual

/-- A tree that opens no scope is visited in the same way under all options. -/
theorem visit_of_opensNoScope (options : Options) (tree : Tree)
    (flat : opensNoScope tree = true) :
    visit options tree = visit (.namesOnly options.renameLocals) tree := by
  match tree with
  | .name id context => simp only [visit]
  | .constant value => simp only [visit]
  | .loop isAsync (.name id context) iterable body alternative =>
      simp only [opensNoScope, Bool.and_eq_true] at flat
      have bound : Scopes.bind options id = Scopes.bind (.namesOnly options.renameLocals) id := rfl
      simp only [visit, bindTarget, bound, visit_of_opensNoScope options iterable flat.1.1,
        visitAll_of_opensNoScope options body flat.1.2,
        visitAll_of_opensNoScope options alternative flat.2]
  | .node form parts =>
      simp only [visit, visitParts_of_opensNoScope options parts flat]

theorem visitAll_of_opensNoScope (options : Options) (trees : List Tree)
    (flat : opensNoScopeAll trees = true) :
    visitAll options trees = visitAll (.namesOnly options.renameLocals) trees := by
  match trees with
  | [] => simp only [visitAll]
  | tree :: rest =>
      rw [opensNoScopeAll, Bool.and_eq_true] at flat
      simp only [visitAll, visit_of_opensNoScope options tree flat.1,
        visitAll_of_opensNoScope options rest flat.2]

theorem visitParts_of_opensNoScope (options : Options) (parts : List (List Tree))
    (flat : opensNoScopeParts parts = true) :
    visitParts options parts = visitParts (.namesOnly options.renameLocals) parts := by
  match parts with
  | [] => simp only [visitParts]
  | trees :: rest =>
      rw [opensNoScopeParts, Bool.and_eq_true] at flat
      simp only [visitParts, visitAll_of_opensNoScope options trees flat.1,
        visitParts_of_opensNoScope options rest flat.2]

end

/-- A program with one scope has nothing but names to be replaced. -/
theorem ofTree_of_oneScope (options : Options) {body : List Tree} (scope : OneScope body) :
    ofTree options (.module body) = ofTree (.namesOnly options.renameLocals) (.module body) := by
  have visited : ∀ strip, visitBody options strip body =
      visitAll (.namesOnly options.renameLocals) body := by
    intro strip
    rw [← visitAll_of_opensNoScope options body scope.opensNone]
    cases body with
    | nil => simp only [visitBody, visitAll]
    | cons first rest =>
        have plain : isDocstring first = false := scope.undocumented
        simp only [visitBody, visitAll, plain, Bool.and_false, Bool.false_eq_true, if_false]
  have same : visit options (.module body) =
      visit (.namesOnly options.renameLocals) (.module body) := by
    simp only [visit, visited, Options.namesOnly, Bool.false_and, visitBody_keep]
  rw [ofTree, ofTree, same]

end OneScope

/-! ### Events without scopes -/

section Flat

/-- Some events stand for names. -/
def Flat (events : List Event) : Prop :=
  ∀ event ∈ events, ∃ id, event = .use id ∨ event = .bind id

theorem flat_append {before after : List Event} :
    Flat (before ++ after) ↔ Flat before ∧ Flat after :=
  List.forall_mem_append

theorem flat_singleton (id : String) : Flat [.use id] ∧ Flat [.bind id] :=
  ⟨fun _ member => ⟨id, .inl (List.mem_singleton.mp member)⟩,
    fun _ member => ⟨id, .inr (List.mem_singleton.mp member)⟩⟩

mutual

theorem flat_walk (tree : Tree) (flat : opensNoScope tree = true) : Flat (walk tree) := by
  match tree with
  | .name id context => exact (flat_singleton id).1
  | .constant value => exact nofun
  | .loop isAsync (.name id context) iterable body alternative =>
      simp only [opensNoScope, Bool.and_eq_true] at flat
      simp only [walk, walkTarget, flat_append]
      exact ⟨⟨⟨flat_walk iterable flat.1.1, (flat_singleton id).2⟩, flat_walkAll body flat.1.2⟩,
        flat_walkAll alternative flat.2⟩
  | .node form parts => exact flat_walkParts parts flat

theorem flat_walkAll (trees : List Tree) (flat : opensNoScopeAll trees = true) :
    Flat (walkAll trees) := by
  match trees with
  | [] => exact nofun
  | tree :: rest =>
      rw [opensNoScopeAll, Bool.and_eq_true] at flat
      rw [walkAll, flat_append]
      exact ⟨flat_walk tree flat.1, flat_walkAll rest flat.2⟩

theorem flat_walkParts (parts : List (List Tree)) (flat : opensNoScopeParts parts = true) :
    Flat (walkParts parts) := by
  match parts with
  | [] => exact nofun
  | trees :: rest =>
      rw [opensNoScopeParts, Bool.and_eq_true] at flat
      rw [walkParts, flat_append]
      exact ⟨flat_walkAll trees flat.1, flat_walkParts rest flat.2⟩

end

end Flat

/-! ### Renamed programs -/

section Rename

variable (change : String → String)

mutual

/-- Renaming a tree is filling it with its own names after the change. -/
theorem fill_mapNames (tree : Tree) (flat : opensNoScope tree = true) (others : List String) :
    (fill tree).run ((occurrences (walk tree)).map change ++ others) =
      (tree.mapNames change, others) := by
  match tree with
  | .name id context => rfl
  | .constant value => rfl
  | .loop isAsync (.name id context) iterable body alternative =>
      simp only [opensNoScope, Bool.and_eq_true] at flat
      have target : (fillTarget (.name id context)).run
          ((occurrences (walkTarget (.name id context))).map change ++
            ((occurrences (walkAll body)).map change ++
              ((occurrences (walkAll alternative)).map change ++ others))) =
          ((Tree.name id context).mapNames change, (occurrences (walkAll body)).map change ++
            ((occurrences (walkAll alternative)).map change ++ others)) := rfl
      simp only [walk, fill, occurrences_append, List.map_append, List.append_assoc, run_then,
        run_done, Tree.mapNames, fill_mapNames iterable flat.1.1, target,
        fillAll_mapNames body flat.1.2, fillAll_mapNames alternative flat.2]
  | .node form parts =>
      simp only [walk, fill, run_then, run_done, Tree.mapNames, fillParts_mapNames parts flat]

theorem fillAll_mapNames (trees : List Tree) (flat : opensNoScopeAll trees = true)
    (others : List String) :
    (fillAll trees).run ((occurrences (walkAll trees)).map change ++ others) =
      (Tree.mapNamesAll change trees, others) := by
  match trees with
  | [] => rfl
  | tree :: rest =>
      rw [opensNoScopeAll, Bool.and_eq_true] at flat
      simp only [walkAll, fillAll, occurrences_append, List.map_append, List.append_assoc, run_then,
        run_done, Tree.mapNamesAll, fill_mapNames tree flat.1, fillAll_mapNames rest flat.2]

theorem fillParts_mapNames (parts : List (List Tree)) (flat : opensNoScopeParts parts = true)
    (others : List String) :
    (fillParts parts).run ((occurrences (walkParts parts)).map change ++ others) =
      (Tree.mapNamesParts change parts, others) := by
  match parts with
  | [] => rfl
  | trees :: rest =>
      rw [opensNoScopeParts, Bool.and_eq_true] at flat
      simp only [walkParts, fillParts, occurrences_append, List.map_append, List.append_assoc,
        run_then, run_done, Tree.mapNamesParts, fillAll_mapNames trees flat.1,
        fillParts_mapNames rest flat.2]

end

/-- The events of a renamed tree are those of the tree after the change. -/
theorem relabel_mapName (events : List Event) :
    (relabel events).run ((occurrences events).map change) =
      (events.map (Event.mapName change), []) := by
  induction events with
  | nil => rfl
  | cons event rest ih =>
      cases event <;>
        exact congrArg (fun relabelled => (_ :: relabelled.1, relabelled.2)) ih

theorem walkAll_mapNames {trees : List Tree} (flat : opensNoScopeAll trees = true) :
    walkAll (Tree.mapNamesAll change trees) = (walkAll trees).map (Event.mapName change) := by
  have relabelled := relabel_walkAll trees ((occurrences (walkAll trees)).map change)
  have filled := fillAll_mapNames change trees flat []
  rw [List.append_nil] at filled
  rw [relabel_mapName, filled] at relabelled
  exact (congrArg Prod.fst relabelled).symm

/-- A program is a renaming of another one with the same skeleton when its names are the changed
names of the other. -/
theorem mapNames_eq_of_names {first second : List Tree} (flat : opensNoScopeAll first = true)
    (skeletons : skeleton (.module first) = skeleton (.module second))
    (names : (occurrences (walkAll first)).map change = occurrences (walkAll second)) :
    (Tree.module first).mapNames change = .module second := by
  have fillers : fill (.module first) = fill (.module second) := by
    rw [← fill_fill (.module first) [], ← fill_fill (.module second) []]
    exact congrArg fill skeletons
  have restored := fill_occurrences (.module second) []
  rw [← fillers, walk, occurrences_inScope, ← names] at restored
  have filled := fillAll_mapNames change first flat []
  simp only [fill, run_then, run_done, filled] at restored
  exact congrArg Prod.fst restored

end Rename

end Canonical
end Snippet
end AnswerKey
