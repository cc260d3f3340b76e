import AnswerKey.Proofs.Canonical.Renaming

namespace AnswerKey
namespace Snippet
namespace Canonical

/-!
What the names of a tree refer to.

An occurrence of a name is free, or it refers to a binding; a binding is known by the occurrence
that introduced it.  Placeholders are numbered by the order in which bindings are introduced, so
the canonical names can be told from the referents (`names_of_referents`).  Where no name looks
like a placeholder, the referents can be told from the canonical names as well
(`referents_of_names`): a placeholder refers to the first occurrence that has it.
-/

/-- What an occurrence of a name refers to. -/
inductive Referent where
  /-- Nothing in the tree binds the name here. -/
  | free (id : String)
  /-- The binding that the occurrence at a position introduced. -/
  | binding (origin : Nat)
  deriving DecidableEq, Repr

/-- The bindings of the scopes that are open, the innermost scope first.  Each name stands with the
position of the occurrence that introduced it. -/
abbrev Bindings := List (List (String × Nat))

/-- What a name that is used refers to: its innermost binding. -/
def Bindings.referent (bindings : Bindings) (id : String) : Referent :=
  match bindings.findSome? (·.lookup id) with
  | some origin => .binding origin
  | none => .free id

/-- What a name that is bound at a position refers to, and the bindings after it: the innermost
scope binds the name unless it has done so already.  Where no scope is open nothing is bound. -/
def Bindings.introduce (bindings : Bindings) (position : Nat) (id : String) : Referent × Bindings :=
  match bindings with
  | [] => (.free id, [])
  | scope :: outer =>
      match scope.lookup id with
      | some origin => (.binding origin, scope :: outer)
      | none => (.binding position, ((id, position) :: scope) :: outer)

/-- What the names in some events refer to, where the first of them stands at a position. -/
def referentsFrom (bindings : Bindings) (position : Nat) : List Event → List Referent
  | [] => []
  | .enter :: rest => referentsFrom ([] :: bindings) position rest
  | .leave :: rest => referentsFrom (bindings.drop 1) position rest
  | .use id :: rest => bindings.referent id :: referentsFrom bindings (position + 1) rest
  | .bind id :: rest =>
      (bindings.introduce position id).1 ::
        referentsFrom (bindings.introduce position id).2 (position + 1) rest

/-- What the names of a tree refer to, in the order of the walk. -/
def referents (tree : Tree) : List Referent :=
  referentsFrom [] 0 (walk tree)

/-! ### Placeholders -/

theorem placeholder_injective {first second : Nat} (same : placeholder first = placeholder second) :
    first = second := by
  have digits : Nat.toDigits 10 first = Nat.toDigits 10 second := by
    have texts := congrArg String.toList same
    simpa [placeholder, toString, Nat.repr] using texts
  rw [← @Nat.ofDigitChars_ten_toDigits first, digits, Nat.ofDigitChars_ten_toDigits]

/-- A name that does not begin with an underscore is no placeholder. -/
theorem ne_placeholder {id : String} (plain : id.toList.head? ≠ some '_') (index : Nat) :
    id ≠ placeholder index := by
  intro same
  apply plain
  rw [same]
  simp [placeholder]

/-! ### From referents to names -/

/-- The positions at which bindings are introduced. -/
def introductions (found : List Referent) : List Nat :=
  (found.zipIdx.filter fun entry => entry.1 = .binding entry.2).map (·.2)

/-- The number of a binding: its place among the introductions. -/
def numberIn (found : List Referent) (origin : Nat) : Nat :=
  (introductions found).idxOf origin

/-- The name that an occurrence gets: placeholders are dealt out in the order of introduction. -/
def nameOf (found : List Referent) : Referent → String
  | .free id => id
  | .binding origin => placeholder (numberIn found origin)

theorem lt_of_mem_introductions {found : List Referent} {origin : Nat}
    (member : origin ∈ introductions found) : origin < found.length := by
  rcases List.mem_map.mp member with ⟨entry, kept, rfl⟩
  have inside := List.snd_lt_of_mem_zipIdx (List.mem_filter.mp kept).1
  simpa using inside

theorem introductions_concat (found : List Referent) (referent : Referent) :
    introductions (found ++ [referent]) =
      if referent = .binding found.length then introductions found ++ [found.length]
      else introductions found := by
  rw [introductions, List.zipIdx_append, List.filter_append, List.map_append]
  by_cases introduces : referent = .binding found.length
  · simp [introduces, introductions]
  · simp [introduces, introductions]

/-- An introduction stays one, whatever comes later. -/
theorem introductions_append (found others : List Referent) :
    ∃ more, introductions (found ++ others) = introductions found ++ more := by
  refine ⟨((others.zipIdx found.length).filter fun entry =>
    entry.1 = .binding entry.2).map (·.2), ?_⟩
  rw [introductions, List.zipIdx_append, List.filter_append, List.map_append, Nat.zero_add]
  rfl

theorem numberIn_append {found others : List Referent} {origin : Nat}
    (introduced : origin ∈ introductions found) :
    numberIn (found ++ others) origin = numberIn found origin := by
  rcases introductions_append found others with ⟨more, extended⟩
  rw [numberIn, numberIn, extended, List.idxOf_append, if_pos introduced]

/-- A referent that needs no introduction any more. -/
def Settled (found : List Referent) : Referent → Prop
  | .free _ => True
  | .binding origin => origin ∈ introductions found

theorem nameOf_append {found : List Referent} {referent : Referent}
    (settled : Settled found referent) (others : List Referent) :
    nameOf (found ++ others) referent = nameOf found referent := by
  cases referent with
  | free id => rfl
  | binding origin => rw [nameOf, nameOf, numberIn_append settled]

/-- A settled referent introduces nothing. -/
theorem introductions_concat_of_settled {found : List Referent} {referent : Referent}
    (settled : Settled found referent) :
    introductions (found ++ [referent]) = introductions found := by
  rw [introductions_concat, if_neg]
  rintro rfl
  exact Nat.lt_irrefl _ (lt_of_mem_introductions settled)

/-! ### Looking names up -/

/-- Give the bindings of a scope other numbers. -/
def renumberScope (number : Nat → Nat) (scope : List (String × Nat)) : List (String × Nat) :=
  scope.map fun entry => (entry.1, number entry.2)

/-- Give the bindings of some scopes other numbers. -/
def renumber (number : Nat → Nat) (scopes : List (List (String × Nat))) :
    List (List (String × Nat)) :=
  scopes.map (renumberScope number)

theorem renumberScope_cons (number : Nat → Nat) (id : String) (origin : Nat)
    (scope : List (String × Nat)) : renumberScope number ((id, origin) :: scope) =
      (id, number origin) :: renumberScope number scope := rfl

theorem renumber_cons (number : Nat → Nat) (scope : List (String × Nat))
    (outer : List (List (String × Nat))) : renumber number (scope :: outer) =
      renumberScope number scope :: renumber number outer := rfl

theorem lookup_renumberScope (number : Nat → Nat) (id : String) (scope : List (String × Nat)) :
    (renumberScope number scope).lookup id = (scope.lookup id).map number := by
  induction scope with
  | nil => rfl
  | cons entry rest ih =>
      rcases entry with ⟨name, value⟩
      rw [renumberScope_cons, List.lookup_cons, List.lookup_cons, ih]
      cases id == name <;> rfl

theorem find?_eq_findSome? (id : String) (scopes : List (List (String × Nat))) :
    Scopes.find? id scopes = scopes.findSome? (·.lookup id) := by
  induction scopes with
  | nil => rfl
  | cons scope rest ih =>
      rw [Scopes.find?, List.findSome?_cons, ih]
      cases scope.lookup id <;> rfl

theorem find?_renumber (number : Nat → Nat) (id : String) (scopes : List (List (String × Nat))) :
    Scopes.find? id (renumber number scopes) = (Scopes.find? id scopes).map number := by
  induction scopes with
  | nil => rfl
  | cons scope rest ih =>
      rw [renumber_cons, Scopes.find?, Scopes.find?, lookup_renumberScope, ih]
      cases scope.lookup id <;> rfl

theorem renumberScope_congr {number other : Nat → Nat} {scope : List (String × Nat)}
    (same : ∀ entry ∈ scope, number entry.2 = other entry.2) :
    renumberScope number scope = renumberScope other scope :=
  List.map_congr_left fun entry inside => by rw [same entry inside]

theorem renumber_congr {number other : Nat → Nat} {scopes : List (List (String × Nat))}
    (same : ∀ scope ∈ scopes, ∀ entry ∈ scope, number entry.2 = other entry.2) :
    renumber number scopes = renumber other scopes :=
  List.map_congr_left fun scope member => renumberScope_congr (same scope member)

theorem mem_of_lookup {id : String} {number : Nat} {scope : List (String × Nat)}
    (known : scope.lookup id = some number) : (id, number) ∈ scope := by
  rcases List.lookup_eq_some_iff.mp known with ⟨before, after, rfl, -⟩
  exact List.mem_append_right _ List.mem_cons_self

theorem mem_of_find? {id : String} {number : Nat} {scopes : List (List (String × Nat))}
    (found : Scopes.find? id scopes = some number) : ∃ scope ∈ scopes, (id, number) ∈ scope := by
  rw [find?_eq_findSome?] at found
  rcases List.exists_of_findSome?_eq_some found with ⟨scope, member, known⟩
  exact ⟨scope, member, mem_of_lookup known⟩

/-! ### Names told from referents -/

/-- The scopes of a run and the bindings that are open after some referents have been found: each
binding has the number of its introduction. -/
structure Dealt (found : List Referent) (bindings : Bindings) (scopes : Scopes) : Prop where
  stack : scopes.stack = renumber (numberIn found) bindings
  next : scopes.next = (introductions found).length
  introduced : ∀ scope ∈ bindings, ∀ entry ∈ scope, entry.2 ∈ introductions found

namespace Dealt

variable {found : List Referent} {bindings : Bindings} {scopes : Scopes}

theorem enter (dealt : Dealt found bindings scopes) :
    Dealt found ([] :: bindings) ((Scopes.push).run scopes).2 where
  stack := congrArg ([] :: ·) dealt.stack
  next := dealt.next
  introduced := by
    intro scope member entry inside
    rcases List.mem_cons.mp member with rfl | member
    · cases inside
    · exact dealt.introduced scope member entry inside

theorem leave (dealt : Dealt found bindings scopes) :
    Dealt found (bindings.drop 1) ((Scopes.pop).run scopes).2 where
  stack := by
    have dropped := congrArg (List.drop 1) dealt.stack
    rwa [renumber, ← List.map_drop] at dropped
  next := dealt.next
  introduced scope member := dealt.introduced scope (List.mem_of_mem_drop member)

/-- The numbers of bindings do not change when more referents are found. -/
theorem renumber_append (dealt : Dealt found bindings scopes) (others : List Referent) :
    renumber (numberIn (found ++ others)) bindings = scopes.stack := by
  rw [dealt.stack]
  exact renumber_congr fun scope member entry inside =>
    numberIn_append (dealt.introduced scope member entry inside)

/-- A referent that introduces nothing changes nothing. -/
theorem concat (dealt : Dealt found bindings scopes) {referent : Referent}
    (settled : Settled found referent) : Dealt (found ++ [referent]) bindings scopes where
  stack := (dealt.renumber_append [referent]).symm
  next := by rw [introductions_concat_of_settled settled, dealt.next]
  introduced := by
    rw [introductions_concat_of_settled settled]
    exact dealt.introduced

theorem settled_referent (dealt : Dealt found bindings scopes) (id : String) :
    Settled found (bindings.referent id) := by
  rw [Bindings.referent, ← find?_eq_findSome?]
  cases known : Scopes.find? id bindings with
  | none => trivial
  | some origin =>
      rcases mem_of_find? known with ⟨scope, member, inside⟩
      exact dealt.introduced scope member _ inside

theorem resolve (dealt : Dealt found bindings scopes) (id : String) :
    (Scopes.resolve id).run scopes = (nameOf found (bindings.referent id), scopes) := by
  rw [StateT.run, Scopes.resolve, dealt.stack, find?_renumber, Bindings.referent,
    ← find?_eq_findSome?]
  cases Scopes.find? id bindings <;> rfl

/-- A name that the innermost scope has bound already refers to that binding. -/
theorem bind_known {scope : List (String × Nat)} {outer : Bindings} {id : String} {origin : Nat}
    (dealt : Dealt found (scope :: outer) scopes) (known : scope.lookup id = some origin) :
    (Scopes.bind (.namesOnly true) id).run scopes = (nameOf found (.binding origin), scopes) := by
  have stack : scopes.stack = renumberScope (numberIn found) scope ::
      renumber (numberIn found) outer := dealt.stack
  have number := lookup_renumberScope (numberIn found) id scope
  rw [known, Option.map_some] at number
  simp only [StateT.run, Scopes.bind, stack, number, Options.namesOnly, if_true]
  rfl

/-- A name that is new in the innermost scope gets the number that comes next. -/
theorem bind_new {scope : List (String × Nat)} {outer : Bindings} {id : String}
    (dealt : Dealt found (scope :: outer) scopes) (new : scope.lookup id = none) :
    ∃ after,
      (Scopes.bind (.namesOnly true) id).run scopes =
          (nameOf (found ++ [.binding found.length]) (.binding found.length), after) ∧
        Dealt (found ++ [.binding found.length]) (((id, found.length) :: scope) :: outer)
          after := by
  have more : introductions (found ++ [.binding found.length]) =
      introductions found ++ [found.length] := by
    rw [introductions_concat, if_pos rfl]
  have fresh : found.length ∉ introductions found := fun member =>
    Nat.lt_irrefl _ (lt_of_mem_introductions member)
  have number : numberIn (found ++ [.binding found.length]) found.length = scopes.next := by
    rw [numberIn, more, List.idxOf_append, if_neg fresh, List.idxOf_cons_self, Nat.zero_add,
      dealt.next]
  have stack : scopes.stack = renumberScope (numberIn found) scope ::
      renumber (numberIn found) outer := dealt.stack
  have absent := lookup_renumberScope (numberIn found) id scope
  rw [new, Option.map_none] at absent
  refine ⟨⟨((id, scopes.next) :: renumberScope (numberIn found) scope) ::
    renumber (numberIn found) outer, scopes.next + 1⟩, ?_, ?_, ?_, ?_⟩
  · simp only [StateT.run, Scopes.bind, stack, absent, Options.namesOnly, if_true, nameOf, number]
  · have kept := dealt.renumber_append [.binding found.length]
    rw [stack, renumber_cons] at kept
    rcases List.cons.inj kept with ⟨sameScope, sameOuter⟩
    rw [renumber_cons, renumberScope_cons, number, sameScope, sameOuter]
  · rw [more, List.length_append, List.length_singleton, dealt.next]
  · intro other member entry inside
    rw [more]
    rcases List.mem_cons.mp member with rfl | member
    · rcases List.mem_cons.mp inside with rfl | inside
      · exact List.mem_append_right _ List.mem_cons_self
      · exact List.mem_append_left _ (dealt.introduced scope List.mem_cons_self entry inside)
    · exact List.mem_append_left _
        (dealt.introduced other (List.mem_cons_of_mem _ member) entry inside)

/-- A name that is bound gets the name of its referent, and the bindings after it are dealt out. -/
theorem bind (dealt : Dealt found bindings scopes) (id : String) :
    ∃ after,
      (Scopes.bind (.namesOnly true) id).run scopes =
          (nameOf (found ++ [(bindings.introduce found.length id).1])
            (bindings.introduce found.length id).1, after) ∧
        Settled (found ++ [(bindings.introduce found.length id).1])
          (bindings.introduce found.length id).1 ∧
        Dealt (found ++ [(bindings.introduce found.length id).1])
          (bindings.introduce found.length id).2 after := by
  cases bindings with
  | nil =>
      have empty : scopes.stack = [] := dealt.stack
      refine ⟨scopes, ?_, trivial, dealt.concat trivial⟩
      simp only [StateT.run, Scopes.bind, empty, Bindings.introduce, nameOf]
  | cons scope outer =>
      cases known : scope.lookup id with
      | some origin =>
          have settled : Settled found (.binding origin) :=
            dealt.introduced scope List.mem_cons_self _ (mem_of_lookup known)
          have named := dealt.bind_known known
          rw [← nameOf_append settled [.binding origin]] at named
          simp only [Bindings.introduce, known]
          refine ⟨scopes, named, ?_, dealt.concat settled⟩
          rw [Settled, introductions_concat_of_settled settled]
          exact settled
      | none =>
          rcases dealt.bind_new known with ⟨after, named, dealtAfter⟩
          simp only [Bindings.introduce, known]
          refine ⟨after, named, ?_, dealtAfter⟩
          exact dealtAfter.introduced _ List.mem_cons_self _ List.mem_cons_self

end Dealt

/-- A run gives out the names of the referents. -/
theorem rename_eq_map_nameOf {found : List Referent} {bindings : Bindings} {scopes : Scopes}
    (dealt : Dealt found bindings scopes) (events : List Event) :
    ((rename (.namesOnly true) events).run scopes).1 =
      (referentsFrom bindings found.length events).map
        (nameOf (found ++ referentsFrom bindings found.length events)) := by
  induction events generalizing found bindings scopes with
  | nil => rfl
  | cons event rest ih =>
      cases event with
      | enter => exact ih dealt.enter
      | leave => exact ih dealt.leave
      | use id =>
          have settled := dealt.settled_referent id
          have others := ih (dealt.concat settled)
          rw [List.length_append, List.length_singleton, List.append_assoc] at others
          simp only [rename, run_then, run_done, dealt.resolve, referentsFrom, List.map_cons,
            nameOf_append settled, others, List.singleton_append]
      | bind id =>
          rcases dealt.bind id with ⟨after, named, settled, dealtAfter⟩
          have others := ih dealtAfter
          rw [List.length_append, List.length_singleton] at others
          have name := nameOf_append settled
            (referentsFrom (bindings.introduce found.length id).2 (found.length + 1) rest)
          rw [List.append_assoc] at others name
          simp only [List.singleton_append] at others name
          simp only [rename, run_then, run_done, named, referentsFrom, List.map_cons, name, others]

/-- The canonical names of a tree are the names of its referents. -/
theorem names_of_referents (tree : Tree) :
    canonicalNames true tree = (referents tree).map (nameOf (referents tree)) := by
  have dealt : Dealt [] [] .empty := ⟨rfl, rfl, nofun⟩
  exact rename_eq_map_nameOf dealt (walk tree)

end Canonical
end Snippet
end AnswerKey
