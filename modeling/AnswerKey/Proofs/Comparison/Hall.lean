import Mathlib.Logic.Function.Basic
import AnswerKey.Proofs.Comparison.Uses

namespace AnswerKey

/-!
Halls.

In a hall there is one host, and a bench for everyone who compares programs there: they share the
sandboxes, but each of them knows something else about helpers.  For every event of the journal the
hall keeps on whose behalf it came about.  A history goes on with any deeds of anyone in any order,
and before each of them it is laid down anew how the next launches and replies go; nothing is asked
of the replies, honest or not.  Nothing is written to a child that has exited, so that a use in the
midst of which a child exits is a history of the parts that were done.

Whatever has happened, a function is called only in a child that has acknowledged its helper, and
whoever uses a helper with one sandbox and does not forget it has it acknowledged at most once in
each session (`Hall.acknowledges_of_reachable`).
-/

open Sandbox
open Worker (Helper)

/-- Who has used a helper, with which sandbox, and the session that the use ended in.  After a load
that has been acknowledged a use does not go on to another session. -/
structure Author where
  who : Nat
  number : Nat
  session : Int
  deriving DecidableEq, Repr

structure Hall where
  host : Host
  /-- What each user knows about helpers. -/
  loads : Nat → Loads
  /-- For each event of the journal, on whose behalf it came about. -/
  authors : List (Option Author)

namespace Hall

/-- The bench of a user. -/
def bench (hall : Hall) (who : Nat) : Bench :=
  ⟨hall.host, hall.loads who⟩

/-! ### Deeds -/

/-- How a helper is used. -/
inductive Use where
  | load (helper : Helper)
  | canonicalForm (code : String) (options : Snippet.Canonical.Options)
  | tokens (code : String)
  | compareTrees (submission expected : String) (alternatives : List String)
    (options : Snippet.Canonical.Options)
  | compareTokens (submission expected : String) (alternatives : List String)

namespace Use

/-- The helper that is used. -/
def helper : Use → Helper
  | load helper => helper
  | canonicalForm _ _ => .canonical
  | tokens _ => .tokenizer
  | compareTrees _ _ _ _ => .canonical
  | compareTokens _ _ _ => .tokenizer

/-- The bench after a use of a helper with a sandbox. -/
def run (use : Use) (number : Nat) (bench : Bench) : Bench :=
  match use with
  | load helper => ((Bench.ensureLoaded helper number).run.run bench).2
  | canonicalForm code options => ((Bench.canonicalForm number code options).run.run bench).2
  | tokens code => ((Bench.tokens number code).run.run bench).2
  | compareTrees submission expected alternatives options =>
      ((Bench.compareTrees number submission expected alternatives options).run.run bench).2
  | compareTokens submission expected alternatives =>
      ((Bench.compareTokens number submission expected alternatives).run.run bench).2

theorem uses (use : Use) (number : Nat) {bench : Bench} (steady : bench.Steady) :
    ∃ done, Bench.Uses number use.helper bench done (use.run number bench) := by
  cases use with
  | load helper => exact ⟨_, (Bench.uses_ensureLoaded steady number helper).1⟩
  | canonicalForm code options =>
      exact ⟨_, Bench.uses_canonicalForm number code options bench steady⟩
  | tokens code => exact ⟨_, Bench.uses_tokens number code bench steady⟩
  | compareTrees submission expected alternatives options =>
      exact ⟨false, Bench.uses_compareTrees number submission expected alternatives options steady⟩
  | compareTokens submission expected alternatives =>
      exact ⟨_, Bench.uses_compareTokens number submission expected alternatives bench steady⟩

end Use

/-- What is done in a hall. -/
inductive Deed where
  /-- A sandbox is made. -/
  | create (interpreter : Option String) (startupTimeout : Seconds) (memoryLimit : Option Int)
  /-- A start is begun and left in flight if its child holds back. -/
  | begin (number : Nat)
  /-- The child in use exits by itself. -/
  | exit (number : Nat)
  /-- A sandbox is asked for something by nobody who remembers what is loaded. -/
  | perform (number : Nat) (errand : Errand)
  | use (who number : Nat) (use : Use)
  | forget (who : Nat) (helper : Helper)

/-- The hall after something has been done at its host. -/
def turn (hall : Hall) (host : Host) (author : Option Author) : Hall :=
  { hall with
    host
    authors :=
      hall.authors ++ List.replicate (host.journal.length - hall.host.journal.length) author }

/-- The hall after a deed. -/
def after (hall : Hall) : Deed → Hall
  | .create interpreter startupTimeout memoryLimit =>
      hall.turn (hall.host.add (.process (.create interpreter startupTimeout memoryLimit))) none
  | .begin number => hall.turn (hall.host.bench.step number Site.begin).host none
  | .exit number => hall.turn (hall.host.bench.step number Site.exit).host none
  | .perform number errand => hall.turn (hall.host.perform number errand).2 none
  | .use who number use =>
      let bench := use.run number (hall.bench who)
      { hall.turn bench.host (some ⟨who, number, bench.host.session number⟩) with
        loads := Function.update hall.loads who bench.loads }
  | .forget who helper =>
      { hall with
        loads :=
          Function.update hall.loads who ((Bench.forget helper).run.run (hall.bench who)).2.loads }

/-! ### Histories -/

/-- A hall in which nothing has happened. -/
def empty : Hall := ⟨⟨.empty, []⟩, fun _ => .none, []⟩

/-- A hall for which it is laid down how the next launches and replies go. -/
def expecting (hall : Hall) (launches : List Launch) (replies : List Reply) : Hall :=
  { hall with host := (hall.host.bench.expecting launches replies).host }

inductive Step (allowed : Deed → Prop) : Hall → Hall → Prop where
  | deed {hall : Hall} (launches : List Launch) (replies : List Reply) {deed : Deed}
      (isAllowed : allowed deed) : Step allowed hall ((hall.expecting launches replies).after deed)

/-- Any number of deeds of which each is allowed. -/
abbrev History (allowed : Deed → Prop) : Hall → Hall → Prop := Relation.ReflTransGen (Step allowed)

/-- The halls at the ends of all histories. -/
def Reachable (hall : Hall) : Prop :=
  History (fun _ => True) empty hall

theorem Reachable.deed {hall : Hall} (reached : Reachable hall) (launches : List Launch)
    (replies : List Reply) (deed : Deed) :
    Reachable ((hall.expecting launches replies).after deed) :=
  Relation.ReflTransGen.tail reached (.deed launches replies True.intro)

/-- A deed at which a user uses a helper with no other sandbox and does not forget it. -/
def Deed.Spares (who number : Nat) (helper : Helper) : Deed → Prop
  | .use other place purpose => other = who → purpose.helper = helper → place = number
  | .forget other forgotten => ¬ (other = who ∧ forgotten = helper)
  | _ => True

/-- On behalf of an author, a load of a helper is acknowledged. -/
def LoadedBy (hall : Hall) (author : Author) (helper : Helper) (child position : Nat) : Prop :=
  Acknowledges hall.host.journal child helper position ∧
    hall.authors[position]? = some (some author)

/-! ### Turns -/

/-- What holds between the halls before and after something has been done at the host. -/
structure Turns (before after : Hall) (author : Option Author) : Prop where
  leads : before.host.Leads after.host
  authors : after.authors = before.authors ++
    List.replicate (after.host.journal.length - before.host.journal.length) author
  steady : ∀ who, (after.bench who).Steady
  /-- On behalf of an author a helper has been used, and that use has ended in the session. -/
  used : ∀ someone ∈ author, someone.session = after.host.session someone.number ∧
    ∃ helper loads done later,
      Bench.Uses someone.number helper ⟨before.host, loads⟩ done ⟨after.host, later⟩

/-- What is known in a hall. -/
structure Coherent (hall : Hall) : Prop where
  aligned : hall.authors.length = hall.host.journal.length
  steady : ∀ who, (hall.bench who).Steady
  called : ∀ position child (id : Int) function arguments author,
    hall.host.journal[position]? =
        some (.wrote child (.obj (("id", .int id) :: Site.calling function arguments))) →
      hall.authors[position]? = some (some author) →
        ∃ earlier, earlier + 1 < position ∧
          Acknowledges hall.host.journal child function.helper earlier
  /-- The child that has acknowledged a helper is the child of the session. -/
  served : ∀ author helper child position, hall.LoadedBy author helper child position →
    hall.host.Serves author.number author.session child

section Turns

variable {before after : Hall} {author : Option Author}

theorem Turns.aligned (turns : Turns before after author) (coherent : before.Coherent) :
    after.authors.length = after.host.journal.length := by
  have grows := turns.leads.journal.length_le
  rw [turns.authors, List.length_append, List.length_replicate, coherent.aligned]
  omega

/-- What was written before keeps its author. -/
theorem Turns.author_old (turns : Turns before after author) (coherent : before.Coherent)
    {position : Nat} (old : position < before.host.journal.length) :
    after.authors[position]? = before.authors[position]? := by
  rw [turns.authors, List.getElem?_append_left (coherent.aligned ▸ old)]

/-- What is written now is written on behalf of the author. -/
theorem Turns.author_new (turns : Turns before after author) (coherent : before.Coherent)
    {position : Nat} {other : Option Author} (new : before.host.journal.length ≤ position)
    (written : after.authors[position]? = some other) : other = author := by
  rw [turns.authors, List.getElem?_append_right (coherent.aligned ▸ new)] at written
  exact List.eq_of_mem_replicate (List.mem_of_getElem? written)

theorem LoadedBy.earlier {someone : Author} {helper : Helper} {child position : Nat}
    (loaded : after.LoadedBy someone helper child position) (turns : Turns before after author)
    (coherent : before.Coherent) (old : position < before.host.journal.length) :
    before.LoadedBy someone helper child position :=
  ⟨loaded.1.earlier turns.leads.journal old, (turns.author_old coherent old).symm.trans loaded.2⟩

theorem Coherent.turns (coherent : before.Coherent) (turns : Turns before after author) :
    after.Coherent where
  aligned := turns.aligned coherent
  steady := turns.steady
  called := by
    intro position child id function arguments someone wrote own
    by_cases old : position < before.host.journal.length
    · rw [turns.leads.journal.getElem?_eq old] at wrote
      rw [turns.author_old coherent old] at own
      rcases coherent.called position child id function arguments someone wrote own with
        ⟨earlier, before, acknowledges⟩
      exact ⟨earlier, before, acknowledges.later turns.leads.journal⟩
    · have new : before.host.journal.length ≤ position := by omega
      rcases turns.used someone (turns.author_new coherent new own).symm with
        ⟨-, helper, loads, done, later, uses⟩
      rcases uses.writes position child id _ new wrote with
        loading | ⟨called, given, earlier, calls, rfl, before, acknowledges⟩
      · exact absurd loading.symm (Bench.loading_ne_calling helper function arguments)
      · rw [Bench.eq_of_calling calls]
        exact ⟨earlier, before, acknowledges⟩
  served := by
    intro someone helper child position loaded
    by_cases old : position < before.host.journal.length
    · have known := loaded.earlier turns coherent old
      exact (coherent.served someone helper child position known).later turns.leads
    · have new : before.host.journal.length ≤ position := by omega
      rcases turns.used someone (turns.author_new coherent new loaded.2).symm with
        ⟨session, other, loads, done, later, uses⟩
      cases uses.eq_helper new loaded.1
      rcases uses.loads with unloaded | ⟨place, server, acknowledged⟩
      · exact absurd loaded.1 (unloaded.none position child new)
      · rw [session, (acknowledged.once position child new loaded.1).2]
        exact acknowledged.serves

end Turns

section Deeds

variable {hall : Hall}

/-- Nothing happens at the host. -/
theorem turns_of_loads {loads : Nat → Loads} (steady : ∀ who, Bench.Steady ⟨hall.host, loads who⟩) :
    Turns hall { hall with loads } none where
  leads := .refl _
  authors := by rw [Nat.sub_self, List.replicate_zero, List.append_nil]
  steady := steady
  used := nofun

variable (coherent : hall.Coherent)

include coherent

/-- Nothing is written on anyone's behalf, and nobody gets to know anything. -/
theorem turns_of_leads {host : Host} (leads : hall.host.Leads host ∧ host.bench.Sound) :
    Turns hall (hall.turn host none) none where
  leads := leads.1
  authors := rfl
  steady who := (coherent.steady who).later leads.2 leads.1 rfl
  used := nofun

theorem turns_expecting (launches : List Launch) (replies : List Reply) :
    Turns hall (hall.expecting launches replies) none := by
  have leads := Host.leads_expecting hall.host launches replies
  refine ⟨leads, ?_, fun who => ?_, nofun⟩
  · have same : (hall.expecting launches replies).host.journal = hall.host.journal := rfl
    rw [same, Nat.sub_self, List.replicate_zero, List.append_nil]
    rfl
  · have steady := coherent.steady who
    exact steady.later (steady.sound.expecting launches replies) leads rfl

/-- A use of one's own bench. -/
theorem turns_use (who number : Nat) (use : Use) :
    ∃ session done, session = (hall.after (.use who number use)).host.session number ∧
      Turns hall (hall.after (.use who number use)) (some ⟨who, number, session⟩) ∧
      Bench.Uses number use.helper (hall.bench who) done
        ((hall.after (.use who number use)).bench who) := by
  have steady := coherent.steady who
  rcases use.uses number steady with ⟨done, uses⟩
  have own : (hall.after (.use who number use)).bench who = use.run number (hall.bench who) := by
    rw [bench, after]
    simp only [Function.update_self]
    rfl
  refine ⟨_, done, rfl, ⟨uses.leads, rfl, fun other => ?_, ?_⟩, own ▸ uses⟩
  · by_cases same : other = who
    · rw [same, own]
      exact uses.steady
    · refine (coherent.steady other).later uses.steady.sound uses.leads ?_
      exact Function.update_of_ne same _ _
  · intro someone isAuthor
    cases isAuthor
    exact ⟨rfl, use.helper, hall.loads who, done, _, uses⟩

/-- What is no use is done on nobody's behalf. -/
theorem turns_of_ne_use {deed : Deed} (plain : ∀ who number use, deed ≠ .use who number use) :
    Turns hall (hall.after deed) none := by
  have sound := (coherent.steady 0).sound
  cases deed with
  | create interpreter startupTimeout memoryLimit =>
      have new := not_owns_create interpreter startupTimeout memoryLimit
      exact turns_of_leads coherent ⟨Host.leads_add _ _, sound.add new⟩
  | begin number =>
      have path (site : Site) : Site.Path site site.begin := (Site.starts_begin site).path
      exact turns_of_leads coherent (Host.leads_step sound number path)
  | exit number =>
      have path (site : Site) : Site.Path site site.exit := .single (.exit site)
      exact turns_of_leads coherent (Host.leads_step sound number path)
  | perform number errand => exact turns_of_leads coherent (Host.leads_perform sound number errand)
  | use who number use => exact absurd rfl (plain who number use)
  | forget who helper =>
      refine turns_of_loads fun other => ?_
      by_cases same : other = who
      · rw [same, Function.update_self]
        exact (coherent.steady who).forget helper
      · rw [Function.update_of_ne same]
        exact coherent.steady other

theorem Coherent.after (deed : Deed) : (hall.after deed).Coherent := by
  cases deed with
  | use who number use =>
      rcases turns_use coherent who number use with ⟨session, done, -, turns, -⟩
      exact coherent.turns turns
  | _ => exact coherent.turns (turns_of_ne_use coherent nofun)

end Deeds

theorem coherent_empty : empty.Coherent where
  aligned := rfl
  steady who := by
    refine ⟨Bench.sound_of_reachable .initial, fun helper load loaded => ?_⟩
    rw [bench, empty, Loads.get_none] at loaded
    cases loaded
  called := nofun
  served := by
    intro author helper child position loaded
    cases loaded.2

theorem Coherent.step {allowed : Deed → Prop} {before after : Hall} (coherent : before.Coherent)
    (step : Step allowed before after) : after.Coherent := by
  cases step with
  | deed launches replies =>
      exact (coherent.turns (turns_expecting coherent launches replies)).after _

theorem Coherent.history {allowed : Deed → Prop} {before after : Hall} (coherent : before.Coherent)
    (history : History allowed before after) : after.Coherent := by
  induction history with
  | refl => exact coherent
  | tail _ step ih => exact ih.step step

/-! ### Loads in a session -/

/-- From a position of the journal on, what is acknowledged on behalf of a user is acknowledged
once in each session and by each child, and it is known as long as the session lasts. -/
structure Once (start who number : Nat) (helper : Helper) (hall : Hall) : Prop where
  known : ∀ session child position, start ≤ position →
    hall.LoadedBy ⟨who, number, session⟩ helper child position →
      session = hall.host.session number →
        (hall.loads who).get helper = some ⟨number, session⟩
  unique : ∀ early late child other first second, start ≤ first → start ≤ second →
    hall.LoadedBy ⟨who, number, early⟩ helper child first →
      hall.LoadedBy ⟨who, number, late⟩ helper other second → early = late ∨ child = other →
        first = second

section Once

variable {start who number : Nat} {helper : Helper} {before after : Hall} {author : Option Author}
  (once : Once start who number helper before) (coherent : before.Coherent)

include once coherent

/-- Where nothing is acknowledged on behalf of the user, nothing changes. -/
theorem Once.still (turns : Turns before after author)
    (same : (after.loads who).get helper = (before.loads who).get helper)
    (none : ∀ session child position, before.host.journal.length ≤ position →
      ¬ after.LoadedBy ⟨who, number, session⟩ helper child position) :
    Once start who number helper after := by
  have old {session : Int} {child position : Nat}
      (loaded : after.LoadedBy ⟨who, number, session⟩ helper child position) :
      before.LoadedBy ⟨who, number, session⟩ helper child position := by
    by_cases inside : position < before.host.journal.length
    · exact loaded.earlier turns coherent inside
    · exact absurd loaded (none session child position (by omega))
  constructor
  · intro session child position later loaded lasts
    have known := old loaded
    have lasted := (coherent.served _ _ _ _ known).during.session_eq turns.leads lasts
    exact same.trans (once.known session child position later known lasted)
  · intro early late child other first second laterFirst laterSecond loadedFirst loadedSecond
    exact once.unique early late child other first second laterFirst laterSecond (old loadedFirst)
      (old loadedSecond)

/-- A user has a helper loaded only for a session for which it was not known to be loaded. -/
theorem Once.used {session : Int} {done : Bool} (ends : session = after.host.session number)
    (turns : Turns before after (some ⟨who, number, session⟩))
    (uses : Bench.Uses number helper (before.bench who) done (after.bench who)) :
    Once start who number helper after := by
  rcases uses.loads with unloaded | ⟨place, server, loaded⟩
  · exact once.still coherent turns unloaded.same fun session child position new loaded =>
      unloaded.none position child new loaded.1
  · -- what was acknowledged before was acknowledged in another session and by another child
    have old {early : Int} {child position : Nat} (later : start ≤ position)
        (acknowledged : after.LoadedBy ⟨who, number, early⟩ helper child position)
        (inside : position < before.host.journal.length) :
        before.LoadedBy ⟨who, number, early⟩ helper child position ∧
          early ≠ after.host.session number ∧ child ≠ server := by
      have known := acknowledged.earlier turns coherent inside
      have serves := coherent.served _ _ _ _ known
      have different : early ≠ after.host.session number := by
        intro lasts
        have lasted := serves.during.session_eq turns.leads lasts
        have was := once.known early child position later known lasted
        exact loaded.new (lasts ▸ was)
      exact ⟨known, different, fun same => different (loaded.first early (same ▸ serves))⟩
    have now {early : Int} {child position : Nat}
        (acknowledged : after.LoadedBy ⟨who, number, early⟩ helper child position)
        (new : before.host.journal.length ≤ position) :
        position = place ∧ early = after.host.session number ∧ child = server := by
      rcases loaded.once position child new acknowledged.1 with ⟨same, servesNow⟩
      cases turns.author_new coherent new acknowledged.2
      exact ⟨same, ends, servesNow⟩
    constructor
    · intro early child position _ _ lasts
      rw [lasts]
      exact loaded.known
    · intro early late child other first second laterFirst laterSecond loadedFirst loadedSecond same
      rcases Nat.lt_or_ge first before.host.journal.length with oldFirst | newFirst
      · rcases old laterFirst loadedFirst oldFirst with ⟨knownFirst, otherSession, otherChild⟩
        rcases Nat.lt_or_ge second before.host.journal.length with oldSecond | newSecond
        · have knownSecond := (old laterSecond loadedSecond oldSecond).1
          exact once.unique early late child other first second laterFirst laterSecond knownFirst
            knownSecond same
        · rcases now loadedSecond newSecond with ⟨-, rfl, rfl⟩
          exact absurd same (not_or.mpr ⟨otherSession, otherChild⟩)
      · rcases now loadedFirst newFirst with ⟨atFirst, rfl, rfl⟩
        rcases Nat.lt_or_ge second before.host.journal.length with oldSecond | newSecond
        · rcases old laterSecond loadedSecond oldSecond with ⟨-, otherSession, otherChild⟩
          exact absurd same (not_or.mpr ⟨otherSession.symm, otherChild.symm⟩)
        · rw [atFirst, (now loadedSecond newSecond).1]

end Once

/-! ### Main result -/

section History

variable {hall : Hall} {start who number : Nat} {helper : Helper}

/-- What a user knows of a helper is changed only by uses of that helper, unless it is forgotten. -/
theorem get_forget {other : Nat} {forgotten : Helper}
    (spares : ¬ (other = who ∧ forgotten = helper)) :
    ((hall.after (.forget other forgotten)).loads who).get helper =
      (hall.loads who).get helper := by
  by_cases same : who = other
  · subst same
    have different : helper ≠ forgotten := fun equal => spares ⟨rfl, equal.symm⟩
    rw [after]
    simp only [Function.update_self]
    exact Loads.get_set_of_ne _ _ different
  · rw [after]
    simp only [Function.update_of_ne same]

theorem Once.plain (once : Once start who number helper hall) (coherent : hall.Coherent)
    {deed : Deed} (plain : ∀ who number use, deed ≠ .use who number use)
    (same : ((hall.after deed).loads who).get helper = (hall.loads who).get helper) :
    Once start who number helper (hall.after deed) := by
  have turns := turns_of_ne_use coherent plain
  refine once.still coherent turns same fun session child position new loaded => ?_
  cases turns.author_new coherent new loaded.2

theorem Once.after (once : Once start who number helper hall) (coherent : hall.Coherent)
    {deed : Deed} (spares : deed.Spares who number helper) :
    Once start who number helper (hall.after deed) := by
  cases deed with
  | use other place purpose =>
      rcases turns_use coherent other place purpose with ⟨session, done, ends, turns, uses⟩
      by_cases same : other = who ∧ purpose.helper = helper
      · rcases same with ⟨rfl, rfl⟩
        cases spares rfl rfl
        exact once.used coherent ends turns uses
      · refine once.still coherent turns ?_ fun lasted child position new loaded => ?_
        · by_cases user : who = other
          · cases user
            exact uses.others helper fun equal => same ⟨rfl, equal.symm⟩
          · rw [Hall.after]
            simp only [Function.update_of_ne user]
        · cases turns.author_new coherent new loaded.2
          exact same ⟨rfl, (uses.eq_helper new loaded.1).symm⟩
  | forget other forgotten => exact once.plain coherent nofun (get_forget spares)
  | _ => exact once.plain coherent nofun rfl

theorem Once.history {later : Hall} (once : Once start who number helper hall)
    (coherent : hall.Coherent) (history : History (Deed.Spares who number helper) hall later) :
    Once start who number helper later := by
  induction history with
  | refl => exact once
  | tail early step ih =>
      have before := coherent.history early
      cases step with
      | deed launches replies spares =>
          have turns := turns_expecting before launches replies
          refine Once.after ?_ (before.turns turns) spares
          refine ih.still before turns rfl fun session child position new loaded => ?_
          cases turns.author_new before new loaded.2

/-- Where nothing has been written yet, all is in order. -/
theorem once_start (hall : Hall) (who number : Nat) (helper : Helper) :
    Once hall.host.journal.length who number helper hall := by
  have none {author : Author} {child position : Nat}
      (loaded : hall.LoadedBy author helper child position) :
      ¬ hall.host.journal.length ≤ position := by
    have inside := loaded.1.lt
    omega
  constructor
  · intro session child position later loaded
    exact absurd later (none loaded)
  · intro early late child other first second later _ loaded
    exact absurd later (none loaded)

end History

/-- Whatever has happened in a hall, a function that is called in a use of its helper is called in
a child that has acknowledged the helper before, and whoever uses a helper with one sandbox and
does not forget it has it acknowledged at most once in each session and by each child.  The child
that has acknowledged it serves in that session and in no other. -/
theorem acknowledges_of_reachable {hall : Hall} (reached : Reachable hall) :
    hall.authors.length = hall.host.journal.length ∧
      (∀ position child (id : Int) function arguments author,
        hall.host.journal[position]? =
            some (.wrote child (.obj (("id", .int id) :: Site.calling function arguments))) →
          hall.authors[position]? = some (some author) →
            ∃ earlier, earlier + 1 < position ∧
              Acknowledges hall.host.journal child function.helper earlier) ∧
      (∀ author helper child position, hall.LoadedBy author helper child position →
        hall.host.Serves author.number author.session child) ∧
      ∀ who number helper later, History (Deed.Spares who number helper) hall later →
        ∀ early late child other first second, hall.host.journal.length ≤ first →
          hall.host.journal.length ≤ second →
            later.LoadedBy ⟨who, number, early⟩ helper child first →
              later.LoadedBy ⟨who, number, late⟩ helper other second →
                early = late ∨ child = other → first = second := by
  have coherent : hall.Coherent := coherent_empty.history reached
  refine ⟨coherent.aligned, coherent.called, coherent.served, ?_⟩
  intro who number helper later history
  exact ((once_start hall who number helper).history coherent history).unique

/-! ### A child that is lost over a call -/

/-- A hall with one sandbox, which has been started. -/
def opened : Hall :=
  (((empty.expecting [] []).after (.create none (.whole 30) none)).expecting [] []).after
    (.perform 0 .start)

/-- A hall in which the first child was lost over a call, and another has been asked instead. -/
def resumed : Hall :=
  (((opened.expecting [] [.value (.bool true), .silence]).after
      (.use 0 0 (.canonicalForm "a" .standard))).expecting []
        [.value (.bool true), .value (.str "a")]).after
    (.use 0 0 (.canonicalForm "a" .standard))

theorem reachable_resumed : Reachable resumed := by
  have empty : Reachable empty := .refl
  have opened : Reachable opened := (empty.deed [] [] _).deed [] [] _
  exact (opened.deed [] [.value (.bool true), .silence] _).deed []
    [.value (.bool true), .value (.str "a")] _

/-- Whether a function is called in a child. -/
def isCall (child : Nat) (function : Worker.Function) : Event → Bool
  | .wrote other (.obj [("id", .int _), ("op", .str op), ("func", .str name), ("args", .arr _)]) =>
      other == child && op == "call" && name == function.name
  | _ => false

theorem exists_of_isCall {child : Nat} {function : Worker.Function} {event : Event}
    (called : isCall child function event = true) :
    ∃ (id : Int) (arguments : List Json),
      event = .wrote child (.obj (("id", .int id) :: Site.calling function arguments)) := by
  unfold isCall at called
  split at called
  · next other id op name arguments =>
      simp only [Bool.and_eq_true, beq_iff_eq] at called
      rcases called with ⟨⟨rfl, rfl⟩, rfl⟩
      exact ⟨id, arguments, rfl⟩
  · cases called

/-- The other child is called after it has acknowledged the helper. -/
theorem acknowledges_resumed :
    Reachable resumed ∧ resumed.authors[8]? = some (some ⟨0, 0, 2⟩) ∧
      ∃ (id : Int) (arguments : List Json) (earlier : Nat),
        resumed.host.journal[8]? = some (.wrote 1
          (.obj (("id", .int id) :: Site.calling .normalize arguments))) ∧
        earlier + 1 < 8 ∧ Acknowledges resumed.host.journal 1 .canonical earlier := by
  have own : resumed.authors[8]? = some (some ⟨0, 0, 2⟩) := by decide +kernel
  have called : resumed.host.journal[8]?.any (isCall 1 .normalize) = true := by decide +kernel
  rcases (Option.any_eq_true _ _).mp called with ⟨event, written, calls⟩
  rcases exists_of_isCall calls with ⟨id, arguments, rfl⟩
  rcases (acknowledges_of_reachable reachable_resumed).2.1 8 1 id .normalize arguments _ written own
    with ⟨earlier, before, acknowledges⟩
  exact ⟨reachable_resumed, own, id, arguments, earlier, written, before, acknowledges⟩

end Hall
end AnswerKey
