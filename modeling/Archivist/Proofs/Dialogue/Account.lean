import Archivist.Proofs.Dialogue.Backend

set_option autoImplicit false

namespace Archivist

namespace Counter

def isOfCycles : Counter → Bool
  | .archivedInstances | .cycles | .cycleFailures => true
  | .reindexFailures | .cleanupDebt | .orphanTolerantSkips => false

theorem forall_isOfCycles {told : Counter → Prop} :
    (∀ counter, counter.isOfCycles = true → told counter) ↔
      told .archivedInstances ∧ told .cycles ∧ told .cycleFailures := by
  constructor
  · intro all
    exact ⟨all .archivedInstances rfl, all .cycles rfl, all .cycleFailures rfl⟩
  · intro three counter ofCycles
    obtain ⟨archived, cycles, failures⟩ := three
    cases counter with
    | archivedInstances => exact archived
    | cycles => exact cycles
    | cycleFailures => exact failures
    | reindexFailures | cleanupDebt | orphanTolerantSkips => cases ofCycles

end Counter

/-- What may be asked for between the phases of a cycle, where some calls may be made. -/
def Action.IsWithin (calls : Call → Prop) : Action → Prop
  | .attempt call _ => calls call
  | .rest _ | .recalls _ | .remember _ => True
  | .enter _ => False
  | .count counter _ => counter.isOfCycles = false

def Action.IsAmong (calls : Call → Prop) : Action → Prop
  | .attempt call _ => calls call
  | .rest _ | .recalls _ | .remember _ | .enter _ | .count _ _ => True

theorem Action.isAmong_of_isWithin {calls : Call → Prop} {action : Action}
    (within : action.IsWithin calls) : action.IsAmong calls := by
  cases action with
  | attempt call limit => exact within
  | rest _ | recalls _ | remember _ | enter _ | count _ _ => trivial

variable {calls : Call → Prop} {state : Unit}

namespace Work

def making (calls : Call → Prop) : Setting Action.Yield Unit := .asking (Action.IsAmong calls)

theorem makes_within {Result : Type} {done : Result → Unit → Prop} {work : Work Result}
    (asks : (Setting.asking (Action.IsWithin calls)).Ensures done work ()) :
    (making calls).Ensures done work () :=
  asks.relax (fun _ _ _ _ => id) (fun _ _ => Action.isAmong_of_isWithin) (fun _ => id) fun _ => id

theorem makes_enter {Result : Type} {done : Result → Unit → Prop} (phase : Phase)
    {next : Unit → Work Result} (further : (making calls).Ensures done (next ()) ()) :
    (making calls).Ensures done (Work.enter phase >>= next) () :=
  ⟨trivial, fun _ _ _ => ⟨trivial, further⟩⟩

theorem makes_count {Result : Type} {done : Result → Unit → Prop} (counter : Counter)
    (amount : Nat) {next : Unit → Work Result}
    (further : (making calls).Ensures done (next ()) ()) :
    (making calls).Ensures done (Work.count counter amount >>= next) () :=
  ⟨trivial, fun _ _ _ => ⟨trivial, further⟩⟩

/-- Work between the phases of a cycle, where some calls may be made. -/
def within (calls : Call → Prop) : Setting Action.Yield Unit := .asking (Action.IsWithin calls)

theorem asks_count {counter : Counter} (incidental : counter.isOfCycles = false) (amount : Nat) :
    (within calls).Ensures (fun _ _ => True) (Work.count counter amount) state :=
  ⟨incidental, fun _ _ _ => ⟨trivial, trivial⟩⟩

theorem asks_call (policy : RetryPolicy) (step : String) {call : Call} (made : calls call) :
    (within calls).Ensures (fun _ _ => True) (Work.call policy step call) state :=
  ensures_call policy step call (fun _ => True) _ (fun _ _ => made)
    (fun _ _ _ _ _ => ⟨trivial, trivial, fun _ _ => ⟨trivial, fun _ _ => ⟨trivial, trivial⟩⟩⟩)
    state trivial

end Work

theorem Backend.ensures_making {Store Result : Type} {backend : Backend Store}
    {calls : Call → Prop} {work : Work Result} {always : Site Store → Prop}
    (makes : (Work.making calls).Ensures (fun _ _ => True) work ()) (invariant : Store → Prop)
    (keeps : ∀ call now reply after, calls call → invariant now →
      backend call now reply after → invariant after)
    (kept : ∀ site, invariant site.store → always site)
    (site : Site Store) (begun : invariant site.store) :
    (backend.setting (fun _ => True) always fun _ => True).Ensures
      (fun _ after => invariant after.store) work site := by
  refine (makes.keeps (fun after : Site Store => invariant after.store) ?permitted ?answered
    kept (fun _ => trivial) begun).mono fun _ _ => And.right
  case permitted =>
    intro action now _ _
    cases action <;> trivial
  case answered =>
    intro action now answer after made holds served
    cases action with
    | attempt call limit => exact keeps call _ _ _ made holds served.1
    | recalls destination =>
      obtain ⟨_, rfl⟩ := served
      exact holds
    | rest _ | remember _ | enter _ | count _ _ =>
      obtain rfl := served
      exact holds

structure Account where
  counted : Counter → Nat
  phase : Phase

namespace Account

def begin (phase : Phase) : Account := ⟨fun _ => 0, phase⟩

def after (account : Account) : Action → Account
  | .enter phase => { account with phase := phase }
  | .count counter amount =>
    { account with
      counted := fun other => account.counted other + if other = counter then amount else 0 }
  | .attempt .. | .rest _ | .recalls _ | .remember _ => account

/-- Whatever is answered, the account of some work goes on in one way. -/
def setting : Setting Action.Yield Account where
  service action account _ next := next = account.after action
  permits _ _ := True
  always _ := True
  excuses _ := True

variable {Result : Type} {account : Account}

theorem ensures_enter (phase : Phase) {next : Unit → Work Result} {done : Result → Account → Prop}
    (further : setting.Ensures done (next ()) { account with phase := phase }) :
    setting.Ensures done (Work.enter phase >>= next) account := by
  rw [Setting.ensures_do]
  refine ⟨trivial, fun _ after same => ⟨trivial, ?_⟩⟩
  rw [show after = _ from same]
  exact further

theorem ensures_count (counter : Counter) (amount : Nat) {next : Unit → Work Result}
    {done : Result → Account → Prop}
    (further : setting.Ensures done (next ()) (account.after (.count counter amount))) :
    setting.Ensures done (Work.count counter amount >>= next) account := by
  rw [Setting.ensures_do]
  refine ⟨trivial, fun _ after same => ⟨trivial, ?_⟩⟩
  rw [show after = _ from same]
  exact further

/-- Two accounts agree on what cycles count. -/
def Agrees (account other : Account) : Prop :=
  ∀ counter, counter.isOfCycles = true → other.counted counter = account.counted counter

/-- Work between the phases of a cycle adds nothing to what cycles count. -/
theorem ensures_within {begun : Account} {calls : Call → Prop} {work : Work Result}
    (agrees : begun.Agrees account)
    (asks : (Work.within calls).Ensures (fun _ _ => True) work ()) :
    setting.Ensures (fun _ after => begun.Agrees after) work account := by
  refine (asks.keeps begun.Agrees (fun _ _ _ _ => trivial) ?_ (fun _ _ => trivial)
    (fun _ => trivial) agrees).mono fun _ _ => And.right
  intro action now _ next asked agrees same counter ofCycles
  obtain rfl := same
  cases action with
  | attempt _ _ | rest _ | recalls _ | remember _ => exact agrees counter ofCycles
  | enter phase => exact asked.elim
  | count other amount =>
    have different : counter ≠ other := by
      rintro rfl
      rw [show counter.isOfCycles = false from asked] at ofCycles
      cases ofCycles
    simp only [after, different, ↓reduceIte, Nat.add_zero]
    exact agrees counter ofCycles

end Account

/-- What an archiver shows of itself: its counters and what it is doing. -/
structure Desk where
  counters : Counters
  phase : Phase
deriving Repr, DecidableEq

namespace Desk

/-- The desk of an archiver that has done nothing yet. -/
def fresh : Desk := ⟨.zero, .idle⟩

def after (desk : Desk) : Action → Desk
  | .enter phase => { desk with phase := phase }
  | .count counter amount => { desk with counters := desk.counters.add amount counter }
  | .attempt .. | .rest _ | .recalls _ | .remember _ => desk

/-- Whatever is answered, a desk goes on in one way. -/
def service : Service Action.Yield Desk := fun action desk _ next => next = desk.after action

theorem get_after {desk : Desk} {account : Account} {counter : Counter} {base : Nat}
    (shown : desk.counters.get counter = Counters.wrap (base + account.counted counter))
    (action : Action) : (desk.after action).counters.get counter =
      Counters.wrap (base + (account.after action).counted counter) := by
  cases action with
  | attempt _ _ | rest _ | recalls _ | remember _ | enter _ => exact shown
  | count other amount =>
    simp only [after, Account.after, Counters.get_add]
    split
    · rename_i same
      rw [← same, shown]
      simp only [Counters.wrap, Nat.mod_add_mod, Nat.add_assoc]
    · rw [Nat.add_zero, shown]

/-- A desk shows an account, on top of what had been counted before and by others. -/
structure Shows (desk : Desk) (base : Counter → Nat) (account : Account) : Prop where
  counters : ∀ counter,
    desk.counters.get counter = Counters.wrap (base counter + account.counted counter)
  phase : desk.phase = account.phase

variable {desk : Desk} {base : Counter → Nat} {account : Account}

theorem Shows.after (shows : desk.Shows base account) (action : Action) :
    (desk.after action).Shows base (account.after action) where
  counters counter := get_after (shows.counters counter) action
  phase := by
    cases action with
    | enter phase => rfl
    | attempt _ _ | rest _ | recalls _ | remember _ | count _ _ => exact shows.phase

end Desk

/-- The place where an archiver works: the store in front of it and the desk behind it. -/
structure Workplace (Store : Type) where
  site : Site Store
  desk : Desk

def Backend.workplace {Store : Type} (backend : Backend Store) :
    Service Action.Yield (Workplace Store) :=
  fun action place answer next => backend.service action place.site answer next.site ∧
    next.desk = place.desk.after action

namespace Workplace

variable {Store Result : Type} {backend : Backend Store} {place next : Workplace Store}
  {work rest : Work Result}

theorem reaches_site (reached : work.Reaches backend.workplace place next rest) :
    work.Reaches backend.service place.site next.site rest :=
  reached.map Workplace.site fun _ _ _ _ => And.left

theorem shows_of_reaches {base : Counter → Nat} {account : Account}
    {done : Result → Account → Prop} {result : Result}
    (reached : work.Reaches backend.workplace place next (.finish result))
    (shows : place.desk.Shows base account) (ensured : Account.setting.Ensures done work account) :
    ∃ last, next.desk.Shows base last ∧ done result last := by
  generalize came : Dialogue.finish result = final at reached
  induction reached generalizing account with
  | here place work =>
    subst came
    exact ⟨account, shows, ensured⟩
  | onward answer answered _ ih =>
    have onward := (ensured.2 answer _ rfl).2
    exact ih (answered.2 ▸ shows.after _) onward came

end Workplace

end Archivist
