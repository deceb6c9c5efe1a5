import Archivist.Proofs.Cycle.Books
import Mathlib.Logic.Relation

set_option autoImplicit false

namespace Archivist

open Calendar (Instant)

namespace Scheduler

def Stage.isRunning : Stage → Bool
  | .cycling | .waiting .. => true
  | .built | .starting | .returned => false

def Stage.isIdle : Stage → Bool
  | .starting | .waiting .. => true
  | .built | .cycling | .returned => false

/-- What may be done to a loop from outside, before it has started and after. -/
inductive Event where
  | start
  | trigger
  | cancel
  | dropHandle
deriving Repr, DecidableEq

def undergo (scheduler : Scheduler) : Event → Scheduler
  | .start => scheduler.start
  | .trigger => scheduler.trigger.2
  | .cancel => scheduler.cancel
  | .dropHandle => scheduler.dropHandle

/-- Outside of its cycles a loop changes neither what it has counted nor whether it is enabled, and
one that was told to stop stays so. -/
structure Retains (before after : Scheduler) : Prop where
  enabled : after.enabled = before.enabled
  archived : after.archived = before.archived
  cancelled : before.cancelled = true → after.cancelled = true

variable {scheduler : Scheduler}

theorem retains_undergo (scheduler : Scheduler) (event : Event) :
    scheduler.Retains (scheduler.undergo event) := by
  cases event with
  | start =>
    rw [undergo, start]
    split <;> exact ⟨rfl, rfl, id⟩
  | trigger =>
    rw [undergo, trigger]
    split <;> exact ⟨rfl, rfl, id⟩
  | cancel => exact ⟨rfl, rfl, fun _ => rfl⟩
  | dropHandle => exact ⟨rfl, rfl, id⟩

theorem stage_undergo (scheduler : Scheduler) (event : Event) :
    (scheduler.undergo event).stage = scheduler.stage ∨
      (scheduler.undergo event).stage = .starting ∧ scheduler.stage = .built := by
  cases event with
  | start =>
    rw [undergo, start]
    split
    · rename_i built
      exact Or.inr ⟨rfl, built⟩
    · exact Or.inl rfl
  | trigger =>
    rw [undergo, trigger]
    split <;> exact Or.inl rfl
  | cancel | dropHandle => exact Or.inl rfl

theorem retains_poll (scheduler : Scheduler) (time : Nat) :
    scheduler.Retains (scheduler.poll time) := by
  rw [poll]
  split
  · split <;> exact ⟨rfl, rfl, id⟩
  · repeat' split
    all_goals exact ⟨rfl, rfl, id⟩
  · exact ⟨rfl, rfl, id⟩

/-- A loop that does not wait for its turn does nothing when it comes to act. -/
theorem poll_of_not_isIdle (busy : scheduler.stage.isIdle = false) (time : Nat) :
    scheduler.poll time = scheduler := by
  rw [poll]
  cases stage : scheduler.stage with
  | built | cycling | returned => rfl
  | starting | waiting _ _ =>
    rw [stage] at busy
    cases busy

/-- Once a loop was told to stop, it returns when it comes to act next. -/
theorem poll_of_cancelled (cancelled : scheduler.cancelled = true)
    (idle : scheduler.stage.isIdle = true) (time : Nat) :
    (scheduler.poll time).stage = .returned := by
  rw [poll]
  cases stage : scheduler.stage with
  | starting =>
    simp only [proceed, cancelled, ↓reduceIte]
    split <;> rfl
  | waiting delay deadline => simp only [cancelled, ↓reduceIte]
  | built | cycling | returned =>
    rw [stage] at idle
    cases idle

theorem poll_of_disabled (disabled : scheduler.enabled = false)
    (still : scheduler.stage.isRunning = false) (time : Nat) :
    (scheduler.poll time).stage.isRunning = false := by
  rw [poll]
  cases stage : scheduler.stage with
  | starting =>
    simp only [disabled, Bool.false_eq_true, ↓reduceIte]
    rfl
  | built | returned =>
    rw [stage] at still
    simp only [stage, still]
  | cycling | waiting _ _ =>
    rw [stage] at still
    cases still

end Scheduler

/-- A loop with the cycle that is under way in it, and what has come of it so far. -/
structure Watch where
  scheduler : Scheduler
  underWay : Option (Work Cycle.Outcome)
  /-- Why the loop was cut off, when it was. -/
  crash : Option Crash
  desk : Desk
  /-- How many cycles the loop has started. -/
  started : Nat
  /-- The outcomes of the cycles that have ended. -/
  ended : List Cycle.Outcome
  /-- What others have added to the counters. -/
  others : Counter → Nat

namespace Watch

def build (enabled : Bool) (pacing : Pacing) : Watch where
  scheduler := .build enabled pacing
  underWay := none
  crash := none
  desk := .fresh
  started := 0
  ended := []
  others _ := 0

/-- The loop comes to act at a time. When it turns to a cycle, that begins with the present reading
of the archiver's clock. -/
def poll (watch : Watch) (archiver : Archiver) (fuel : Nat) (clock : Instant) (time : Nat) : Watch :=
  let scheduler := watch.scheduler.poll time
  if scheduler.stage = .cycling then
    { watch with
      scheduler := scheduler
      underWay := some (archiver.cycle fuel clock)
      started := watch.started + 1 }
  else { watch with scheduler := scheduler }

def count (watch : Watch) (counter : Counter) (amount : Nat) : Watch :=
  { watch with
    desk := watch.desk.after (.count counter amount)
    others := fun other => watch.others other + if other = counter then amount else 0 }

/-- What may happen next. Nothing from outside reaches a cycle but the answers it gets, and only a
loop without a cycle comes to act. The loop may be cut off at any time. -/
inductive Step (archiver : Archiver) : Watch → Watch → Prop where
  | undergoes (watch : Watch) (event : Scheduler.Event) :
    Step archiver watch { watch with scheduler := watch.scheduler.undergo event }
  | counts (watch : Watch) (counter : Counter) (amount : Nat) :
    Step archiver watch (watch.count counter amount)
  | polls (watch : Watch) (fuel : Nat) (clock : Instant) (time : Nat)
      (free : watch.underWay = none) :
    Step archiver watch (watch.poll archiver fuel clock time)
  | acts (watch : Watch) (action : Action) (resume : action.Yield → Work Cycle.Outcome)
      (busy : watch.underWay = some (.ask action resume)) (answer : action.Yield) :
    Step archiver watch
      { watch with underWay := some (resume answer), desk := watch.desk.after action }
  | ends (watch : Watch) (outcome : Cycle.Outcome)
      (busy : watch.underWay = some (.finish outcome)) (time : Nat) :
    Step archiver watch
      { watch with
        underWay := none
        scheduler := watch.scheduler.cycleEnded time outcome
        ended := watch.ended ++ [outcome] }
  | breaks (watch : Watch) (cause : Crash) :
    Step archiver watch
      { watch with
        underWay := none
        scheduler := { watch.scheduler with stage := .returned }
        crash := some cause }

abbrev Runs (archiver : Archiver) : Watch → Watch → Prop :=
  Relation.ReflTransGen (Step archiver)

/-- What a cycle has counted since it began; when none is under way there is nothing to tell. -/
def Accounts (underWay : Option (Work Cycle.Outcome)) (account : Account) : Prop :=
  match underWay with
  | none => ∀ counter, counter.isOfCycles = true → account.counted counter = 0
  | some work => Account.setting.Ensures (Cycle.Booked (.begin .idle)) work account

/-- A loop whose total and whose counters agree with the cycles it has started. -/
structure Sound (watch : Watch) : Prop where
  cycling : watch.scheduler.stage = .cycling ↔ watch.underWay.isSome = true
  total : watch.scheduler.archived = (watch.ended.map Cycle.moved).sum
  bounded : watch.ended.length + watch.underWay.toList.length ≤ watch.started
  disabled : watch.scheduler.enabled = false →
    watch.scheduler.stage.isRunning = false ∧ watch.started = 0
  startedEq : watch.crash = none →
    watch.started = watch.ended.length + watch.underWay.toList.length
  told : watch.crash = none → ∃ account, Accounts watch.underWay account ∧
    ∀ counter, counter.isOfCycles = true → watch.desk.counters.get counter =
      Counters.wrap (watch.others counter +
        (watch.ended.map fun outcome => Cycle.books outcome counter).sum +
          account.counted counter)

theorem sound_build (enabled : Bool) (pacing : Pacing) : (build enabled pacing).Sound where
  cycling := by simp only [build, Scheduler.build, reduceCtorEq, Option.isSome_none,
    Bool.false_eq_true]
  total := rfl
  bounded := Nat.le_refl 0
  disabled _ := ⟨rfl, rfl⟩
  startedEq _ := rfl
  told _ := ⟨.begin .idle, fun _ _ => rfl, fun counter _ => by cases counter <;> rfl⟩

namespace Sound

variable {watch : Watch} {archiver : Archiver} (sound : watch.Sound)
include sound

theorem undergo (event : Scheduler.Event) :
    Sound { watch with scheduler := watch.scheduler.undergo event } := by
  have retains := watch.scheduler.retains_undergo event
  have stage := watch.scheduler.stage_undergo event
  constructor
  case cycling =>
    rw [← sound.cycling]
    rcases stage with same | ⟨starting, built⟩
    · rw [same]
    · simp only [starting, built, reduceCtorEq]
  case total => exact retains.archived.trans sound.total
  case bounded => exact sound.bounded
  case disabled =>
    intro disabled
    obtain ⟨still, none⟩ := sound.disabled (retains.enabled.symm.trans disabled)
    refine ⟨?_, none⟩
    rcases stage with same | ⟨starting, _⟩
    · rw [same]
      exact still
    · rw [starting]
      rfl
  case startedEq => exact sound.startedEq
  case told => exact sound.told

theorem count (counter : Counter) (amount : Nat) : (watch.count counter amount).Sound where
  cycling := sound.cycling
  total := sound.total
  bounded := sound.bounded
  disabled := sound.disabled
  startedEq := sound.startedEq
  told whole := by
    obtain ⟨account, accounts, shown⟩ := sound.told whole
    refine ⟨account, accounts, fun other ofCycles => ?_⟩
    simp only [Watch.count, Desk.after, Counters.get_add, shown other ofCycles]
    split
    · rename_i same
      rw [← same, shown other ofCycles]
      simp only [Counters.wrap, Nat.mod_add_mod]
      congr 1
      omega
    · rw [Nat.add_zero]

theorem poll (archiver : Archiver) (fuel : Nat) (clock : Instant) (time : Nat)
    (free : watch.underWay = none) : (watch.poll archiver fuel clock time).Sound := by
  have retains := watch.scheduler.retains_poll time
  have off : watch.scheduler.enabled = false →
      (watch.scheduler.poll time).stage.isRunning = false := fun disabled =>
    Scheduler.poll_of_disabled disabled (sound.disabled disabled).1 time
  rw [Watch.poll]
  split
  · rename_i cycling
    have enabled : watch.scheduler.enabled = true := by
      refine Bool.not_eq_false _ ▸ fun disabled => ?_
      have still := off disabled
      rw [cycling] at still
      cases still
    constructor
    case cycling => simp only [cycling, Option.isSome_some]
    case total => exact retains.archived.trans sound.total
    case bounded =>
      have bounded := sound.bounded
      rw [free] at bounded
      exact Nat.succ_le_succ bounded
    case disabled =>
      intro disabled
      rw [retains.enabled, enabled] at disabled
      cases disabled
    case startedEq =>
      intro whole
      rw [sound.startedEq whole, free]
      rfl
    case told =>
      intro whole
      obtain ⟨account, nothing, shown⟩ := sound.told whole
      rw [free] at nothing
      refine ⟨.begin .idle, archiver.account_cycle fuel clock _, fun counter ofCycles => ?_⟩
      rw [shown counter ofCycles, nothing counter ofCycles]
      rfl
  · rename_i notCycling
    constructor
    case cycling => simp only [notCycling, free, Option.isSome_none, Bool.false_eq_true]
    case total => exact retains.archived.trans sound.total
    case bounded => exact sound.bounded
    case disabled =>
      intro disabled
      rw [retains.enabled] at disabled
      exact ⟨off disabled, (sound.disabled disabled).2⟩
    case startedEq => exact sound.startedEq
    case told => exact sound.told

theorem act {action : Action} {resume : action.Yield → Work Cycle.Outcome}
    (busy : watch.underWay = some (.ask action resume)) (answer : action.Yield) :
    Sound { watch with underWay := some (resume answer), desk := watch.desk.after action } where
  cycling := by
    rw [sound.cycling, busy]
    rfl
  total := sound.total
  bounded := by
    have bounded := sound.bounded
    rw [busy] at bounded
    exact bounded
  disabled := sound.disabled
  startedEq whole := by
    rw [sound.startedEq whole, busy]
    rfl
  told whole := by
    obtain ⟨account, accounts, shown⟩ := sound.told whole
    rw [busy] at accounts
    exact ⟨account.after action, (accounts.2 answer _ rfl).2, fun counter ofCycles =>
      Desk.get_after (shown counter ofCycles) action⟩

theorem finish {outcome : Cycle.Outcome} (busy : watch.underWay = some (.finish outcome))
    (time : Nat) :
    Sound { watch with
      underWay := none
      scheduler := watch.scheduler.cycleEnded time outcome
      ended := watch.ended ++ [outcome] } := by
  have cycling : watch.scheduler.stage = .cycling := sound.cycling.mpr (by rw [busy]; rfl)
  constructor
  case cycling => simp only [Scheduler.cycleEnded, reduceCtorEq, Option.isSome_none,
    Bool.false_eq_true]
  case total =>
    simp only [Scheduler.cycleEnded, sound.total, List.map_append, List.sum_append, List.map_cons,
      List.map_nil, List.sum_cons, List.sum_nil, Nat.add_zero]
  case bounded =>
    have bounded := sound.bounded
    rw [busy] at bounded
    rw [List.length_append]
    exact bounded
  case disabled =>
    intro disabled
    have still := (sound.disabled disabled).1
    rw [cycling] at still
    cases still
  case startedEq =>
    intro whole
    rw [sound.startedEq whole, busy, List.length_append]
    rfl
  case told =>
    intro whole
    obtain ⟨account, booked, shown⟩ := sound.told whole
    rw [busy] at booked
    refine ⟨.begin .idle, fun _ _ => rfl, fun counter ofCycles => ?_⟩
    have counted : account.counted counter = 0 + Cycle.books outcome counter :=
      booked.counted counter ofCycles
    rw [shown counter ofCycles, counted, List.map_append, List.sum_append]
    congr 1
    simp only [List.map_cons, List.map_nil, List.sum_cons, List.sum_nil, Account.begin]
    omega

theorem breakOff (cause : Crash) :
    Sound { watch with
      underWay := none
      scheduler := { watch.scheduler with stage := .returned }
      crash := some cause } where
  cycling := by simp only [reduceCtorEq, Option.isSome_none, Bool.false_eq_true]
  total := sound.total
  bounded := Nat.le_trans (Nat.le_add_right _ _) sound.bounded
  disabled disabled := ⟨rfl, (sound.disabled disabled).2⟩
  startedEq whole := by cases whole
  told whole := by cases whole

theorem archived_eq_zero (disabled : watch.scheduler.enabled = false) :
    watch.started = 0 ∧ watch.scheduler.archived = 0 := by
  have none := (sound.disabled disabled).2
  have bounded := sound.bounded
  have nothing : watch.ended = [] := List.eq_nil_of_length_eq_zero (by omega)
  rw [sound.total, nothing]
  exact ⟨none, rfl⟩

theorem settled (returned : watch.scheduler.stage = .returned) (whole : watch.crash = none) :
    watch.underWay = none ∧ watch.ended.length = watch.started ∧
      ∀ counter, counter.isOfCycles = true → watch.desk.counters.get counter =
        Counters.wrap (watch.others counter +
          (watch.ended.map fun outcome => Cycle.books outcome counter).sum) := by
  have free : watch.underWay = none := by
    refine Option.not_isSome_iff_eq_none.mp fun busy => ?_
    rw [← sound.cycling, returned] at busy
    cases busy
  have started := sound.startedEq whole
  obtain ⟨account, nothing, shown⟩ := sound.told whole
  rw [free] at started nothing
  refine ⟨free, started.symm, fun counter ofCycles => ?_⟩
  rw [shown counter ofCycles, nothing counter ofCycles, Nat.add_zero]

end Sound

variable {archiver : Archiver} {before after : Watch}

theorem Step.sound (step : Step archiver before after) (sound : before.Sound) : after.Sound := by
  cases step with
  | undergoes event => exact sound.undergo event
  | counts counter amount => exact sound.count counter amount
  | polls fuel clock time free => exact sound.poll archiver fuel clock time free
  | acts action resume busy answer => exact sound.act busy answer
  | ends outcome busy time => exact sound.finish busy time
  | breaks cause => exact sound.breakOff cause

theorem Runs.sound (runs : Runs archiver before after) (sound : before.Sound) : after.Sound := by
  induction runs with
  | refl => exact sound
  | tail _ step ih => exact step.sound ih

/-- Once a loop was told to stop it starts no cycle any more. -/
theorem Step.started_eq (step : Step archiver before after) (sound : before.Sound)
    (cancelled : before.scheduler.cancelled = true) :
    after.scheduler.cancelled = true ∧ after.started = before.started := by
  cases step with
  | undergoes event => exact ⟨(before.scheduler.retains_undergo event).cancelled cancelled, rfl⟩
  | polls fuel clock time free =>
    have retained := (before.scheduler.retains_poll time).cancelled cancelled
    rw [poll]
    split
    · rename_i cycling
      -- It would have to be idle to turn to a cycle, and then it returns.
      cases idle : before.scheduler.stage.isIdle with
      | true =>
        rw [Scheduler.poll_of_cancelled cancelled idle] at cycling
        cases cycling
      | false =>
        rw [Scheduler.poll_of_not_isIdle idle, sound.cycling, free] at cycling
        cases cycling
    · exact ⟨retained, rfl⟩
  | counts _ _ | acts _ _ _ _ | ends _ _ _ | breaks _ => exact ⟨cancelled, rfl⟩

theorem Runs.started_eq (runs : Runs archiver before after) (sound : before.Sound)
    (cancelled : before.scheduler.cancelled = true) :
    after.scheduler.cancelled = true ∧ after.started = before.started := by
  induction runs with
  | refl => exact ⟨cancelled, rfl⟩
  | tail earlier step ih =>
    obtain ⟨still, same⟩ := ih
    obtain ⟨stays, unchanged⟩ := step.started_eq (Runs.sound earlier sound) still
    exact ⟨stays, unchanged.trans same⟩

theorem Step.enabled_eq (step : Step archiver before after) :
    after.scheduler.enabled = before.scheduler.enabled := by
  cases step with
  | undergoes event => exact (before.scheduler.retains_undergo event).enabled
  | polls fuel clock time _ =>
    have retained := (before.scheduler.retains_poll time).enabled
    rw [poll]
    split <;> exact retained
  | counts _ _ | acts _ _ _ _ | ends _ _ _ | breaks _ => rfl

theorem Runs.enabled_eq (runs : Runs archiver before after) :
    after.scheduler.enabled = before.scheduler.enabled := by
  induction runs with
  | refl => rfl
  | tail _ step ih => exact step.enabled_eq.trans ih

theorem runs_of_reaches {watch : Watch} {work rest : Work Cycle.Outcome} {desk : Desk}
    (reached : work.Reaches Desk.service watch.desk desk rest)
    (busy : watch.underWay = some work) :
    Runs archiver watch { watch with underWay := some rest, desk := desk } := by
  generalize begun : watch.desk = first at reached
  induction reached generalizing watch with
  | here first work =>
    obtain ⟨_, _, _, _, _, _, _⟩ := watch
    cases busy
    cases begun
    exact .refl
  | onward answer answered _ ih =>
    subst begun
    obtain rfl := answered
    exact .head (.acts watch _ _ busy answer) (ih rfl rfl)

end Watch

end Archivist
