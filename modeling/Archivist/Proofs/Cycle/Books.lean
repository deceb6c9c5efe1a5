import Archivist.Proofs.Cycle.Turn
import Archivist.Proofs.Move.Asking
import Archivist.Scheduler
import Mathlib.Algebra.GroupWithZero.Nat

set_option autoImplicit false

namespace Archivist

open Calendar (Instant)

namespace Cycle

def failures : Outcome → Nat
  | .ok _ => 0
  | .error _ => 1

def books (outcome : Outcome) : Counter → Nat
  | .archivedInstances => moved outcome
  | .cycles => 1
  | .cycleFailures => failures outcome
  | .reindexFailures | .cleanupDebt | .orphanTolerantSkips => 0

theorem sum_cycles (outcomes : List Outcome) :
    (outcomes.map fun outcome => books outcome .cycles).sum = outcomes.length := by
  induction outcomes with
  | nil => rfl
  | cons outcome rest ih =>
    rw [List.map_cons, List.sum_cons, ih, List.length_cons]
    exact Nat.add_comm _ _

theorem sum_failures (outcomes : List Outcome) :
    (outcomes.map fun outcome => books outcome .cycleFailures).sum =
      outcomes.countP fun outcome => !outcome.isOk := by
  induction outcomes with
  | nil => rfl
  | cons outcome rest ih =>
    rw [List.map_cons, List.sum_cons, ih, List.countP_cons, Nat.add_comm]
    cases outcome <;> rfl

structure Booked (begun : Account) (outcome : Outcome) (account : Account) : Prop where
  counted : ∀ counter, counter.isOfCycles = true →
    account.counted counter = begun.counted counter + books outcome counter
  idle : account.phase = .idle

variable {begun account : Account} {mover : Mover}

theorem account_fail (failure : CycleFailure) (agrees : begun.Agrees account) :
    Account.setting.Ensures (Booked begun) (fail failure) account := by
  obtain ⟨archived, cycles, failures⟩ := Counter.forall_isOfCycles.mp agrees
  rw [fail]
  refine Account.ensures_enter .failed ?_
  refine Account.ensures_count .archivedInstances failure.archivedBefore ?_
  refine Account.ensures_count .cycles 1 ?_
  refine Account.ensures_count .cycleFailures 1 ?_
  refine Account.ensures_enter .idle ⟨Counter.forall_isOfCycles.mpr ⟨?_, ?_, ?_⟩, rfl⟩
  · exact congrArg (· + failure.archivedBefore) archived
  · exact congrArg (· + 1) cycles
  · exact congrArg (· + 1) failures

theorem account_succeed (count : Nat) (agrees : begun.Agrees account) :
    Account.setting.Ensures (Booked begun) (succeed count) account := by
  obtain ⟨archived, cycles, failures⟩ := Counter.forall_isOfCycles.mp agrees
  rw [succeed]
  refine Account.ensures_enter .success ?_
  refine Account.ensures_count .archivedInstances count ?_
  refine Account.ensures_count .cycles 1 ?_
  refine Account.ensures_enter .idle ⟨Counter.forall_isOfCycles.mpr ⟨?_, ?_, ?_⟩, rfl⟩
  · exact congrArg (· + count) archived
  · exact congrArg (· + 1) cycles
  · exact failures

/-- A turn that leads on has booked nothing yet. -/
def BooksLast (begun : Account) (turned : Cycle ⊕ Outcome) (account : Account) : Prop :=
  match turned with
  | .inl _ => begun.Agrees account
  | .inr outcome => Booked begun outcome account

theorem account_moveBatch (batch : Batch) (cycle : Cycle) (agrees : begun.Agrees account) :
    Account.setting.Ensures (BooksLast begun) (moveBatch mover batch cycle) account := by
  have asks : (Work.within (mover.MakesFor batch)).Ensures (fun _ _ => True) (mover.move batch) () :=
    (Mover.asks_move_for batch).mono fun _ _ _ => trivial
  rw [moveBatch]
  refine Account.ensures_enter .moving ?_
  rw [Setting.ensures_do]
  have moving : begun.Agrees { account with phase := .moving } := agrees
  refine (Account.ensures_within moving asks).mono ?_
  intro result after agreed
  rcases result with cause | count
  · simp only [Setting.ensures_do, Namer.suffixOrCrash]
    split
    · exact account_fail _ agreed
    · trivial
  · exact agreed

theorem account_turn (cycle : Cycle) (agrees : begun.Agrees account) :
    Account.setting.Ensures (BooksLast begun) (turn mover cycle) account := by
  rw [turn]
  refine Account.ensures_enter .fetching ?_
  cases cycle.discovery.draw with
  | finished =>
    simp only [Setting.ensures_do]
    exact account_succeed _ agrees
  | batch batch rest => exact account_moveBatch batch _ agrees
  | fetch =>
    have asks : (Work.within fun _ => True).Ensures (fun _ _ => True) cycle.discovery.fetch () :=
      (cycle.discovery.asks_fetch trivial).mono fun _ _ _ => trivial
    simp only [Setting.ensures_do]
    have fetching : begun.Agrees { account with phase := .fetching } := agrees
    refine (Account.ensures_within fetching asks).mono ?_
    intro fetched after agreed
    obtain ⟨discovery, _ | _⟩ := fetched
    · simp only [Setting.ensures_do]
      exact account_fail _ agreed
    · exact agreed

end Cycle

/-- However its questions are answered, a cycle books its outcome and is idle in the end. -/
theorem Archiver.account_cycle (archiver : Archiver) (fuel : Nat) (now : Instant)
    (begun : Account) :
    Account.setting.Ensures (Cycle.Booked begun) (archiver.cycle fuel now) begun := by
  rw [cycle]
  refine Account.ensures_enter .fetching ?_
  split
  · refine Account.ensures_count .cycles 1 ?_
    exact Account.ensures_enter .idle ⟨Counter.forall_isOfCycles.mpr ⟨rfl, rfl, rfl⟩, rfl⟩
  · split
    · trivial
    · refine Setting.Ensures.unfold (fun _ _ account => begun.Agrees account)
        (fun _ _ _ => trivial) ?_ fuel _ _ fun _ _ => rfl
      intro left cycle account agrees
      refine (Cycle.account_turn cycle agrees).mono ?_
      intro turned after booked
      rcases turned with next | outcome <;> exact booked

end Archivist
