import Archivist.Proofs.Store.Outage
import Archivist.Store.Memory
import Mathlib.Logic.Function.Iterate

set_option autoImplicit false

namespace Archivist

namespace Fault

/-- A fault is meant for the calls of its operation whose target begins as it says. -/
def isMeantFor (fault : Fault) (call : Call) : Bool :=
  fault.operation = call.operation ∧ fault.beginning.toList <+: call.target.toList

/-- The calls that are left without the first ones that a fault is meant for, as many as it fails. -/
def spared (fault : Fault) (calls : List Call) : List Call :=
  (List.eraseP fault.isMeantFor)^[fault.remaining] calls

/-- A fault that has so many calls left to fail. -/
def withRemaining (fault : Fault) (remaining : Nat) : Fault := { fault with remaining := remaining }

variable {fault : Fault} {call : Call} {calls : List Call}

theorem isMeantFor_iff : fault.isMeantFor call = true ↔
    fault.operation = call.operation ∧ fault.beginning.toList <+: call.target.toList := by
  simp [isMeantFor]

theorem hits_iff : fault.hits call = true ↔ fault.isMeantFor call = true ∧ 0 < fault.remaining := by
  simp [hits, isMeantFor, List.isPrefixOf_iff_prefix, and_right_comm]

@[simp] theorem remaining_withRemaining (remaining : Nat) :
    (fault.withRemaining remaining).remaining = remaining := rfl

@[simp] theorem isMeantFor_withRemaining (remaining : Nat) :
    (fault.withRemaining remaining).isMeantFor = fault.isMeantFor := rfl

theorem hits_withRemaining {passed : Nat} :
    (fault.withRemaining (fault.remaining - passed)).hits call = true ↔
      fault.isMeantFor call = true ∧ passed < fault.remaining := by
  rw [hits_iff, isMeantFor_withRemaining, remaining_withRemaining, Nat.sub_pos_iff_lt]

@[simp] theorem spared_nil : fault.spared [] = [] :=
  Function.iterate_fixed List.eraseP_nil fault.remaining

theorem spared_of_hits (hit : fault.hits call = true) :
    fault.spared (call :: calls) = (fault.withRemaining (fault.remaining - 1)).spared calls := by
  obtain ⟨meant, some⟩ := hits_iff.mp hit
  obtain ⟨remaining, same⟩ := Nat.exists_eq_succ_of_ne_zero (Nat.ne_of_gt some)
  simp [spared, same, Function.iterate_succ_apply, meant]

theorem spared_of_misses (missed : fault.hits call = false) :
    fault.spared (call :: calls) = call :: fault.spared calls := by
  by_cases meant : fault.isMeantFor call = true
  · have none : fault.remaining = 0 := by
      by_contra some
      have hit := hits_iff.mpr ⟨meant, Nat.pos_of_ne_zero some⟩
      simp [hit] at missed
    simp [spared, none]
  · -- A call that no removal is about stays in front of all of them.
    have stays : Function.Semiconj (List.cons call) (List.eraseP fault.isMeantFor)
        (List.eraseP fault.isMeantFor) := fun rest => (List.eraseP_cons_of_neg meant).symm
    exact (stays.iterate_right fault.remaining calls).symm

end Fault

namespace MemoryStore

def afterAll (store : MemoryStore) (calls : List Call) : MemoryStore :=
  calls.foldl (fun store call => (store.handle call).2) store

def disarm (store : MemoryStore) (operation : Operation) : MemoryStore :=
  { store with faults := store.faults.filter fun fault => fault.operation ≠ operation }

def entry (call : Call) : Operation × String := (call.operation, call.target)

variable {store armed spared : MemoryStore} {fault : Fault} {call : Call}

theorem handle_of_misses (missed : store.faults.find? (·.hits call) = none) :
    store.handle call = ((store.holdings.perform call).1,
      ⟨store.holdings.after call, store.faults, entry call :: store.history⟩) := by
  rw [handle, missed]
  rfl

theorem handle_of_hits (found : store.faults.find? (·.hits call) = some fault) :
    store.handle call = (.error (fault.failure call),
      ⟨store.holdings, store.faults.map (countDown · call), entry call :: store.history⟩) := by
  rw [handle, found]
  rfl

/-- A call that no fault is left for is performed. -/
theorem handle_spent (store : MemoryStore) (spent : ∀ fault ∈ store.faults, fault.remaining = 0)
    (call : Call) :
    store.handle call = ((store.holdings.perform call).1,
      ⟨store.holdings.after call, store.faults, (call.operation, call.target) :: store.history⟩) := by
  apply handle_of_misses
  apply List.find?_eq_none.mpr
  intro fault armed
  simp [Fault.hits, spent fault armed]

theorem struck_or_performed (store : MemoryStore) (call : Call) :
    (∃ fault ∈ store.faults, fault.hits call = true ∧
      (store.handle call).1 = .error (fault.failure call) ∧
      (store.handle call).2.holdings = store.holdings) ∨
    ((store.handle call).1 = (store.holdings.perform call).1 ∧
      (store.handle call).2.holdings = store.holdings.after call) := by
  cases found : store.faults.find? (·.hits call) with
  | none =>
    right
    rw [handle_of_misses found]
    exact ⟨rfl, rfl⟩
  | some fault =>
    left
    have hit : fault.hits call = true := by simpa using List.find?_some found
    refine ⟨fault, List.mem_of_find?_eq_some found, hit, ?_⟩
    rw [handle_of_hits found]
    exact ⟨rfl, rfl⟩

/-- A store that is told to fail has an outage, and does nothing when it fails. -/
theorem handle_faulty (store : MemoryStore) (call : Call) :
    Backend.faulty .outage call store.holdings (some (store.handle call).1)
      (store.handle call).2.holdings := by
  rcases store.struck_or_performed call with ⟨fault, _, _, failed, unchanged⟩ | ⟨performed, after⟩
  · refine Or.inr ⟨some (fault.failure call), ?_, congrArg some failed, unchanged⟩
    rw [Fault.failure]
    cases fault.kind with
    | outage => exact Or.inl rfl
    | refusal => exact Or.inr ⟨_, rfl⟩
  · exact Or.inl ⟨congrArg some performed, after⟩

theorem holdings_of_error {failure : StoreFailure}
    (refused : (store.handle call).1 = .error failure) :
    (store.handle call).2.holdings = store.holdings := by
  rcases store.struck_or_performed call with ⟨_, _, _, _, unchanged⟩ | ⟨performed, after⟩
  · exact unchanged
  · have failed : (store.holdings.perform call).1 = .error failure := by rw [← refused, performed]
    rw [after]
    exact Holdings.after_of_error failed

theorem log_handle (store : MemoryStore) (call : Call) :
    (store.handle call).2.log = store.log ++ [entry call] := by
  cases found : store.faults.find? (·.hits call) with
  | none => simp [handle, found, log, entry]
  | some fault => simp [handle, found, log, entry]

theorem log_afterAll (store : MemoryStore) (calls : List Call) :
    (store.afterAll calls).log = store.log ++ calls.map entry := by
  induction calls generalizing store with
  | nil => simp [afterAll]
  | cons call rest ih =>
    change ((store.handle call).2.afterAll rest).log = _
    rw [ih, log_handle]
    simp

@[simp] theorem operation_countDown (fault : Fault) (call : Call) :
    (countDown fault call).operation = fault.operation := by
  unfold countDown
  split <;> rfl

theorem countDown_of_operation (apart : fault.operation ≠ call.operation) :
    countDown fault call = fault := by
  simp [countDown, Fault.hits, apart]

/-- No calls of an operation are left to fail. -/
def IsIdle (store : MemoryStore) (operation : Operation) : Prop :=
  ∀ fault ∈ store.faults, fault.operation = operation → fault.remaining = 0

instance (store : MemoryStore) (operation : Operation) : Decidable (store.IsIdle operation) :=
  inferInstanceAs (Decidable (∀ fault ∈ store.faults, _ → _))

theorem isIdle_disarm (store : MemoryStore) (operation : Operation) :
    (store.disarm operation).IsIdle operation := by
  simp +contextual [IsIdle, disarm]

theorem IsIdle.disarm {operation : Operation} (idle : store.IsIdle operation) (other : Operation) :
    (store.disarm other).IsIdle operation := by
  intro fault member
  exact idle fault (List.mem_filter.mp member).1

theorem handle_of_isIdle (idle : store.IsIdle call.operation) :
    (store.handle call).1 = (store.holdings.perform call).1 := by
  rw [handle_of_misses]
  apply List.find?_eq_none.mpr
  intro fault member hit
  obtain ⟨meant, some⟩ := Fault.hits_iff.mp hit
  have none := idle fault member (Fault.isMeantFor_iff.mp meant).1
  omega

/-- A fault that has no calls left to fail gets none back. -/
theorem isIdle_handle {operation : Operation} (idle : store.IsIdle operation) (call : Call) :
    (store.handle call).2.IsIdle operation := by
  cases found : store.faults.find? (·.hits call) with
  | none =>
    rw [handle_of_misses found]
    exact idle
  | some fault =>
    rw [handle_of_hits found]
    intro other member same
    obtain ⟨fault, armed, rfl⟩ := List.mem_map.mp member
    rw [operation_countDown] at same
    have none := idle fault armed same
    simp [countDown, Fault.hits, none]

theorem isIdle_afterAll {operation : Operation} (idle : store.IsIdle operation)
    (calls : List Call) : (store.afterAll calls).IsIdle operation := by
  induction calls generalizing store with
  | nil => exact idle
  | cons call rest ih => exact ih (isIdle_handle idle call)

/-- Of two stores that hold the same, one has a fault for an operation for which the other one has
none. -/
structure Shadows (fault : Fault) (armed spared : MemoryStore) : Prop where
  faults : armed.faults = fault :: spared.faults
  others : ∀ other ∈ spared.faults, other.operation ≠ fault.operation
  holdings : armed.holdings = spared.holdings

theorem shadows_arm (store : MemoryStore) (fault : Fault) :
    Shadows fault (store.arm fault) (store.disarm fault.operation) where
  faults := rfl
  others := by simp [disarm]
  holdings := rfl

namespace Shadows

theorem struck (shadows : Shadows fault armed spared) (hit : fault.hits call = true) :
    (armed.handle call).1 = .error (fault.failure call) ∧
      Shadows (fault.withRemaining (fault.remaining - 1)) (armed.handle call).2 spared := by
  have found : armed.faults.find? (·.hits call) = some fault := by
    simp [shadows.faults, hit]
  have kept : ∀ other ∈ spared.faults, countDown other call = other := by
    intro other member
    apply countDown_of_operation
    rw [← (Fault.isMeantFor_iff.mp (Fault.hits_iff.mp hit).1).1]
    exact shadows.others other member
  rw [handle_of_hits found]
  refine ⟨rfl, ?_, shadows.others, shadows.holdings⟩
  rw [shadows.faults, List.map_cons, List.map_congr_left kept, List.map_id']
  simp [countDown, hit, Fault.withRemaining]

theorem passed (shadows : Shadows fault armed spared) (missed : fault.hits call = false) :
    (armed.handle call).1 = (spared.handle call).1 ∧
      Shadows fault (armed.handle call).2 (spared.handle call).2 := by
  have looked : armed.faults.find? (·.hits call) = spared.faults.find? (·.hits call) := by
    simp [shadows.faults, missed]
  cases found : spared.faults.find? (·.hits call) with
  | none =>
    rw [handle_of_misses found, handle_of_misses (looked.trans found), shadows.holdings]
    exact ⟨rfl, shadows.faults, shadows.others, rfl⟩
  | some other =>
    rw [handle_of_hits found, handle_of_hits (looked.trans found)]
    refine ⟨rfl, ?_, ?_, shadows.holdings⟩
    · simp [shadows.faults, countDown, missed]
    · simpa using shadows.others

theorem run (shadows : Shadows fault armed spared) (calls : List Call) :
    Shadows (fault.withRemaining (fault.remaining - calls.countP fault.isMeantFor))
      (armed.afterAll calls) (spared.afterAll (fault.spared calls)) := by
  -- Each call is hit by the fault, or both stores answer it.
  induction calls generalizing fault armed spared with
  | nil =>
    rw [Fault.spared_nil]
    exact shadows
  | cons call rest ih =>
    by_cases hit : fault.hits call = true
    · have later := ih (shadows.struck hit).2
      have fewer : fault.remaining - 1 - rest.countP fault.isMeantFor =
          fault.remaining - (call :: rest).countP fault.isMeantFor := by
        rw [List.countP_cons_of_pos (Fault.hits_iff.mp hit).1]
        omega
      rw [Fault.spared_of_hits hit, ← fewer]
      exact later
    · have missed : fault.hits call = false := by simpa using hit
      have later := ih (shadows.passed missed).2
      have same : fault.remaining - rest.countP fault.isMeantFor =
          fault.remaining - (call :: rest).countP fault.isMeantFor := by
        rw [Fault.hits_iff] at hit
        by_cases meant : fault.isMeantFor call = true
        · have none : ¬ 0 < fault.remaining := fun some => hit ⟨meant, some⟩
          omega
        · rw [List.countP_cons_of_neg meant]
      rw [Fault.spared_of_misses missed, ← same]
      exact later

end Shadows

/-- A call that is refused changes nothing, and every call is written down. When a store has been
told to fail some calls, a call that comes after others fails by that order exactly when it is meant
and fewer such calls came before than are to fail. Any other call is answered as by the store that
was not told so and never had the calls that failed; which performs it, unless it was told before to
fail calls of another operation. -/
theorem faults_fire_as_ordered (store : MemoryStore) (fault : Fault) (before : List Call)
    (call : Call) :
    let armed := (store.arm fault).afterAll before
    let spared := (store.disarm fault.operation).afterAll (fault.spared before)
    (∀ failure, (store.handle call).1 = .error failure →
      (store.handle call).2.holdings = store.holdings) ∧
    (store.handle call).2.log = store.log ++ [entry call] ∧
    armed.holdings = spared.holdings ∧
    armed.log = store.log ++ before.map entry ∧
    (armed.handle call).1 =
      (if fault.isMeantFor call ∧ before.countP fault.isMeantFor < fault.remaining then
        .error (fault.failure call)
      else (spared.handle call).1) ∧
    (call.operation = fault.operation ∨ store.IsIdle call.operation →
      (spared.handle call).1 = (spared.holdings.perform call).1) := by
  intro armed spared
  have shadows := (shadows_arm store fault).run before
  refine ⟨fun failure => holdings_of_error, log_handle store call, shadows.holdings,
    log_afterAll (store.arm fault) before, ?answered, ?performed⟩
  case answered =>
    by_cases hit :
        (fault.withRemaining (fault.remaining - before.countP fault.isMeantFor)).hits call = true
    · have due := hit
      rw [Fault.hits_withRemaining] at due
      rw [if_pos due]
      exact (shadows.struck hit).1
    · have missed := hit
      rw [Fault.hits_withRemaining] at missed
      rw [if_neg missed]
      exact (shadows.passed (by simpa using hit)).1
  case performed =>
    intro idle
    apply handle_of_isIdle
    apply isIdle_afterAll
    rcases idle with same | idle
    · rw [same]
      exact isIdle_disarm store fault.operation
    · exact idle.disarm fault.operation

/-- A store with one document, which was told before to refuse a refresh. -/
def stocked : MemoryStore :=
  ⟨Holdings.empty.write "live" [("a", .object [("key", .nat 7)])],
    [⟨.refresh, .refusal, "", 1⟩], []⟩

def twoCopies : Fault := ⟨.reindex, .outage, "live", 2⟩

def copyOf (source : String) : Call := .reindex source "old" (.present "key")

/-- The copy of another index is not counted and fails for a reason of its own, so the second copy
of the live index fails as ordered and the third one is made. -/
theorem third_copy_is_made :
    let told := stocked.arm twoCopies
    (told.handle (copyOf "live")).2.holdings = told.holdings ∧
    ((told.afterAll [copyOf "live"]).handle (copyOf "gone")).1 =
      .error (.rejected 404 "no such index [gone]") ∧
    ((told.afterAll [copyOf "live", copyOf "gone"]).handle (copyOf "live")).1 =
      .error (.transient "injected Reindex failure on 'live->old'") ∧
    ((told.afterAll [copyOf "live", copyOf "gone", copyOf "live"]).handle (copyOf "live")).1 =
      .ok (1 : Nat) := by
  intro told
  have first := (faults_fire_as_ordered stocked twoCopies [copyOf "live"] (copyOf "gone")).2.2.2.2
  have second :=
    (faults_fire_as_ordered stocked twoCopies [copyOf "live", copyOf "gone"] (copyOf "live")).2.2.2.2
  have third := (faults_fire_as_ordered stocked twoCopies
    [copyOf "live", copyOf "gone", copyOf "live"] (copyOf "live")).2.2.2.2
  refine ⟨?unchanged, ?other, ?counted, ?made⟩
  case unchanged =>
    exact (faults_fire_as_ordered told twoCopies [] (copyOf "live")).1 _ rfl
  case other =>
    rw [first.1, if_neg (by decide), first.2 (.inl rfl)]
    rfl
  case counted =>
    rw [second.1, if_pos (by decide)]
    rfl
  case made =>
    rw [third.1, if_neg (by decide), third.2 (.inl rfl)]
    rfl

end MemoryStore

end Archivist
