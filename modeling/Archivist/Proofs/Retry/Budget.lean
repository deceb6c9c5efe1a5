import Archivist.Rehearsal.Trial
import Mathlib.Algebra.BigOperators.Group.Finset.Basic
import Mathlib.Data.List.TakeWhile

set_option autoImplicit false

namespace Archivist

open Finset (range)

namespace RetryPolicy

variable {policy : RetryPolicy}

theorem largestWord64_lt {attempt : Nat} (late : 64 ≤ attempt) : largestWord64 < 2 ^ attempt :=
  calc
    largestWord64 < 2 ^ 64 := by decide
    _ ≤ 2 ^ attempt := Nat.pow_le_pow_right (by decide) late

/-- A factor above all words brings every base but zero to its ceiling. -/
theorem min_mul_eq_ceiling {base factor ceiling : Nat} (positive : 0 < base)
    (large : ceiling ≤ factor) : min (base * factor) ceiling = ceiling :=
  Nat.min_eq_right (Nat.le_trans large (Nat.le_mul_of_pos_left factor positive))

/-- Where the base and the limit are words, neither the factor nor the product is ever held back
below the ceiling. -/
theorem backoff_eq (base : policy.backoffBase ≤ largestWord64)
    (limit : policy.backoffLimit ≤ largestWord64) (attempt : Nat) :
    policy.backoff attempt =
      min (policy.backoffBase * 2 ^ attempt) (max policy.backoffBase policy.backoffLimit) := by
  have ceiling : max policy.backoffBase policy.backoffLimit ≤ largestWord64 :=
    Nat.max_le.mpr ⟨base, limit⟩
  rw [backoff, Nat.max_comm policy.backoffLimit, Nat.min_assoc, Nat.min_eq_right ceiling]
  by_cases early : attempt < 64
  · rw [if_pos early]
    rfl
  · rw [if_neg early]
    rcases Nat.eq_zero_or_pos policy.backoffBase with zero | positive
    · rw [zero, Nat.zero_mul, Nat.zero_mul]
    · -- Both factors are at least the ceiling, so it does not matter that they differ.
      have large := Nat.le_of_lt (largestWord64_lt (Nat.not_lt.mp early))
      rw [min_mul_eq_ceiling positive ceiling,
        min_mul_eq_ceiling positive (Nat.le_trans ceiling large)]

/-- For a base and a limit of 64 bits the pause is the base doubled with every attempt and cut off at
the limit, or at the base where that is larger, as if there were no largest word. -/
theorem backoff_is_exact (policy : RetryPolicy) (base : policy.backoffBase ≤ largestWord64)
    (limit : policy.backoffLimit ≤ largestWord64) :
    (∀ attempt, policy.backoff attempt =
      min (policy.backoffBase * 2 ^ attempt) (max policy.backoffBase policy.backoffLimit)) ∧
    (∀ attempt, policy.backoff attempt ≤ largestWord64) ∧
    Monotone policy.backoff ∧
    ∀ attempt, policy.backoffBase ≤ policy.backoff attempt ∧
      policy.backoff attempt ≤ max policy.backoffBase policy.backoffLimit := by
  have exact := backoff_eq base limit
  have below (attempt : Nat) :
      policy.backoff attempt ≤ max policy.backoffBase policy.backoffLimit := by
    rw [exact]
    exact Nat.min_le_right _ _
  refine ⟨exact, fun attempt => ?_, fun earlier later after => ?_, fun attempt => ⟨?_, below attempt⟩⟩
  · exact Nat.le_trans (below attempt) (Nat.max_le.mpr ⟨base, limit⟩)
  · have doubled : 2 ^ earlier ≤ 2 ^ later := Nat.pow_le_pow_right (by decide) after
    rw [exact, exact]
    exact min_le_min_right _ (Nat.mul_le_mul_left _ doubled)
  · rw [exact]
    exact Nat.le_min.mpr
      ⟨Nat.le_mul_of_pos_right _ (Nat.two_pow_pos attempt), Nat.le_max_left _ _⟩

/-- Three milliseconds are doubled as long as the product is a word, and then stay at the limit, also
where the factor itself is no word any more. -/
theorem backoff_up_to_the_largest_word :
    let policy : RetryPolicy := ⟨100, 3, largestWord64, 0⟩
    (policy.backoffBase ≤ largestWord64 ∧ policy.backoffLimit ≤ largestWord64) ∧
      policy.backoff 62 = 3 * 2 ^ 62 ∧ policy.backoff 63 = largestWord64 ∧
      policy.backoff 64 = largestWord64 ∧ policy.backoff 99 = largestWord64 := by
  have exact := (backoff_is_exact ⟨100, 3, largestWord64, 0⟩ (by decide) (by decide)).1
  refine ⟨by decide, (exact 62).trans ?_, (exact 63).trans ?_, (exact 64).trans ?_,
    (exact 99).trans ?_⟩ <;> decide

end RetryPolicy

namespace Rehearsal

variable {Result : Type}

/-- Under a time limit an attempt leaves room for another one when it takes longer, or when it fails
for a reason that may pass. -/
def Attempt.isTransient (limit : Nat) (attempt : Attempt Result) : Bool :=
  limit < attempt.delay ||
    match attempt.outcome with
    | .ok _ => false
    | .error failure => failure.isTransient

/-- What an attempt comes to for a policy, which gives it up after a time. -/
def Attempt.verdict (policy : RetryPolicy) (step : String) (attempt : Attempt Result) :
    Except StoreFailure Result :=
  if policy.requestTimeout < attempt.delay then .error (policy.timedOut step) else attempt.outcome

namespace Trial

/-- The attempt with a number, from zero on. Past the end of the script every attempt succeeds at
once. -/
def attemptAt (attempts : List (Attempt Result)) (fallback : Result) (number : Nat) :
    Attempt Result :=
  attempts[number]?.getD ⟨0, .ok fallback⟩

variable {policy : RetryPolicy} {step : String} {fallback : Result}

def attempted (limit : Nat) (fallback : Result) (trial : Trial Result) : Trial Result where
  elapsed := trial.elapsed + min (attemptAt trial.upcoming fallback 0).delay limit
  upcoming := trial.upcoming.drop 1
  starts := trial.elapsed :: trial.starts

def rested (millis : Nat) (trial : Trial Result) : Trial Result :=
  { trial with elapsed := trial.elapsed + millis }

def attempts (policy : RetryPolicy) (step : String) (fallback : Result) (left number : Nat) :
    StateM (Trial Result) (Except Crash (Except StoreFailure Result)) :=
  let work : Dialogue (TrialStep.Yield Result) (Except StoreFailure Result) :=
    policy.attempts step (.question TrialStep.attempt) (fun millis =>
      .question (TrialStep.rest millis)) left number
  work.interpret (answer policy.requestTimeout fallback)

theorem isTransient_eq (policy : RetryPolicy) (step : String) (attempt : Attempt Result) :
    attempt.isTransient policy.requestTimeout =
      match attempt.verdict policy step with
      | .ok _ => false
      | .error failure => failure.isTransient := by
  rw [Attempt.isTransient, Attempt.verdict]
  by_cases late : policy.requestTimeout < attempt.delay
  · rw [if_pos late, decide_eq_true late]
    rfl
  · rw [if_neg late, decide_eq_false late, Bool.false_or]

theorem answer_attempt (policy : RetryPolicy) (step : String) (fallback : Result)
    (trial : Trial Result) :
    ∃ reply : Option (Except StoreFailure Result),
      (answer policy.requestTimeout fallback .attempt).run trial =
        pure (reply, trial.attempted policy.requestTimeout fallback) ∧
      reply.getD (.error (policy.timedOut step)) =
        (attemptAt trial.upcoming fallback 0).verdict policy step := by
  have first : attemptAt trial.upcoming fallback 0 =
      trial.upcoming.head?.getD ⟨0, .ok fallback⟩ := by
    rw [attemptAt, List.head?_eq_getElem?]
  rw [attempted, first, Attempt.verdict]
  by_cases late : policy.requestTimeout < (trial.upcoming.head?.getD ⟨0, .ok fallback⟩).delay
  · refine ⟨none, ?_, (if_pos late).symm⟩
    rw [Nat.min_eq_right (Nat.le_of_lt late)]
    exact if_neg (Nat.not_le.mpr late)
  · refine ⟨some (trial.upcoming.head?.getD ⟨0, .ok fallback⟩).outcome, ?_, (if_neg late).symm⟩
    rw [Nat.min_eq_left (Nat.not_lt.mp late)]
    exact if_pos (Nat.not_lt.mp late)

theorem run_attempts_of_transient (left number : Nat) (trial : Trial Result)
    (transient : (attemptAt trial.upcoming fallback 0).isTransient policy.requestTimeout = true) :
    (attempts policy step fallback (left + 1) number).run trial =
      (attempts policy step fallback left (number + 1)).run
        ((trial.attempted policy.requestTimeout fallback).rested (policy.backoff number)) := by
  obtain ⟨reply, answered, outcome⟩ := answer_attempt policy step fallback trial
  rw [isTransient_eq policy step] at transient
  rw [attempts, RetryPolicy.attempts]
  simp only [Dialogue.question, Dialogue.ask_bind, Dialogue.finish_bind, Dialogue.interpret,
    StateT.run_bind, answered, pure_bind, outcome]
  cases came : (attemptAt trial.upcoming fallback 0).verdict policy step with
  | ok result =>
    rw [came] at transient
    cases transient
  | error failure =>
    rw [came] at transient
    simp only [if_pos transient]
    rfl

theorem run_attempts_of_last (left number : Nat) (trial : Trial Result)
    (last : left = 0 ∨
      ¬(attemptAt trial.upcoming fallback 0).isTransient policy.requestTimeout = true) :
    (attempts policy step fallback left number).run trial =
      (.ok ((attemptAt trial.upcoming fallback 0).verdict policy step),
        trial.attempted policy.requestTimeout fallback) := by
  obtain ⟨reply, answered, outcome⟩ := answer_attempt policy step fallback trial
  rw [isTransient_eq policy step] at last
  rw [attempts, RetryPolicy.attempts.eq_def]
  simp only [Dialogue.question, Dialogue.ask_bind, Dialogue.finish_bind, Dialogue.interpret,
    StateT.run_bind, answered, pure_bind, outcome]
  cases came : (attemptAt trial.upcoming fallback 0).verdict policy step with
  | ok result => rfl
  | error failure =>
    rw [came] at last
    cases left with
    | zero => rfl
    | succ left =>
      simp only [if_neg (last.resolve_left (Nat.succ_ne_zero left))]
      rfl

theorem attemptAt_succ (script : List (Attempt Result)) (fallback : Result) (number : Nat) :
    attemptAt script fallback (number + 1) = attemptAt (script.drop 1) fallback number := by
  rw [attemptAt, attemptAt, List.getElem?_drop, Nat.add_comm]

/-- How many attempts of a script, from its first one on, leave room for another one. -/
def leading (limit : Nat) (script : List (Attempt Result)) : Nat :=
  (script.takeWhile (·.isTransient limit)).length

variable {limit number : Nat} {script : List (Attempt Result)}

theorem leading_of_transient (transient : (attemptAt script fallback 0).isTransient limit = true) :
    leading limit script = leading limit (script.drop 1) + 1 := by
  cases script with
  | nil => cases transient
  | cons first rest => exact congrArg List.length (List.takeWhile_cons_of_pos transient)

theorem leading_of_final (final : ¬(attemptAt script fallback 0).isTransient limit = true) :
    leading limit script = 0 := by
  cases script with
  | nil => rfl
  | cons first rest => exact congrArg List.length (List.takeWhile_cons_of_neg final)

theorem isTransient_of_lt_leading (fallback : Result) (early : number < leading limit script) :
    (attemptAt script fallback number).isTransient limit = true := by
  have start := List.takeWhile_prefix (l := script) (·.isTransient limit)
  rw [attemptAt, List.getElem?_eq_getElem (Nat.lt_of_lt_of_le early start.length_le),
    Option.getD_some, ← start.getElem early]
  exact List.mem_takeWhile_imp (List.getElem_mem early)

/-- The time that attempts take which are followed by so many others, with the pauses in between. The
first of these pauses has the given number. -/
def budget (policy : RetryPolicy) (script : List (Attempt Result)) (fallback : Result)
    (number retried : Nat) : Nat :=
  ∑ index ∈ range (retried + 1), min (attemptAt script fallback index).delay policy.requestTimeout +
    ∑ index ∈ range retried, policy.backoff (number + index)

theorem budget_zero (script : List (Attempt Result)) (fallback : Result) (number : Nat) :
    budget policy script fallback number 0 =
      min (attemptAt script fallback 0).delay policy.requestTimeout := by
  rw [budget, Finset.sum_range_one, Finset.sum_range_zero, Nat.add_zero]

theorem budget_succ (script : List (Attempt Result)) (fallback : Result) (number retried : Nat) :
    budget policy script fallback number (retried + 1) =
      min (attemptAt script fallback 0).delay policy.requestTimeout + policy.backoff number +
        budget policy (script.drop 1) fallback (number + 1) retried := by
  have times := Finset.sum_range_succ' (fun index =>
    min (attemptAt script fallback index).delay policy.requestTimeout) (retried + 1)
  have pauses := Finset.sum_range_succ' (fun index => policy.backoff (number + index)) retried
  have further : ∑ index ∈ range retried, policy.backoff (number + (index + 1)) =
      ∑ index ∈ range retried, policy.backoff (number + 1 + index) :=
    Finset.sum_congr rfl fun index _ => congrArg policy.backoff (by omega)
  simp only [attemptAt_succ] at times
  simp only [further, Nat.add_zero] at pauses
  rw [budget, budget, times, pauses]
  omega

/-- The attempts from a given one on are as many as the script and the retries that are left allow,
and they keep to their budget. -/
theorem run_attempts_within_budget (policy : RetryPolicy) (step : String) (fallback : Result)
    (left number retried : Nat) (trial : Trial Result)
    (counted : retried = min (leading policy.requestTimeout trial.upcoming) left) :
    ∃ after, (attempts policy step fallback left number).run trial =
        (.ok ((attemptAt trial.upcoming fallback retried).verdict policy step), after) ∧
      after.starts.length = trial.starts.length + (retried + 1) ∧
      after.elapsed = trial.elapsed + budget policy trial.upcoming fallback number retried := by
  induction left generalizing number retried trial with
  | zero =>
    rw [Nat.min_zero] at counted
    rw [counted, run_attempts_of_last 0 number trial (Or.inl rfl), budget_zero]
    exact ⟨_, rfl, rfl, rfl⟩
  | succ left ih =>
    by_cases transient :
        (attemptAt trial.upcoming fallback 0).isTransient policy.requestTimeout = true
    · rw [leading_of_transient transient, Nat.add_min_add_right] at counted
      obtain ⟨after, ended, made, took⟩ := ih (number + 1) _
        ((trial.attempted policy.requestTimeout fallback).rested (policy.backoff number)) rfl
      rw [counted, run_attempts_of_transient left number trial transient, budget_succ,
        attemptAt_succ]
      refine ⟨after, ended, made.trans (Nat.add_right_comm _ _ _), took.trans ?_⟩
      rw [← Nat.add_assoc, ← Nat.add_assoc]
      rfl
    · rw [leading_of_final transient, Nat.zero_min] at counted
      rw [counted, run_attempts_of_last _ number trial (Or.inr transient), budget_zero]
      exact ⟨_, rfl, rfl, rfl⟩

/-- A trial makes one attempt more than it meets transient ones at the front of its script, and no
more than one beyond its retries. It ends with what the last attempt comes to, and takes the time of
its attempts, each cut off at the limit, and of a pause after each but the last. -/
theorem trial_keeps_to_its_budget (policy : RetryPolicy) (step : String)
    (script : List (Attempt Result)) (fallback : Result) :
    let made := min (leading policy.requestTimeout script + 1) (policy.retries + 1)
    ∃ after, run policy step script fallback =
        (.ok ((attemptAt script fallback (made - 1)).verdict policy step), after) ∧
      after.starts.length = made ∧
      (∀ number < made - 1,
        (attemptAt script fallback number).isTransient policy.requestTimeout = true) ∧
      after.elapsed =
        ∑ number ∈ range made, min (attemptAt script fallback number).delay policy.requestTimeout +
        ∑ number ∈ range (made - 1), policy.backoff number := by
  simp only [Nat.add_min_add_right, Nat.add_sub_cancel]
  obtain ⟨after, ended, made, took⟩ :=
    run_attempts_within_budget policy step fallback policy.retries 0 _ ⟨0, script, []⟩ rfl
  simp only [budget, List.length_nil, Nat.zero_add] at made took
  refine ⟨after, ended, made, fun number early => ?_, took⟩
  exact isTransient_of_lt_leading fallback (Nat.lt_of_lt_of_le early (Nat.min_le_left _ _))

/-- A success that comes too late is tried again like a failure that may pass. -/
example :
    let ended := run ⟨2, 10, 15, 200⟩ "probe"
      [⟨250, .ok 7⟩, ⟨5, .error (.transient "blip")⟩, ⟨3, .ok 7⟩] 0
    ended.2.starts = [230, 210, 0] ∧ ended.2.elapsed = 200 + 10 + 5 + 15 + 3 := by
  decide +kernel

end Trial

end Rehearsal

end Archivist
