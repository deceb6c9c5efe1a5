import Archivist.Proofs.Scheduler.Watch

set_option autoImplicit false

namespace Archivist

namespace Scheduler

inductive Cause where
  /-- The loop has been started. -/
  | outset
  /-- It was asked for. -/
  | request
  /-- The wait is over. -/
  | pace
deriving Repr, DecidableEq

inductive Happening where
  | started
  /-- A cycle was asked for, and the loop was still there to be asked. -/
  | asked (granted : Bool)
  | stopped
  | dropped
  | began (cause : Cause)
  | ended (outcome : Cycle.Outcome)
  | returned
deriving Repr

namespace Happening

def isOfCycle : Happening → Bool
  | .began _ | .ended _ => true
  | .started | .asked _ | .stopped | .dropped | .returned => false

@[simp] def isBeginning : Happening → Bool
  | .began _ => true
  | .started | .asked _ | .stopped | .dropped | .ended _ | .returned => false

def isOpening : Happening → Bool
  | .started | .ended _ => true
  | .asked _ | .stopped | .dropped | .began _ | .returned => false

@[simp] def ofEvent (scheduler : Scheduler) : Event → Happening
  | .start => .started
  | .trigger => .asked scheduler.trigger.1
  | .cancel => .stopped
  | .dropHandle => .dropped

end Happening

/-- A loop is started once, and only who has its handle may ask it or drop the handle. -/
def Event.IsPossible (scheduler : Scheduler) : Event → Prop
  | .start => scheduler.stage = .built
  | .trigger | .dropHandle => scheduler.handleHeld = true
  | .cancel => True

/-- Why a loop that turns to a cycle does so. -/
def cause (scheduler : Scheduler) : Cause :=
  match scheduler.stage with
  | .starting => .outset
  | _ => if scheduler.listening && scheduler.triggered then .request else .pace

/-- What is noted when a loop has come to act. -/
def deed? (before after : Scheduler) : Option Happening :=
  match after.stage with
  | .cycling => some (.began before.cause)
  | .returned => some .returned
  | _ => none

/-- All that a loop outside of a cycle may do when it comes to act at a time, and what is noted of
it. -/
inductive Acts (scheduler : Scheduler) (time : Nat) : Option Happening → Scheduler → Prop where
  | returns (told : scheduler.cancelled = true ∨ scheduler.enabled = false) :
    Acts scheduler time (some .returned) { scheduler with stage := .returned }
  | begins (starting : scheduler.stage = .starting) (free : scheduler.cancelled = false) :
    Acts scheduler time (some (.began .outset)) { scheduler with stage := .cycling }
  | heeds (delay deadline : Nat) (waiting : scheduler.stage = .waiting delay deadline)
      (free : scheduler.cancelled = false) (listens : scheduler.listening = true)
      (asked : scheduler.triggered = true) :
    Acts scheduler time (some (.began .request))
      { scheduler with triggered := false, stage := .cycling }
  /-- The loop finds that nobody can ask for a cycle any more, and waits once more. -/
  | turnsAway (delay deadline : Nat) (waiting : scheduler.stage = .waiting delay deadline)
      (listens : scheduler.listening = true) (unasked : scheduler.triggered = false)
      (alone : scheduler.handleHeld = false) :
    Acts scheduler time none
      { scheduler with listening := false, stage := .waiting delay (time + delay) }
  | goesOn (delay deadline : Nat) (waiting : scheduler.stage = .waiting delay deadline)
      (free : scheduler.cancelled = false) (elapsed : deadline ≤ time)
      (heedless : scheduler.listening = true →
        scheduler.triggered = false ∧ scheduler.handleHeld = true) :
    Acts scheduler time (some (.began .pace)) { scheduler with stage := .cycling }
  | waits (delay deadline : Nat) (waiting : scheduler.stage = .waiting delay deadline)
      (early : time < deadline) (heedless : scheduler.listening = true →
        scheduler.triggered = false ∧ scheduler.handleHeld = true) :
    Acts scheduler time none scheduler

variable {scheduler : Scheduler}

theorem Acts.free {time : Nat} {cause : Cause} {polled : Scheduler}
    (acts : scheduler.Acts time (some (.began cause)) polled) : scheduler.cancelled = false := by
  cases acts with
  | begins _ free | heeds _ _ _ free _ _ | goesOn _ _ _ free _ _ => exact free

theorem proceed_of_cancelled (told : scheduler.cancelled = true) :
    scheduler.proceed = { scheduler with stage := .returned } := by
  rw [proceed, if_pos told]

theorem proceed_of_free (free : scheduler.cancelled = false) :
    scheduler.proceed = { scheduler with stage := .cycling } := by
  rw [proceed, if_neg (Bool.eq_false_iff.mp free)]

theorem acts_poll_starting (starting : scheduler.stage = .starting) (time : Nat) :
    scheduler.Acts time (scheduler.deed? (scheduler.poll time)) (scheduler.poll time) := by
  cases told : scheduler.cancelled with
  | true =>
    have polled : scheduler.poll time = { scheduler with stage := .returned } := by
      simp only [poll, starting, proceed_of_cancelled told, ite_self]
    rw [polled]
    exact .returns (Or.inl told)
  | false =>
    cases allowed : scheduler.enabled with
    | false =>
      have polled : scheduler.poll time = { scheduler with stage := .returned } := by
        simp only [poll, starting, allowed, Bool.false_eq_true, ↓reduceIte]
      rw [polled]
      exact .returns (Or.inr allowed)
    | true =>
      have polled : scheduler.poll time = { scheduler with stage := .cycling } := by
        simp only [poll, starting, allowed, ↓reduceIte, proceed_of_free told]
      have cause : scheduler.cause = .outset := by rw [Scheduler.cause, starting]
      rw [polled, deed?, cause]
      exact .begins starting told

theorem acts_poll_waiting {delay deadline : Nat}
    (waiting : scheduler.stage = .waiting delay deadline) (time : Nat) :
    scheduler.Acts time (scheduler.deed? (scheduler.poll time)) (scheduler.poll time) := by
  have stays : scheduler.deed? scheduler = none := by rw [deed?, waiting]
  cases told : scheduler.cancelled with
  | true =>
    have polled : scheduler.poll time = { scheduler with stage := .returned } := by
      simp only [poll, waiting, told, ↓reduceIte]
    rw [polled]
    exact .returns (Or.inl told)
  | false =>
    cases heard : scheduler.listening && scheduler.triggered with
    | true =>
      have polled : scheduler.poll time =
          { scheduler with triggered := false, stage := .cycling } := by
        simp only [poll, waiting, told, heard, Bool.false_eq_true, ↓reduceIte, proceed]
      have cause : scheduler.cause = .request := by
        simp only [Scheduler.cause, waiting, heard, ↓reduceIte]
      rw [Bool.and_eq_true] at heard
      rw [polled, deed?, cause]
      exact .heeds delay deadline waiting told heard.1 heard.2
    | false =>
      have cause : scheduler.cause = .pace := by
        simp only [Scheduler.cause, waiting, heard, Bool.false_eq_true, ↓reduceIte]
      cases lonely : scheduler.listening && !scheduler.handleHeld with
      | true =>
        have polled : scheduler.poll time =
            { scheduler with listening := false, stage := .waiting delay (time + delay) } := by
          simp only [poll, waiting, told, heard, lonely, Bool.false_eq_true, ↓reduceIte]
        rw [Bool.and_eq_true, Bool.not_eq_true'] at lonely
        rw [lonely.1, Bool.true_and] at heard
        rw [polled]
        exact .turnsAway delay deadline waiting lonely.1 heard lonely.2
      | false =>
        have heedless : scheduler.listening = true →
            scheduler.triggered = false ∧ scheduler.handleHeld = true := by
          intro listens
          rw [listens, Bool.true_and] at heard lonely
          exact ⟨heard, (Bool.not_eq_false' ..).mp lonely⟩
        by_cases elapsed : deadline ≤ time
        · have polled : scheduler.poll time = { scheduler with stage := .cycling } := by
            simp only [poll, waiting, told, heard, lonely, elapsed, Bool.false_eq_true, ↓reduceIte,
              proceed]
          rw [polled, deed?, cause]
          exact .goesOn delay deadline waiting told elapsed heedless
        · have polled : scheduler.poll time = scheduler := by
            simp only [poll, waiting, told, heard, lonely, elapsed, Bool.false_eq_true, ↓reduceIte]
          rw [polled, stays]
          exact .waits delay deadline waiting (Nat.lt_of_not_le elapsed) heedless

theorem acts_poll (idle : scheduler.stage.isIdle = true) (time : Nat) :
    scheduler.Acts time (scheduler.deed? (scheduler.poll time)) (scheduler.poll time) := by
  cases stage : scheduler.stage with
  | starting => exact acts_poll_starting stage time
  | waiting delay deadline => exact acts_poll_waiting stage time
  | built | cycling | returned =>
    rw [stage] at idle
    cases idle

/-- A loop that comes to act and does nothing waits, and its wait is not over. While it listens, it
was not asked for a cycle and its handle is held. -/
theorem waits_of_quiet {time : Nat} (idle : scheduler.stage.isIdle = true)
    (quiet : scheduler.poll time = scheduler) :
    (∃ delay deadline, scheduler.stage = .waiting delay deadline ∧ time < deadline) ∧
      (scheduler.listening = true → scheduler.triggered = false ∧ scheduler.handleHeld = true) := by
  have acts := acts_poll idle time
  generalize scheduler.deed? (scheduler.poll time) = deed? at acts
  generalize scheduler.poll time = polled at acts quiet
  have stage : polled.stage = scheduler.stage := by rw [quiet]
  cases acts with
  | waits delay deadline waiting early heedless =>
    exact ⟨⟨delay, deadline, waiting, early⟩, heedless⟩
  | turnsAway delay deadline waiting listens _ _ =>
    rw [← quiet] at listens
    cases listens
  | returns _ | begins _ _ | heeds _ _ _ _ _ _ | goesOn _ _ _ _ _ _ =>
    rw [← stage] at idle
    cases idle

end Scheduler

end Archivist
