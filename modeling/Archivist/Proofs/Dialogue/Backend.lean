import Archivist.Archive.Action
import Archivist.Proofs.Dialogue.Ensures

set_option autoImplicit false

namespace Archivist

variable {Store : Type}

/-- The replies a call may get in a state of a store, and the states they leave. No reply at all
stands for an attempt that was given up. -/
abbrev Backend (Store : Type) : Type :=
  (call : Call) → Store → Option call.Reply → Store → Prop

structure Site (Store : Type) where
  store : Store
  recalls : String → Bool

def Site.remember (site : Site Store) (destination : String) : Site Store where
  store := site.store
  recalls name := name = destination || site.recalls name

/-- Whether a call may be made again after a reply. -/
def isPassing {Result : Type} : Option (Except StoreFailure Result) → Bool
  | none => true
  | some (.ok _) => false
  | some (.error failure) => failure.isTransient

theorem isPassing_of_transient {Result : Type} (reply : Option (Except StoreFailure Result))
    (other failure : StoreFailure) (outcome : reply.getD (.error other) = .error failure)
    (transient : failure.isTransient = true) : isPassing reply = true := by
  match reply with
  | none => rfl
  | some (.ok _) => cases outcome
  | some (.error _) =>
    cases outcome
    exact transient

/-- A call ends as it should when each of its attempts may be the last one, and when the pause after
one that may be followed by another leaves what that needs. -/
theorem Work.ensures_call {State : Type} {setting : Setting Action.Yield State}
    (policy : RetryPolicy) (step : String) (call : Call) (ready : State → Prop)
    (done : call.Reply → State → Prop)
    (permitted : ∀ state, ready state →
      setting.permits (.attempt call policy.requestTimeout) state)
    (answered : ∀ state reply after, ready state →
      setting.service (.attempt call policy.requestTimeout) state reply after →
        setting.always after ∧ done (reply.getD (.error (policy.timedOut step))) after ∧
        (isPassing reply = true → ∀ millis, setting.permits (.rest millis) after ∧
          ∀ later, setting.service (.rest millis) after () later →
            setting.always later ∧ ready later))
    (state : State) (begun : ready state) :
    setting.Ensures done (Work.call policy step call) state := by
  suffices attempts : ∀ left number, setting.Ensures done
      (policy.attempts step (.question (Action.attempt call policy.requestTimeout))
        (fun millis => .question (Action.rest millis)) left number) state from attempts _ _
  intro left
  induction left generalizing state with
  | zero =>
    intro number
    rw [RetryPolicy.attempts]
    refine ⟨permitted state begun, fun reply after served => ?_⟩
    obtain ⟨kept, reached, _⟩ := answered state reply after begun served
    refine ⟨kept, ?_⟩
    simp only [Dialogue.finish_bind]
    split <;> rename_i outcome <;> rw [outcome] at reached <;> exact reached
  | succ left ih =>
    intro number
    rw [RetryPolicy.attempts]
    refine ⟨permitted state begun, fun reply after served => ?_⟩
    obtain ⟨kept, reached, again⟩ := answered state reply after begun served
    refine ⟨kept, ?_⟩
    simp only [Dialogue.finish_bind]
    split <;> rename_i outcome <;> rw [outcome] at reached
    · exact reached
    · split
      · rename_i transient
        have next := again (isPassing_of_transient _ _ _ outcome transient)
          (policy.backoff number)
        refine ⟨next.1, fun _ later paused => ?_⟩
        obtain ⟨still, onward⟩ := next.2 later paused
        exact ⟨still, ih later onward (number + 1)⟩
      · exact reached

namespace Backend

/-- A store that others use as well; what they do is done after each reply. -/
def accompanied (backend : Backend Store) (others : Store → Store → Prop) : Backend Store :=
  fun call now reply after => ∃ between, backend call now reply between ∧ others between after

def service (backend : Backend Store) : Service Action.Yield (Site Store)
  | .attempt call _, site, reply, after =>
    backend call site.store reply after.store ∧ after.recalls = site.recalls
  | .recalls destination, site, known, after => known = site.recalls destination ∧ after = site
  | .remember destination, site, _, after => after = site.remember destination
  | .rest _, site, _, after => after = site
  | .enter _, site, _, after => after = site
  | .count .., site, _, after => after = site

theorem service_mono {backend other : Backend Store}
    (replies : ∀ call now reply after, backend call now reply after → other call now reply after)
    (action : Action) (site : Site Store) (answer : action.Yield) (after : Site Store)
    (served : backend.service action site answer after) :
    other.service action site answer after := by
  cases action with
  | attempt call limit => exact served.imp_left (replies call site.store answer after.store)
  | rest _ | recalls _ | remember _ | enter _ | count _ _ => exact served

def serve (reply : (call : Call) → Store → Option call.Reply × Store) :
    (action : Action) → Site Store → action.Yield × Site Store
  | .attempt call _, site => ((reply call site.store).1, ⟨(reply call site.store).2, site.recalls⟩)
  | .recalls destination, site => (site.recalls destination, site)
  | .remember destination, site => ((), site.remember destination)
  | .rest _, site => ((), site)
  | .enter _, site => ((), site)
  | .count .., site => ((), site)

theorem service_serve (backend : Backend Store)
    (reply : (call : Call) → Store → Option call.Reply × Store)
    (served : ∀ call store, backend call store (reply call store).1 (reply call store).2)
    (action : Action) (site : Site Store) :
    backend.service action site (serve reply action site).1 (serve reply action site).2 := by
  cases action with
  | attempt call limit => exact ⟨served call site.store, rfl⟩
  | recalls destination => exact ⟨rfl, rfl⟩
  | rest _ | remember _ | enter _ | count _ _ => rfl

theorem reaches_call {backend : Backend Store} (policy : RetryPolicy) (step : String) (call : Call)
    (answer : call.Answer) (site : Site Store) {after : Store}
    (served : backend call site.store (some (.ok answer)) after) :
    (Work.call policy step call).Reaches backend.service site ⟨after, site.recalls⟩
      (.finish (.ok answer)) := by
  have asked : (Dialogue.question (Action.attempt call policy.requestTimeout)).Reaches
      backend.service site ⟨after, site.recalls⟩ (.finish (some (Except.ok answer))) := by
    refine Dialogue.Reaches.onward (some (Except.ok answer)) ?_ (.here _ _)
    exact ⟨served, rfl⟩
  rw [Work.call, RetryPolicy.run]
  cases policy.retries <;>
    (rw [RetryPolicy.attempts]
     exact asked.bind _)

/-- Pauses may be asked for after every reply that a call may be made again after. -/
def Restful (backend : Backend Store) (rests : Store → Prop) : Prop :=
  ∀ call now reply after, backend call now reply after → isPassing reply = true → rests after

/-- Work in front of a store, where pauses may be asked for in some states of it. -/
def setting (backend : Backend Store) (rests : Store → Prop) (always : Site Store → Prop)
    (excuses : Crash → Prop) : Setting Action.Yield (Site Store) where
  service := backend.service
  permits
    | .rest _, site => rests site.store
    | _, _ => True
  always := always
  excuses := excuses

variable {backend : Backend Store} {rests : Store → Prop} {always : Site Store → Prop}
  {excuses : Crash → Prop}

theorem ensures_enter (phase : Phase) (site : Site Store) (done : Unit → Site Store → Prop)
    (invariant : always site) (reached : done () site) :
    (backend.setting rests always excuses).Ensures done (Work.enter phase) site := by
  refine ⟨trivial, fun _ after same => ?_⟩
  rw [show after = site from same]
  exact ⟨invariant, reached⟩

theorem ensures_count (counter : Counter) (amount : Nat) (site : Site Store)
    (done : Unit → Site Store → Prop) (invariant : always site) (reached : done () site) :
    (backend.setting rests always excuses).Ensures done (Work.count counter amount) site := by
  refine ⟨trivial, fun _ after same => ?_⟩
  rw [show after = site from same]
  exact ⟨invariant, reached⟩

/-- A call ends as it should when each of its attempts may be the last one, and when one that may
be followed by another leaves what that needs. -/
theorem ensures_call (policy : RetryPolicy) (step : String) (call : Call)
    (ready : Site Store → Prop) (done : call.Reply → Site Store → Prop)
    (answered : ∀ site reply store, ready site → backend call site.store reply store →
      always ⟨store, site.recalls⟩ ∧
      done (reply.getD (.error (policy.timedOut step))) ⟨store, site.recalls⟩ ∧
      (isPassing reply = true → rests store ∧ ready ⟨store, site.recalls⟩))
    (site : Site Store) (begun : ready site) :
    (backend.setting rests always excuses).Ensures done (Work.call policy step call) site := by
  refine Work.ensures_call policy step call ready done (fun _ _ => trivial) ?_ site begun
  intro site reply after now served
  obtain ⟨store, recalls⟩ := after
  obtain ⟨replied, same⟩ := served
  rw [show recalls = site.recalls from same]
  obtain ⟨kept, reached, again⟩ := answered site reply store now replied
  refine ⟨kept, reached, fun passing millis => ⟨(again passing).1, fun later unchanged => ?_⟩⟩
  rw [show later = ⟨store, site.recalls⟩ from unchanged]
  exact ⟨kept, (again passing).2⟩

end Backend

end Archivist
