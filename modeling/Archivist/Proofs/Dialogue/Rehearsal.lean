import Archivist.Proofs.Dialogue.Account
import Archivist.Proofs.Store.Faults
import Archivist.Rehearsal.World

set_option autoImplicit false

namespace Archivist

namespace Rehearsal

theorem takeInjection_spent (call : Call) (injections : List Injection)
    (spent : ∀ injection ∈ injections, injection.remaining = 0) :
    takeInjection call injections = (none, injections) := by
  induction injections with
  | nil => rfl
  | cons injection rest ih =>
    have missed : injection.hits call = false := by
      simp only [Injection.hits, spent injection List.mem_cons_self, Nat.lt_irrefl, decide_false,
        Bool.and_false, Bool.false_and]
    have later := ih fun other member => spent other (List.mem_cons_of_mem injection member)
    simp only [takeInjection, missed, Bool.false_eq_true, ↓reduceIte, later]

def Progress.result? {Result : Type} : Progress Result → Option Result
  | .finished result => some result
  | _ => none

def Progress.cause? {Result : Type} : Progress Result → Option Crash
  | .crashed cause => some cause
  | _ => none

theorem Progress.eq_finished {Result : Type} {progress : Progress Result} {result : Result}
    (came : progress.result? = some result) : progress = .finished result := by
  cases progress with
  | finished value =>
    cases came
    rfl
  | _ => cases came

namespace World

def site (world : World) (party : Party) : Site Holdings where
  store := world.store.holdings
  recalls destination := world.remembered.contains (party, destination)

def desk (world : World) : Desk := ⟨world.counters, world.phase⟩

def workplace (world : World) (party : Party) : Workplace Holdings :=
  ⟨world.site party, world.desk⟩

/-- No calls are to be delayed, failed or faked on their way to the store. -/
def IsOpen (world : World) : Prop :=
  ∀ injection ∈ world.injections, injection.remaining = 0

/-- Nothing is to go wrong on the way to the store or in it. -/
structure IsQuiet (world : World) : Prop where
  isOpen : world.IsOpen
  spent : ∀ fault ∈ world.store.faults, fault.remaining = 0

instance (world : World) : Decidable world.IsOpen :=
  inferInstanceAs (Decidable (∀ injection ∈ world.injections, injection.remaining = 0))

instance (world : World) : Decidable world.IsQuiet :=
  decidable_of_iff (world.IsOpen ∧ ∀ fault ∈ world.store.faults, fault.remaining = 0)
    ⟨fun ⟨isOpen, spent⟩ => ⟨isOpen, spent⟩, fun quiet => ⟨quiet.isOpen, quiet.spent⟩⟩

theorem site_remember (world : World) (party : Party) (destination : String) :
    { world with remembered := (party, destination) :: world.remembered }.site party =
      (world.site party).remember destination := by
  simp only [site, Site.remember, Site.mk.injEq, true_and]
  funext name
  rw [List.contains_cons, Bool.eq_iff_iff]
  simp only [Bool.or_eq_true, beq_iff_eq, Prod.mk.injEq, true_and, decide_eq_true_eq]

def handled (world : World) (party : Party) (call : Call) : World :=
  { world with
    store := (world.store.handle call).2
    trace := if party = .guest then world.trace else line world.phase call :: world.trace }

end World

variable {Result : Type} {party : Party} {world : World}

theorem carryOn_attempt (isOpen : world.IsOpen) (call : Call) (limit : Nat)
    (resume : Option call.Reply → Work Result) :
    carryOn party world (.ask (.attempt call limit) resume) =
      if world.store.breaksOff call then (world.handled party call, .crashed .noOrder)
      else carryOn party (world.handled party call) (resume (some (world.store.handle call).1)) := by
  rw [carryOn, World.notice, takeInjection_spent call world.injections isOpen]
  simp only [Option.map_none, Option.getD_none, ↓reduceIte, World.breaksOff, decide_true,
    Bool.true_and]
  rfl

/-- In a quiet world steady work comes to an end that it may have in front of a store that never
fails. -/
theorem carryOn_of_ensures {done : Result → Site Holdings → Prop} {work : Work Result}
    (quiet : world.IsQuiet) (ensured : (Backend.steady .calm (fun _ => False) fun _ => False).Ensures
      done work (world.site party)) :
    ∃ after result, carryOn party world work = (after, .finished result) ∧ after.IsQuiet ∧
      done result (after.site party) := by
  induction work generalizing world with
  | finish result => exact ⟨world, result, rfl, quiet, ensured⟩
  | crash cause => exact absurd ensured id
  | ask action resume ih =>
    obtain ⟨permitted, onward⟩ := ensured
    cases action with
    | attempt call limit =>
      have handled := world.store.handle_spent quiet.spent call
      have still : (world.handled party call).IsQuiet := by
        refine ⟨quiet.isOpen, ?_⟩
        rw [World.handled, handled]
        exact quiet.spent
      have next := onward (some (world.store.handle call).1) ((world.handled party call).site party)
      rw [World.handled, handled] at next
      have steady : world.store.breaksOff call = false := by
        rw [MemoryStore.breaksOff, show world.store.holdings.breaksOff call = false from permitted,
          Bool.and_false]
      rw [carryOn_attempt quiet.isOpen, steady]
      refine ih _ still ?_
      rw [World.handled, handled]
      exact (next ⟨Or.inl ⟨rfl, rfl⟩, rfl⟩).2
    | recalls destination => exact ih _ quiet (onward _ _ ⟨rfl, rfl⟩).2
    | remember destination =>
      refine ih () ⟨quiet.isOpen, quiet.spent⟩ ?_
      rw [World.site_remember]
      exact (onward () _ rfl).2
    | rest millis => exact absurd permitted id
    | enter phase => exact ih () ⟨quiet.isOpen, quiet.spent⟩ (onward () _ rfl).2
    | count counter amount => exact ih () ⟨quiet.isOpen, quiet.spent⟩ (onward () _ rfl).2

/-- Whatever the store has been told to fail, the end of a rehearsal is within reach of work in
front of a store whose failures have no effect. -/
theorem reaches_workplace (world after : World) (work : Work Result) (result : Result)
    (isOpen : world.IsOpen) (ended : carryOn party world work = (after, .finished result)) :
    work.Reaches (Backend.faulty .outage).workplace (world.workplace party)
      (after.workplace party) (.finish result) := by
  induction work generalizing world with
  | finish value =>
    cases ended
    exact .here _ _
  | crash cause => cases ended
  | ask action resume ih =>
    cases action with
    | attempt call limit =>
      rw [carryOn_attempt isOpen] at ended
      split at ended
      · cases ended
      have served : (Backend.faulty .outage).workplace (.attempt call limit)
          (world.workplace party) (some (world.store.handle call).1)
          ((world.handled party call).workplace party) :=
        ⟨⟨world.store.handle_faulty call, rfl⟩, rfl⟩
      exact .onward _ served (ih _ (world.handled party call) isOpen ended)
    | recalls destination => exact .onward _ ⟨⟨rfl, rfl⟩, rfl⟩ (ih _ world isOpen ended)
    | remember destination =>
      have further := ih () { world with
        remembered := (party, destination) :: world.remembered } isOpen ended
      refine .onward () ?_ further
      exact ⟨world.site_remember party destination, rfl⟩
    | rest millis =>
      rw [carryOn] at ended
      split at ended
      · exact .onward () ⟨rfl, rfl⟩ (ih () world isOpen ended)
      · cases ended
    | enter phase =>
      have further := ih () { world with phase := phase } isOpen ended
      refine .onward () ?_ further
      exact ⟨rfl, rfl⟩
    | count counter amount =>
      have further := ih () { world with counters := world.counters.add amount counter } isOpen
        ended
      refine .onward () ?_ further
      exact ⟨rfl, rfl⟩

theorem reaches_carryOn (world after : World) (work : Work Result) (result : Result)
    (isOpen : world.IsOpen) (ended : carryOn party world work = (after, .finished result)) :
    work.Reaches (Backend.outages .outage).service (world.site party) (after.site party)
      (.finish result) :=
  (Workplace.reaches_site (reaches_workplace world after work result isOpen ended)).map id
    (Backend.service_mono fun _ _ _ _ => Backend.outages_of_faulty)

end Rehearsal

end Archivist
