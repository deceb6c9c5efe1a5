import Archivist.Archive.Destination
import Archivist.Proofs.Dialogue.Backend
import Archivist.Proofs.Dialogue.Crowd
import Archivist.Proofs.Store.Contents
import Archivist.Store.Memory
import Mathlib.Control.Monad.Basic

set_option autoImplicit false

namespace Archivist

namespace MemoryStore

def Has (store : MemoryStore) (index : String) : Prop :=
  (store.holdings.documents? index).isSome = true

instance (store : MemoryStore) (index : String) : Decidable (store.Has index) :=
  inferInstanceAs (Decidable (_ = true))

/-- What others do with a store: they make any call, or tell it to fail some. -/
def Used (store after : MemoryStore) : Prop :=
  (∃ call, after = (store.handle call).2) ∨ ∃ fault, after = store.arm fault

variable {store after : MemoryStore} {index : String}

theorem has_handle (there : store.Has index) (call : Call) : (store.handle call).2.Has index := by
  rw [handle]
  split
  · exact there
  · exact Holdings.isSome_after there call

theorem has_of_used (there : store.Has index) (used : store.Used after) : after.Has index := by
  rcases used with ⟨call, rfl⟩ | ⟨fault, rfl⟩
  · exact has_handle there call
  · exact there

theorem has_of_created {outcome : EnsureOutcome}
    (answered : (store.handle (.ensureExists index)).1 = .ok outcome) :
    (store.handle (.ensureExists index)).2.Has index := by
  unfold handle at answered ⊢
  split at answered
  · cases answered
  · change ((store.holdings.after (.ensureExists index)).documents? index).isSome = true
    simp [Holdings.isSome_after_ensureExists]

theorem exists_fault_of_error {failure : StoreFailure}
    (answered : (store.handle (.ensureExists index)).1 = .error failure) :
    ∃ fault ∈ store.faults, fault.hits (.ensureExists index) = true ∧
      failure = fault.failure (.ensureExists index) := by
  unfold handle at answered
  split at answered
  · rename_i fault found
    have hits := List.find?_some found
    exact ⟨fault, List.mem_of_find?_eq_some found, hits, (Except.error.inj answered).symm⟩
  · simp only [Holdings.perform] at answered
    split at answered <;> cases answered

end MemoryStore

/-- A store in memory, and callers that may give up before a call has been handled or after. -/
def Backend.impatient : Backend MemoryStore := fun call now reply after =>
  (reply = some (now.handle call).1 ∧ after = (now.handle call).2) ∨
    (reply = none ∧ (after = now ∨ after = (now.handle call).2))

theorem Backend.has_of_impatient {call : Call} {now after : MemoryStore} {reply : Option call.Reply}
    (served : impatient call now reply after) {index : String} (there : now.Has index) :
    after.Has index := by
  rcases served with ⟨_, rfl⟩ | ⟨_, rfl | rfl⟩
  · exact MemoryStore.has_handle there call
  · exact there
  · exact MemoryStore.has_handle there call

namespace Site

def Used (site after : Site MemoryStore) : Prop :=
  site.store.Used after.store ∧ after.recalls = site.recalls

def IsTruthful (site : Site MemoryStore) : Prop :=
  ∀ name, site.recalls name = true → site.store.Has name

/-- Nothing goes away, nothing is forgotten, and a true memory stays true. -/
structure Grows (site after : Site MemoryStore) : Prop where
  holds : ∀ index, site.store.Has index → after.store.Has index
  recalls : ∀ name, site.recalls name = true → after.recalls name = true
  truthful : site.IsTruthful → after.IsTruthful

variable {site after : Site MemoryStore}

theorem Grows.refl (site : Site MemoryStore) : site.Grows site where
  holds _ there := there
  recalls _ known := known
  truthful holds := holds

theorem Grows.trans {last : Site MemoryStore} (first : site.Grows after)
    (second : after.Grows last) : site.Grows last where
  holds index there := second.holds index (first.holds index there)
  recalls name known := second.recalls name (first.recalls name known)
  truthful holds := second.truthful (first.truthful holds)

theorem grows_of_holds (holds : ∀ index, site.store.Has index → after.store.Has index)
    (same : after.recalls = site.recalls) : site.Grows after where
  holds := holds
  recalls _ known := same ▸ known
  truthful truthful name known := holds name (truthful name (same ▸ known))

theorem Used.grows (used : site.Used after) : site.Grows after :=
  grows_of_holds (fun _ there => MemoryStore.has_of_used there used.1) used.2

theorem grows_remember {name : String} (there : site.store.Has name) :
    site.Grows (site.remember name) where
  holds _ there := there
  recalls other known := by simp [remember, known]
  truthful truthful other known := by
    simp only [remember, Bool.or_eq_true, decide_eq_true_eq] at known
    rcases known with rfl | before
    · exact there
    · exact truthful other before

end Site

/-- Somebody who wants a destination to be there, and how often and how long that is tried. -/
structure Caller where
  policy : RetryPolicy
  destination : String

namespace Caller

inductive Stage where
  | waiting
  | trying (left number : Nat)
  | pausing (left number : Nat)
  | settling
  | ended (outcome : Except ArchiveFailure Unit)

abbrev Turns : Type := List (Turn Action.Yield (Site MemoryStore))

/-- Callers under way, by number, and the site that they share. -/
abbrev Company : Type := Crowd Action.Yield (Site MemoryStore) (Except ArchiveFailure Unit)

/-- Callers take turns in front of a store that others use. -/
abbrev Runs : Company → Turns → Company → Prop := Crowd.Runs Backend.impatient.service Site.Used

/-- What the turns of a caller tell, in front of a site and by how far it has come. -/
abbrev Story : Type := Caller → Nat → Turns → Site MemoryStore → Stage → Prop

variable (caller : Caller)

def creation : Call := .ensureExists caller.destination

/-- The attempts that a caller still has, and what comes behind them. -/
def trying (left number : Nat) : Work (Except ArchiveFailure Unit) :=
  ((caller.policy.attempts "ensure destination"
      (.question (Action.attempt caller.creation caller.policy.requestTimeout))
      (fun millis => .question (Action.rest millis)) left number).mapFailure
    (.preparation caller.destination)).andThen fun _ =>
      (Dialogue.question (Action.remember caller.destination)).bind fun _ => .finish (.ok ())

def workAt : Stage → Work (Except ArchiveFailure Unit)
  | .waiting => Work.ensure caller.policy caller.destination
  | .trying left number => caller.trying left number
  | .pausing left number =>
    .ask (.rest (caller.policy.backoff number)) fun _ => caller.trying left (number + 1)
  | .settling => .ask (.remember caller.destination) fun _ => .finish (.ok ())
  | .ended outcome => .finish outcome

def failed (cause : StoreFailure) : Stage := .ended (.error (.preparation caller.destination cause))

def afterReply (left number : Nat) (reply : Option caller.creation.Reply) : Stage :=
  match reply.getD (.error (caller.policy.timedOut "ensure destination")) with
  | .ok _ => .settling
  | .error cause =>
    match left with
    | 0 => caller.failed cause
    | left + 1 => if cause.isTransient then .pausing left number else caller.failed cause

theorem workAt_waiting : caller.workAt .waiting =
    .ask (.recalls caller.destination) fun known =>
      caller.workAt (if known then .ended (.ok ()) else .trying caller.policy.retries 0) := by
  apply congrArg (Dialogue.ask _)
  funext known
  cases known <;> rfl

theorem workAt_trying (left number : Nat) : caller.workAt (.trying left number) =
    .ask (.attempt caller.creation caller.policy.requestTimeout) fun reply =>
      caller.workAt (caller.afterReply left number reply) := by
  simp only [workAt, trying, afterReply]
  cases left with
  | zero =>
    rw [RetryPolicy.attempts]
    apply congrArg (Dialogue.ask _)
    funext reply
    simp only [Dialogue.finish_bind]
    cases reply.getD (.error (caller.policy.timedOut "ensure destination")) <;> rfl
  | succ left =>
    rw [RetryPolicy.attempts]
    apply congrArg (Dialogue.ask _)
    funext reply
    simp only [Dialogue.finish_bind]
    cases reply.getD (.error (caller.policy.timedOut "ensure destination")) with
    | ok outcome => rfl
    | error cause =>
      cases transient : cause.isTransient <;> simp [transient] <;> rfl

theorem eq_ended {caller : Caller} {stage : Stage} {outcome : Except ArchiveFailure Unit}
    (came : .finish outcome = caller.workAt stage) : stage = .ended outcome := by
  cases stage with
  | ended other =>
    cases came
    rfl
  | waiting =>
    rw [workAt_waiting] at came
    cases came
  | trying left number =>
    rw [workAt_trying] at came
    cases came
  | pausing _ _ | settling => cases came

/-- One turn of a caller: what it asks in front of a site, what it is answered, the site that leaves
and how far the caller has come then. -/
inductive Goes (site : Site MemoryStore) :
    Stage → (question : Action) → question.Yield → Site MemoryStore → Stage → Prop where
  | known (remembered : site.recalls caller.destination = true) :
    Goes site .waiting (.recalls caller.destination) true site (.ended (.ok ()))
  | unknown (forgotten : site.recalls caller.destination = false) :
    Goes site .waiting (.recalls caller.destination) false site
      (.trying caller.policy.retries 0)
  | made {left number : Nat} {outcome : EnsureOutcome} {after : MemoryStore}
    (served : Backend.impatient caller.creation site.store (some (.ok outcome)) after) :
    Goes site (.trying left number) (.attempt caller.creation caller.policy.requestTimeout)
      (some (.ok outcome)) ⟨after, site.recalls⟩ .settling
  | paused {left number : Nat} {reply : Option caller.creation.Reply} {after : MemoryStore}
    (served : Backend.impatient caller.creation site.store reply after) :
    Goes site (.trying (left + 1) number)
      (.attempt caller.creation caller.policy.requestTimeout) reply ⟨after, site.recalls⟩
      (.pausing left number)
  | failed {left number : Nat} {reply : Option caller.creation.Reply} {after : MemoryStore}
    {cause : StoreFailure} (served : Backend.impatient caller.creation site.store reply after)
    (told : reply.getD (.error (caller.policy.timedOut "ensure destination")) = .error cause) :
    Goes site (.trying left number) (.attempt caller.creation caller.policy.requestTimeout) reply
      ⟨after, site.recalls⟩ (caller.failed cause)
  | rested {left number : Nat} :
    Goes site (.pausing left number) (.rest (caller.policy.backoff number)) () site
      (.trying left (number + 1))
  | settled :
    Goes site .settling (.remember caller.destination) () (site.remember caller.destination)
      (.ended (.ok ()))

variable {caller : Caller} {site after : Site MemoryStore} {stage next : Stage} {question : Action}
  {answer : question.Yield}

theorem goes_trying {left number : Nat} {reply : Option caller.creation.Reply} {store : MemoryStore}
    (served : Backend.impatient caller.creation site.store reply store) :
    caller.Goes site (.trying left number)
      (.attempt caller.creation caller.policy.requestTimeout) reply ⟨store, site.recalls⟩
      (caller.afterReply left number reply) := by
  unfold afterReply
  split
  · rename_i outcome told
    match reply with
    | none => cases told
    | some answer =>
      cases told
      exact .made served
  · rename_i cause told
    cases left with
    | zero => exact .failed served told
    | succ left =>
      simp only
      split
      · exact .paused served
      · exact .failed served told

theorem exists_goes {resume : question.Yield → Work (Except ArchiveFailure Unit)}
    (asks : .ask question resume = caller.workAt stage)
    (served : Backend.impatient.service question site answer after) :
    ∃ next, resume answer = caller.workAt next ∧
      caller.Goes site stage question answer after next := by
  cases stage with
  | waiting =>
    rw [workAt_waiting] at asks
    cases asks
    obtain ⟨told, rfl⟩ := served
    refine ⟨_, rfl, ?_⟩
    cases known : after.recalls caller.destination with
    | false =>
      cases told.trans known
      exact .unknown known
    | true =>
      cases told.trans known
      exact .known known
  | trying left number =>
    rw [workAt_trying] at asks
    cases asks
    obtain ⟨store, recalls⟩ := after
    obtain ⟨replied, same⟩ := served
    cases same
    exact ⟨_, rfl, goes_trying replied⟩
  | pausing left number =>
    cases asks
    cases served
    exact ⟨.trying left (number + 1), rfl, .rested⟩
  | settling =>
    cases asks
    cases served
    exact ⟨.ended (.ok ()), rfl, .settled⟩
  | ended outcome => cases asks

/-- What a caller may take for granted: it settles for what is there, and remembers what it has
settled for. -/
def Fits (caller : Caller) (site : Site MemoryStore) : Stage → Prop
  | .settling => site.store.Has caller.destination
  | .ended (.ok _) => site.recalls caller.destination = true
  | _ => True

theorem Fits.grows (fits : caller.Fits site stage) (grows : site.Grows after) :
    caller.Fits after stage := by
  match stage with
  | .settling => exact grows.holds _ fits
  | .ended (.ok _) => exact grows.recalls _ fits
  | .ended (.error _) | .waiting | .trying _ _ | .pausing _ _ => trivial

theorem Goes.grows (goes : caller.Goes site stage question answer after next)
    (fits : caller.Fits site stage) : site.Grows after := by
  cases goes with
  | known _ | unknown _ | rested => exact Site.Grows.refl site
  | made served | paused served | failed served told =>
    exact Site.grows_of_holds (fun _ there => Backend.has_of_impatient served there) rfl
  | settled => exact Site.grows_remember fits

theorem Goes.fits (goes : caller.Goes site stage question answer after next) :
    caller.Fits after next := by
  cases goes with
  | known remembered => exact remembered
  | made served =>
    rcases served with ⟨answered, rfl⟩ | ⟨given, _⟩
    · exact MemoryStore.has_of_created (Option.some.inj answered).symm
    · cases given
  | settled => simp [Fits, Site.remember]
  | unknown _ | paused _ | failed _ _ | rested => trivial

/-- A caller stands where its work says, with all that it may take for granted there, and its turns
tell a story. -/
def Stands (callers : List Caller) (story : Story) (number : Nat) (past : Turns)
    (site : Site MemoryStore) (work : Work (Except ArchiveFailure Unit)) : Prop :=
  ∃ caller stage, callers[number]? = some caller ∧ work = caller.workAt stage ∧
    caller.Fits site stage ∧ story caller number past site stage

theorem kept (callers : List Caller) (story : Story)
    (stays : ∀ {caller number past site after stage}, story caller number past site stage →
      site.Grows after → story caller number past after stage)
    (goes : ∀ {caller number past site stage question answer after next},
      caller.Goes site stage question answer after next → story caller number past site stage →
        story caller number (past ++ [⟨number, question, answer, site, after⟩]) after next) :
    Crowd.Kept Backend.impatient.service Site.Used Site.Grows (Stands callers story) where
  refl := Site.Grows.refl
  trans := Site.Grows.trans
  moved := Site.Used.grows
  stays := by
    rintro number past site after work ⟨caller, stage, among, rfl, fits, told⟩ grows
    exact ⟨caller, stage, among, rfl, fits.grows grows, stays told grows⟩
  acts := by
    rintro number past site question resume answer after
      ⟨caller, stage, among, asks, fits, told⟩ served
    obtain ⟨next, onward, went⟩ := exists_goes asks served
    exact ⟨went.grows fits, caller, next, among, onward, went.fits, goes went told⟩

theorem Stands.of_finished {callers : List Caller} {story : Story} {number : Nat} {past : Turns}
    {outcome : Except ArchiveFailure Unit} (among : callers[number]? = some caller)
    (stands : Stands callers story number past site (.finish outcome)) :
    caller.Fits site (.ended outcome) ∧ story caller number past site (.ended outcome) := by
  obtain ⟨_, stage, found, came, fits, told⟩ := stands
  cases among.symm.trans found
  cases eq_ended came
  exact ⟨fits, told⟩

/-- The past of a caller that failed: nothing was remembered in it, and it ends with an attempt that
the store was told to let fail, or that was given up. -/
structure Excused (caller : Caller) (number : Nat) (past : Turns) (failure : ArchiveFailure) :
    Prop where
  unmarked : ∀ turn ∈ past, turn.after.recalls = turn.before.recalls
  attempted : ∃ earlier reply before after cause,
    past = earlier ++ [⟨number, .attempt caller.creation caller.policy.requestTimeout, reply,
      before, after⟩] ∧
    failure = .preparation caller.destination cause ∧
    ((reply = none ∧ cause = caller.policy.timedOut "ensure destination") ∨
      (reply = some (.error cause) ∧ ∃ fault ∈ before.store.faults,
        fault.hits caller.creation = true ∧ cause = fault.failure caller.creation))

def History : Story := fun caller number past _ stage =>
  match stage with
  | .settling | .ended (.ok _) => True
  | .ended (.error failure) => caller.Excused number past failure
  | .waiting | .trying _ _ | .pausing _ _ =>
    ∀ turn ∈ past, turn.after.recalls = turn.before.recalls

variable {number : Nat} {past : Turns}

theorem History.goes (goes : caller.Goes site stage question answer after next)
    (history : History caller number past site stage) :
    History caller number (past ++ [⟨number, question, answer, site, after⟩]) after next := by
  have unmarked (before : ∀ turn ∈ past, turn.after.recalls = turn.before.recalls)
      (same : after.recalls = site.recalls) :
      ∀ turn ∈ past ++ [⟨number, question, answer, site, after⟩],
        turn.after.recalls = turn.before.recalls :=
    List.forall_mem_append.mpr ⟨before, List.forall_mem_singleton.mpr same⟩
  cases goes with
  | known _ | made _ | settled => trivial
  | unknown _ | paused _ | rested => exact unmarked history rfl
  | @failed left tries reply store cause served told =>
    refine ⟨unmarked history rfl, past, reply, site, _, cause, rfl, rfl, ?_⟩
    -- An attempt without a reply was given up, and the store has a fault for any other one.
    rcases served with ⟨rfl, _⟩ | ⟨rfl, _⟩
    · have answered : (site.store.handle caller.creation).1 = .error cause := told
      rw [answered]
      exact Or.inr ⟨rfl, MemoryStore.exists_fault_of_error answered⟩
    · exact Or.inl ⟨rfl, (Except.error.inj told).symm⟩

/-- A late caller finds its destination remembered, and has no attempt to make. -/
def IsSpared (late : Nat) : Story := fun caller number past site stage =>
  number = late → site.recalls caller.destination = true ∧
    (stage = .waiting ∨ stage = .ended (.ok ())) ∧
    ∀ turn ∈ past, ∀ call limit, turn.question ≠ .attempt call limit

variable {late : Nat}

theorem IsSpared.grows (spared : IsSpared late caller number past site stage)
    (grows : site.Grows after) : IsSpared late caller number past after stage := by
  intro same
  obtain ⟨remembered, place, before⟩ := spared same
  exact ⟨grows.recalls _ remembered, place, before⟩

theorem IsSpared.goes (goes : caller.Goes site stage question answer after next)
    (spared : IsSpared late caller number past site stage) :
    IsSpared late caller number (past ++ [⟨number, question, answer, site, after⟩]) after next := by
  intro same
  obtain ⟨remembered, place, before⟩ := spared same
  cases goes with
  | known _ =>
    exact ⟨remembered, Or.inr rfl,
      List.forall_mem_append.mpr ⟨before, List.forall_mem_singleton.mpr nofun⟩⟩
  | unknown forgotten =>
    rw [remembered] at forgotten
    cases forgotten
  | made _ | paused _ | failed _ _ | rested | settled =>
    rcases place with place | place <;> cases place

/-- Callers that have yet to begin, in front of a store. Nothing is remembered. -/
def gathered (callers : List Caller) (store : MemoryStore) : Company :=
  ⟨⟨store, fun _ => false⟩, callers.map fun caller => Work.ensure caller.policy caller.destination⟩

section Gathered

variable {callers : List Caller} {store : MemoryStore} {turns : Turns} {crowd : Company}

theorem exists_caller_of_gathered {work : Work (Except ArchiveFailure Unit)}
    (found : (gathered callers store).members[number]? = some work) :
    ∃ caller, callers[number]? = some caller ∧ work = caller.workAt .waiting := by
  obtain ⟨caller, among, made⟩ := Option.map_eq_some_iff.mp (List.getElem?_map.symm.trans found)
  exact ⟨caller, among, made.symm⟩

theorem stands_of_runs (ran : Runs (gathered callers store) turns crowd) :
    (gathered callers store).state.Grows crowd.state ∧
      ∀ number work, crowd.members[number]? = some work →
        Stands callers History number (turnsOf number turns) crowd.state work := by
  apply (kept callers History (fun history _ => history) History.goes).runs _ ran
  intro number work found
  obtain ⟨caller, among, waits⟩ := exists_caller_of_gathered found
  exact ⟨caller, .waiting, among, waits, trivial, List.forall_mem_nil _⟩

/-- A caller that begins when its destination is remembered makes no call. Others may be in the
midst of their work by then. -/
theorem spared_of_late {later : Turns} {last : Company}
    (ran : Runs (gathered callers store) turns crowd) (among : callers[late]? = some caller)
    (idle : turnsOf late turns = [])
    (remembered : crowd.state.recalls caller.destination = true) (further : Runs crowd later last) :
    ∀ turn ∈ turnsOf late later, ∀ call limit, turn.question ≠ .attempt call limit := by
  -- The late caller begins here, and all others go on from where the first run has left them.
  have standing : ∀ number work, crowd.members[number]? = some work →
      Stands callers (IsSpared late) number [] crowd.state work := by
    intro number work found
    by_cases itself : number = late
    · subst itself
      rw [ran.member_of_idle idle] at found
      obtain ⟨_, known, waits⟩ := exists_caller_of_gathered found
      cases among.symm.trans known
      exact ⟨caller, .waiting, among, waits, trivial, fun _ =>
        ⟨remembered, Or.inl rfl, List.forall_mem_nil _⟩⟩
    · obtain ⟨other, stage, listed, stood, fits, _⟩ := (stands_of_runs ran).2 number work found
      exact ⟨other, stage, listed, stood, fits, fun same => absurd same itself⟩
  have present : late < last.members.length := by
    rw [further.length_members, ran.length_members, gathered, List.length_map]
    exact (List.getElem?_eq_some_iff.mp among).1
  have kept := kept callers (IsSpared late) IsSpared.grows IsSpared.goes
  obtain ⟨_, _, _, _, _, spared⟩ := (kept.runs standing further).2 late _
    (List.getElem?_eq_getElem present)
  exact (spared rfl).2.2

/-- However callers with one memory and others that use the store come in between each other, all
that is remembered is there. A caller that succeeded has its destination, and from then on no caller
for that destination that has yet to begin makes a call to the store. A caller that failed has
remembered nothing, and did so because its last attempt was told to fail or given up. -/
theorem memory_never_lies (ran : Runs (gathered callers store) turns crowd) :
    crowd.state.IsTruthful ∧ ∀ (number : Nat) (caller : Caller), callers[number]? = some caller →
      (crowd.members[number]? = some (.finish (.ok ())) →
        crowd.state.store.Has caller.destination ∧
        ∀ (late : Nat) (other : Caller) later last, callers[late]? = some other →
          other.destination = caller.destination → turnsOf late turns = [] →
          Runs crowd later last →
          ∀ turn ∈ turnsOf late later, ∀ call limit, turn.question ≠ .attempt call limit) ∧
      ∀ failure, crowd.members[number]? = some (.finish (.error failure)) →
        caller.Excused number (turnsOf number turns) failure := by
  obtain ⟨grown, stands⟩ := stands_of_runs ran
  have truthful : crowd.state.IsTruthful := grown.truthful nofun
  refine ⟨truthful, fun number caller among => ⟨?succeeded, ?failed⟩⟩
  case succeeded =>
    intro ended
    have remembered : crowd.state.recalls caller.destination = true :=
      ((stands number _ ended).of_finished among).1
    refine ⟨truthful _ remembered, ?_⟩
    intro late other later last there wants idle further
    rw [← wants] at remembered
    exact spared_of_late ran there idle remembered further
  case failed =>
    intro failure ended
    exact ((stands number _ ended).of_finished among).2

end Gathered

/-- Three callers for one destination, without retries. -/
def racers : List Caller := List.replicate 3 ⟨⟨0, 5, 5, 5⟩, "live_2024-03-01"⟩

def troubled : MemoryStore := MemoryStore.empty.arm ⟨.ensureExists, .outage, "", 1⟩

/-- Some racers take their turns in front of a store that answers all calls. -/
def race (schedule : List Nat) (crowd : Company) : Turns × Company :=
  crowd.play (Backend.serve fun call now => (some (now.handle call).1, (now.handle call).2))
    schedule

theorem runs_race (schedule : List Nat) (crowd : Company) :
    Runs crowd (race schedule crowd).1 (race schedule crowd).2 :=
  Crowd.Runs.here.play (Backend.service_serve _ _ fun _ _ => Or.inl ⟨rfl, rfl⟩) schedule

/-- Two callers look up the memory before either makes its call. The first one is told to fail, the
second one creates the index and remembers it, and a third one has no call to make. -/
theorem second_racer_wins :
    let raced := race [0, 1, 0, 1, 1] (gathered racers troubled)
    let later := race [2] raced.2
    let failure : ArchiveFailure := .preparation "live_2024-03-01"
      (.transient "injected EnsureExists failure on 'live_2024-03-01'")
    raced.2.members[0]? = some (Dialogue.finish (.error failure)) ∧
      raced.2.members[1]? = some (Dialogue.finish (.ok ())) ∧
      raced.2.state.store.Has "live_2024-03-01" ∧
      Excused ⟨⟨0, 5, 5, 5⟩, "live_2024-03-01"⟩ 0 (turnsOf 0 raced.1) failure ∧
      later.2.members[2]? = some (Dialogue.finish (.ok ())) ∧
      ∀ turn ∈ turnsOf 2 later.1, ∀ call limit, turn.question ≠ .attempt call limit := by
  intro raced later failure
  have lost : raced.2.members[0]? = some (Dialogue.finish (.error failure)) :=
    Crowd.member_of_result (by decide +kernel)
  have won : raced.2.members[1]? = some (Dialogue.finish (.ok ())) :=
    Crowd.member_of_result (by decide +kernel)
  have last : later.2.members[2]? = some (Dialogue.finish (.ok ())) :=
    Crowd.member_of_result (by decide +kernel)
  have idle : turnsOf 2 raced.1 = [] := List.isEmpty_iff.mp (by decide +kernel)
  have ran : Runs (gathered racers troubled) raced.1 raced.2 := runs_race _ _
  have onward : Runs raced.2 later.1 later.2 := runs_race _ _
  clear_value later raced
  obtain ⟨_, callers⟩ := memory_never_lies ran
  obtain ⟨there, spared⟩ := (callers 1 _ rfl).1 won
  refine ⟨lost, won, there, (callers 0 _ rfl).2 failure lost, last, ?_⟩
  exact spared 2 _ _ _ rfl rfl idle onward

end Caller

end Archivist
