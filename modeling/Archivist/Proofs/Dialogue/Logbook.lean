import Archivist.Proofs.Dialogue.Account
import Archivist.Proofs.Dialogue.History
import Mathlib.Algebra.GroupWithZero.Nat

set_option autoImplicit false

namespace Archivist

namespace Logbook

/-- A call that was made in a phase, and its reply. -/
structure CallEntry where
  phase : Phase
  event : Event

/-- What was added to a counter in a phase. -/
structure CountEntry where
  phase : Phase
  counter : Counter
  amount : Nat
deriving Repr, DecidableEq

end Logbook

/-- A phase that is published again before another one is noted once. -/
structure Logbook where
  phases : List Phase
  calls : List Logbook.CallEntry
  counts : List Logbook.CountEntry

namespace Logbook

def blank : Logbook := ⟨[], [], []⟩

/-- What the archiver is doing. -/
def phase (log : Logbook) : Phase := log.phases.getLast?.getD .idle

def enter (log : Logbook) (phase : Phase) : Logbook :=
  if log.phase = phase then log else { log with phases := log.phases ++ [phase] }

def call (log : Logbook) (event : Event) : Logbook :=
  { log with calls := log.calls ++ [⟨log.phase, event⟩] }

def count (log : Logbook) (counter : Counter) (amount : Nat) : Logbook :=
  { log with counts := log.counts ++ [⟨log.phase, counter, amount⟩] }

def after (log : Logbook) : (action : Action) → action.Yield → Logbook
  | .attempt call _, reply => log.call ⟨call, reply⟩
  | .enter phase, _ => log.enter phase
  | .count counter amount, _ => log.count counter amount
  | .rest _, _ | .recalls _, _ | .remember _, _ => log

/-- The calls with their replies. -/
def history (log : Logbook) : History := log.calls.map (·.event)

def counted (log : Logbook) (counter : Counter) : Nat :=
  ((log.counts.filter (·.counter = counter)).map (·.amount)).sum

section Entries

variable (log : Logbook)

@[simp] theorem phase_enter (phase : Phase) : (log.enter phase).phase = phase := by
  rw [enter]
  split
  · assumption
  · simp only [Logbook.phase, List.getLast?_concat, Option.getD_some]

@[simp] theorem calls_enter (phase : Phase) : (log.enter phase).calls = log.calls := by
  rw [enter]
  split <;> rfl

@[simp] theorem counts_enter (phase : Phase) : (log.enter phase).counts = log.counts := by
  rw [enter]
  split <;> rfl

theorem enter_of_phase {phase : Phase} (published : log.phase = phase) :
    log.enter phase = log := by
  rw [enter, if_pos published]

theorem phases_enter {phase : Phase} (new : log.phase ≠ phase) :
    (log.enter phase).phases = log.phases ++ [phase] := by
  rw [enter, if_neg new]

@[simp] theorem phase_count (counter : Counter) (amount : Nat) :
    (log.count counter amount).phase = log.phase := rfl

@[simp] theorem phases_count (counter : Counter) (amount : Nat) :
    (log.count counter amount).phases = log.phases := rfl

@[simp] theorem calls_count (counter : Counter) (amount : Nat) :
    (log.count counter amount).calls = log.calls := rfl

@[simp] theorem history_call (event : Event) : (log.call event).history = log.history ++ [event] := by
  simp only [history, call, List.map_append, List.map_cons, List.map_nil]

theorem counted_count (counter other : Counter) (amount : Nat) :
    (log.count counter amount).counted other =
      log.counted other + if counter = other then amount else 0 := by
  simp only [counted, count, List.filter_append, List.map_append, List.sum_append]
  by_cases same : counter = other
  · simp only [same, decide_true, List.filter_cons_of_pos, List.filter_nil, List.map_cons,
      List.map_nil, List.sum_cons, List.sum_nil, Nat.add_zero, ↓reduceIte]
  · simp only [same, decide_false, Bool.false_eq_true, not_false_eq_true, List.filter_cons_of_neg,
      List.filter_nil, List.map_nil, List.sum_nil, ↓reduceIte]

theorem counted_congr {log after : Logbook} (same : after.counts = log.counts)
    (counter : Counter) : after.counted counter = log.counted counter := by
  rw [counted, counted, same]

end Entries

/-- Whatever is answered, the logbook goes on in one way. -/
def service : Service Action.Yield Logbook :=
  fun action log answer next => next = log.after action answer

def setting (always : Logbook → Prop) : Setting Action.Yield Logbook where
  service := service
  permits _ _ := True
  always := always
  excuses _ := True

variable {Result : Type} {always : Logbook → Prop} {log : Logbook}

theorem ensures_enter (phase : Phase) {next : Unit → Work Result} {done : Result → Logbook → Prop}
    (kept : always (log.enter phase))
    (further : (setting always).Ensures done (next ()) (log.enter phase)) :
    (setting always).Ensures done (Work.enter phase >>= next) log := by
  rw [Setting.ensures_do]
  refine ⟨trivial, fun _ after same => ?_⟩
  rw [show after = log.enter phase from same]
  exact ⟨kept, further⟩

theorem ensures_note (counter : Counter) (amount : Nat) {done : Unit → Logbook → Prop}
    (kept : always (log.count counter amount)) (reached : done () (log.count counter amount)) :
    (setting always).Ensures done (Work.count counter amount) log := by
  refine ⟨trivial, fun _ after same => ?_⟩
  rw [show after = log.count counter amount from same]
  exact ⟨kept, reached⟩

theorem ensures_count (counter : Counter) (amount : Nat) {next : Unit → Work Result}
    {done : Result → Logbook → Prop} (kept : always (log.count counter amount))
    (further : (setting always).Ensures done (next ()) (log.count counter amount)) :
    (setting always).Ensures done (Work.count counter amount >>= next) log :=
  (Setting.ensures_do ..).mpr (ensures_note counter amount kept further)

/-- A call was made, perhaps after attempts at it that failed, and nothing was counted meanwhile. -/
structure Asks (log : Logbook) (call : Call) (reply : Option call.Reply) (after : Logbook) :
    Prop where
  history : ∃ tries, History.Attempts call tries ∧
    after.history = log.history ++ tries ++ [⟨call, reply⟩]
  counts : after.counts = log.counts

/-- A call leaves failed attempts and one more event, which the reply is read from. -/
theorem ensures_call (policy : RetryPolicy) (step : String) (call : Call) (log : Logbook) :
    (setting fun _ => True).Ensures (fun result after => ∃ reply, log.Asks call reply after ∧
      result = reply.getD (.error (policy.timedOut step))) (Work.call policy step call) log := by
  refine Work.ensures_call policy step call
    (fun now => ∃ tries, History.Attempts call tries ∧ now.history = log.history ++ tries ∧
      now.counts = log.counts) _ (fun _ _ => trivial) ?_ log
    ⟨[], by simp only [History.Attempts, List.not_mem_nil, false_implies, implies_true],
      (List.append_nil _).symm, rfl⟩
  intro now reply after ready same
  obtain ⟨tries, attempts, before, counts⟩ := ready
  rw [show after = now.call ⟨call, reply⟩ from same]
  refine ⟨trivial, ⟨reply, ⟨⟨tries, attempts, ?_⟩, counts⟩, rfl⟩, fun passing millis => ?_⟩
  · rw [history_call, before]
  · refine ⟨trivial, fun later unchanged => ⟨trivial, tries ++ [⟨call, reply⟩], ?_, ?_, ?_⟩⟩
    · intro event member
      rcases List.mem_append.mp member with earlier | last
      · exact attempts event earlier
      · cases List.mem_singleton.mp last
        exact ⟨rfl, by simp only [Event.isFinal, passing, Bool.not_true]⟩
    · rw [show later = now.call ⟨call, reply⟩ from unchanged, history_call, before,
        List.append_assoc]
    · rw [show later = now.call ⟨call, reply⟩ from unchanged]
      exact counts

/-- The last call so far, with its reply, is of some kind. -/
def Ends (log : Logbook) (kind : Event → Prop) : Prop :=
  ∃ last, log.history.getLast? = some last ∧ kind last

theorem Asks.ends {call : Call} {reply : Option call.Reply} {after : Logbook}
    (asks : log.Asks call reply after) {kind : Event → Prop} (such : kind ⟨call, reply⟩) :
    after.Ends kind := by
  obtain ⟨tries, _, history⟩ := asks.history
  refine ⟨⟨call, reply⟩, ?_, such⟩
  rw [history, List.getLast?_concat]

theorem Ends.imp {kind other : Event → Prop} (ends : log.Ends kind)
    (weaker : ∀ event, kind event → other event) : log.Ends other := by
  obtain ⟨last, there, such⟩ := ends
  exact ⟨last, there, weaker last such⟩

/-- A logbook goes on within a phase: with calls of some kind, and with counts that are not those of
cycles. -/
structure Extends (allowed : Call → Prop) (log after : Logbook) : Prop where
  phases : after.phases = log.phases
  calls : ∃ more, after.calls = log.calls ++ more ∧
    ∀ entry ∈ more, entry.phase = log.phase ∧ allowed entry.event.call
  counts : ∃ more, after.counts = log.counts ++ more ∧
    ∀ entry ∈ more, entry.counter.isOfCycles = false

variable {allowed : Call → Prop} {later : Logbook}

theorem Extends.refl (log : Logbook) : log.Extends allowed log where
  phases := rfl
  calls := ⟨[], (List.append_nil _).symm, by
    simp only [List.not_mem_nil, false_implies, implies_true]⟩
  counts := ⟨[], (List.append_nil _).symm, by
    simp only [List.not_mem_nil, false_implies, implies_true]⟩

theorem Extends.phase (extended : log.Extends allowed later) : later.phase = log.phase := by
  rw [Logbook.phase, extended.phases, ← Logbook.phase]

theorem Extends.step (extended : log.Extends allowed later) {action : Action}
    (asked : action.IsWithin allowed) (answer : action.Yield) :
    log.Extends allowed (later.after action answer) := by
  have phase := extended.phase
  obtain ⟨phases, ⟨calls, before, made⟩, counts, counted, incidental⟩ := extended
  cases action with
  | attempt call limit =>
    refine ⟨phases, ⟨calls ++ [⟨later.phase, ⟨call, answer⟩⟩], ?_, ?_⟩, counts, counted, incidental⟩
    · rw [Logbook.after, Logbook.call, before, List.append_assoc]
    · intro entry member
      rcases List.mem_append.mp member with earlier | last
      · exact made entry earlier
      · cases List.mem_singleton.mp last
        exact ⟨phase, asked⟩
  | count counter amount =>
    refine ⟨phases, ⟨calls, before, made⟩, counts ++ [⟨later.phase, counter, amount⟩], ?_, ?_⟩
    · rw [Logbook.after, Logbook.count, counted, List.append_assoc]
    · intro entry member
      rcases List.mem_append.mp member with earlier | last
      · exact incidental entry earlier
      · cases List.mem_singleton.mp last
        exact asked
  | enter phase => exact asked.elim
  | rest _ | recalls _ | remember _ =>
    exact ⟨phases, ⟨calls, before, made⟩, counts, counted, incidental⟩

theorem ensures_within {done : Result → Prop} {work : Work Result}
    (asks : (Work.within allowed).Ensures (fun result _ => done result) work ())
    (kept : ∀ after, log.Extends allowed after → always after) :
    (setting always).Ensures (fun result after => done result ∧ log.Extends allowed after)
      work log := by
  refine asks.keeps (log.Extends allowed) (fun _ _ _ _ => trivial) ?_ kept (fun _ => trivial)
    (Extends.refl log)
  intro action now answer next asked extended same
  obtain rfl := same
  exact extended.step asked answer

theorem extends_of_reaches {done : Result → Prop} {work : Work Result} {result : Result}
    (asks : (Work.within allowed).Ensures (fun result _ => done result) work ())
    (reached : work.Reaches service log later (.finish result)) :
    done result ∧ log.Extends allowed later := by
  have ensured : (setting fun _ => True).Ensures (fun result after =>
      done result ∧ log.Extends allowed after) work log :=
    ensures_within asks fun _ _ => trivial
  exact (ensured.holds trivial reached).2

/-- Keeps a logbook of the replies of a store that has only one for each call. Nothing is recalled. -/
def serve (reply : (call : Call) → Logbook → Option call.Reply) :
    (action : Action) → Logbook → action.Yield × Logbook
  | .attempt call _, log => (reply call log, log.call ⟨call, reply call log⟩)
  | .recalls _, log => (false, log)
  | .remember _, log => ((), log)
  | .rest _, log => ((), log)
  | .enter phase, log => ((), log.enter phase)
  | .count counter amount, log => ((), log.count counter amount)

theorem service_serve (reply : (call : Call) → Logbook → Option call.Reply) (action : Action)
    (log : Logbook) : service action log (serve reply action log).1 (serve reply action log).2 := by
  cases action <;> rfl

end Logbook

/-- In front of every store a logbook can be kept, and the desk shows what it says. -/
theorem Workplace.exists_logbook {Store Result : Type} {backend : Backend Store}
    {place next : Workplace Store} {work rest : Work Result} {base : Counter → Nat} {log : Logbook}
    (reached : work.Reaches backend.workplace place next rest)
    (shows : ∀ counter, place.desk.counters.get counter =
      Counters.wrap (base counter + log.counted counter))
    (current : place.desk.phase = log.phase) :
    ∃ last, work.Reaches Logbook.service log last rest ∧
      (∀ counter, next.desk.counters.get counter =
        Counters.wrap (base counter + last.counted counter)) ∧
      next.desk.phase = last.phase := by
  induction reached generalizing log with
  | here place work => exact ⟨log, .here _ _, shows, current⟩
  | @onward action resume place between after rest answer answered further ih =>
    have desk : between.desk = place.desk.after action := answered.2
    suffices kept : (∀ counter, between.desk.counters.get counter =
        Counters.wrap (base counter + (log.after action answer).counted counter)) ∧
        between.desk.phase = (log.after action answer).phase by
      obtain ⟨last, onward, shown⟩ := ih kept.1 kept.2
      exact ⟨last, .onward answer rfl onward, shown⟩
    rw [desk]
    cases action with
    | attempt _ _ | rest _ | recalls _ | remember _ => exact ⟨shows, current⟩
    | enter phase =>
      refine ⟨fun counter => ?_, (log.phase_enter phase).symm⟩
      rw [Logbook.after, Logbook.counted_congr (log.counts_enter phase)]
      exact shows counter
    | count counter amount =>
      refine ⟨fun other => ?_, current⟩
      have account : place.desk.counters.get other =
          Counters.wrap (base other + (Account.mk log.counted log.phase).counted other) :=
        shows other
      rw [Desk.get_after account (.count counter amount), Logbook.after, Logbook.counted_count]
      simp only [Account.after, eq_comm]

end Archivist
