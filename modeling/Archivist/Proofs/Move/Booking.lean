import Archivist.Proofs.Dialogue.Logbook
import Archivist.Proofs.Move.Conduct

set_option autoImplicit false

namespace Archivist

/-- No counter shows that a move ended with this call: the roots could not be looked for, or the
copies could not be made visible. -/
def Event.isUncounted (event : Event) : Bool :=
  match event.call with
  | .search _ => !event.isGranted
  | .refresh _ => true
  | _ => false

def History.AsksNoDeletion (history : History) : Prop :=
  ∀ event ∈ history, event.call.operation ≠ .deleteByQuery

instance (history : History) : Decidable history.AsksNoDeletion :=
  inferInstanceAs (Decidable (∀ event ∈ history, event.call.operation ≠ .deleteByQuery))

theorem History.Attempts.asksNoDeletion {call : Call} {history tries : History}
    (attempts : Attempts call tries) (harmless : history.AsksNoDeletion)
    (other : call.operation ≠ .deleteByQuery) (reply : Option call.Reply) :
    AsksNoDeletion (history ++ tries ++ [⟨call, reply⟩]) := by
  intro event member
  rcases List.mem_append.mp member with earlier | last
  · rcases List.mem_append.mp earlier with before | tried
    · exact harmless event before
    · rw [(attempts event tried).1]
      exact other
  · cases List.mem_singleton.mp last
    exact other

namespace Mover

/-- How many types may be missing and were missing when they were to be copied in turn. -/
def passedOver (dependents : List Dependent) (copies : History) : Nat :=
  (dependents.zip copies).countP fun pair => pair.1.orphanTolerant && pair.2.isMissing

def bookings (failures debts skips : Nat) : Counter → Nat
  | .reindexFailures => failures
  | .cleanupDebt => debts
  | .orphanTolerantSkips => skips
  | .archivedInstances | .cycles | .cycleFailures => 0

/-- Steps of a move that delete nothing: the copies that had a final reply, and what was counted. -/
structure Prepares (log after : Logbook) (copies : History) (failures skips : Nat) : Prop where
  copies : after.history.finals .reindex = log.history.finals .reindex ++ copies
  harmless : log.history.AsksNoDeletion → after.history.AsksNoDeletion
  counted : ∀ counter,
    after.counted counter = log.counted counter + bookings failures 0 skips counter

variable {mover : Mover} {suffix : String} {ids : List String}

theorem bookings_zero (counter : Counter) : bookings 0 0 0 counter = 0 := by
  cases counter <;> rfl

namespace Prepares

variable {log middle after : Logbook} {copies more : History} {failures skips : Nat}

theorem refl (log : Logbook) : Prepares log log [] 0 0 where
  copies := (List.append_nil _).symm
  harmless := id
  counted counter := by rw [bookings_zero, Nat.add_zero]

theorem trans {otherSkips : Nat} (first : Prepares log middle copies 0 skips)
    (second : Prepares middle after more failures otherSkips) :
    Prepares log after (copies ++ more) failures (skips + otherSkips) where
  copies := by rw [second.copies, first.copies, List.append_assoc]
  harmless := second.harmless ∘ first.harmless
  counted counter := by
    rw [second.counted, first.counted]
    cases counter <;> simp only [bookings, Nat.add_zero, Nat.add_assoc]

theorem of_asks {call : Call} {reply : Option call.Reply} (asks : log.Asks call reply after)
    (other : call.operation ≠ .deleteByQuery) :
    Prepares log after (History.finals [⟨call, reply⟩] .reindex) 0 0 := by
  obtain ⟨tries, attempts, history⟩ := asks.history
  refine ⟨?_, fun harmless => ?_, fun counter => ?_⟩
  · rw [history]
    exact (attempts.adds log.history reply).copies
  · rw [history]
    exact attempts.asksNoDeletion harmless other reply
  · rw [Logbook.counted_congr asks.counts, bookings_zero, Nat.add_zero]

theorem of_asks_other {call : Call} {reply : Option call.Reply} (asks : log.Asks call reply after)
    (other : call.operation ≠ .deleteByQuery) (noCopy : call.operation ≠ .reindex) :
    Prepares log after [] 0 0 := by
  have prepares := of_asks asks other
  rwa [History.finals_singleton_of_ne _ _ noCopy] at prepares

theorem fails (prepares : Prepares log after copies 0 skips) :
    Prepares log (after.count .reindexFailures 1) copies 1 skips where
  copies := prepares.copies
  harmless := prepares.harmless
  counted counter := by
    rw [Logbook.counted_count, prepares.counted]
    cases counter <;> rfl

theorem passesOver (prepares : Prepares log after copies 0 skips) :
    Prepares log (after.count .orphanTolerantSkips 1) copies 0 (skips + 1) where
  copies := prepares.copies
  harmless := prepares.harmless
  counted counter := by
    rw [Logbook.counted_count, prepares.counted]
    cases counter <;> rfl

end Prepares

/-- A failure that was counted, or will be: the last call does not go uncounted. -/
def EndsCounted (log : Logbook) : Prop := log.Ends fun last => last.isUncounted = false

theorem books_ensure (policy : RetryPolicy) (destination : String) (log : Logbook) :
    (Logbook.setting fun _ => True).Ensures (fun result after => Prepares log after [] 0 0 ∧
      ∀ failure, result = .error failure → failure.isMissingSource = false ∧ EndsCounted after)
      (Work.ensure policy destination) log := by
  refine ⟨trivial, fun known after same => ⟨trivial, ?_⟩⟩
  rw [show after = log from same]
  simp only [Dialogue.finish_bind]
  split
  · exact ⟨.refl log, nofun⟩
  · rw [Setting.ensures_andThen, Setting.ensures_mapFailure]
    refine (Logbook.ensures_call policy _ (.ensureExists destination) log).mono ?_
    intro result after reached
    obtain ⟨reply, asks, rfl⟩ := reached
    have prepares := Prepares.of_asks_other asks (by rintro ⟨⟩) (by rintro ⟨⟩)
    cases reply.getD _ with
    | error failure =>
      refine ⟨prepares, fun other same => ?_⟩
      cases same
      exact ⟨rfl, asks.ends rfl⟩
    | ok outcome =>
      refine ⟨trivial, fun _ later unchanged => ⟨trivial, ?_⟩⟩
      rw [show later = after from unchanged]
      exact ⟨prepares, nofun⟩

/-- The final replies to a copy that came to an end. -/
inductive Tried : Except ArchiveFailure Unit → History → Prop where
  | made (event : Event) (present : event.isMissing = false) : Tried (.ok ()) [event]
  | missing (event : Event) (failure : ArchiveFailure) (missing : event.isMissing = true)
      (reason : failure.isMissingSource = true) : Tried (.error failure) [event]
  | refused (event : Event) (failure : ArchiveFailure) (present : event.isMissing = false)
      (reason : failure.isMissingSource = false) : Tried (.error failure) [event]
  | unanswered (failure : ArchiveFailure) (reason : failure.isMissingSource = false) :
    Tried (.error failure) []

theorem tried_copying (transfer : Transfer) (reply : Option transfer.copying.Reply)
    (policy : RetryPolicy) : Tried
      (((reply.getD (.error (policy.timedOut "reindex"))).mapError
        (.copy transfer.source transfer.destination)).map fun _ => ())
      (History.finals [⟨transfer.copying, reply⟩] .reindex) := by
  match reply with
  | none => exact .unanswered _ rfl
  | some (.ok count) => exact .made _ rfl
  | some (.error (.transient message)) => exact .unanswered _ rfl
  | some (.error (.malformed message)) => exact .refused _ _ rfl rfl
  | some (.error (.items failures)) => exact .refused _ _ rfl rfl
  | some (.error (.rejected status body)) =>
    by_cases missing : status = 404
    · exact .missing _ _ (decide_eq_true missing) (decide_eq_true missing)
    · exact .refused _ _ (decide_eq_false missing) (decide_eq_false missing)

theorem books_copy (transfer : Transfer) (log : Logbook) :
    (Logbook.setting fun _ => True).Ensures (fun result after => ∃ copies,
      Prepares log after copies 0 0 ∧ Tried result copies ∧
      ∀ failure, result = .error failure → EndsCounted after)
      (mover.copy transfer) log := by
  rw [copy, Setting.ensures_andThen]
  refine (books_ensure mover.policy transfer.destination log).mono ?_
  intro made between reached
  obtain ⟨prepared, stopped⟩ := reached
  rcases made with failure | _
  · obtain ⟨present, ends⟩ := stopped failure rfl
    exact ⟨[], prepared, .unanswered failure present, fun _ _ => ends⟩
  · rw [Setting.ensures_andThen, Setting.ensures_mapFailure]
    refine (Logbook.ensures_call _ _ transfer.copying between).mono ?_
    intro result after reached
    obtain ⟨reply, asks, rfl⟩ := reached
    have prepares := prepared.trans (.of_asks asks (by rintro ⟨⟩))
    have tried := tried_copying transfer reply mover.policy
    cases outcome : reply.getD (.error (mover.policy.timedOut "reindex")) with
    | error failure =>
      rw [outcome] at tried
      exact ⟨_, prepares, tried, fun _ _ => asks.ends rfl⟩
    | ok count =>
      rw [outcome] at tried
      refine ⟨_, prepares, tried, ?_⟩
      rintro _ ⟨⟩

theorem passedOver_cons (dependent : Dependent) (rest : List Dependent) (event : Event)
    (copies : History) : passedOver (dependent :: rest) (event :: copies) =
      (if dependent.orphanTolerant && event.isMissing then 1 else 0) + passedOver rest copies := by
  rw [passedOver, List.zip_cons_cons, List.countP_cons, Nat.add_comm]
  rfl

theorem passedOver_nil (dependents : List Dependent) : passedOver dependents [] = 0 := by
  rw [passedOver, List.zip_nil_right]
  rfl

theorem passedOver_of_tried {failure : ArchiveFailure} {copies : History}
    (tried : Tried (.error failure) copies) (dependent : Dependent) (rest : List Dependent)
    (stops : (dependent.orphanTolerant && failure.isMissingSource) = false) :
    passedOver (dependent :: rest) copies = 0 := by
  cases tried with
  | missing event _ missing reason =>
    rw [reason] at stops
    rw [passedOver_cons, missing, stops, passedOver_nil]
    rfl
  | refused event _ present reason =>
    rw [passedOver_cons, present, Bool.and_false, passedOver_nil]
    rfl
  | unanswered => exact passedOver_nil _

theorem books_copyDependents (dependents : List Dependent) (log : Logbook) :
    (Logbook.setting fun _ => True).Ensures (fun result after => ∃ copies failures,
      Prepares log after copies failures (passedOver dependents copies) ∧
      match result with
      | .ok _ => failures = 0
      | .error _ => failures = 1 ∧ EndsCounted after)
      (mover.copyDependents suffix ids dependents) log := by
  induction dependents generalizing log with
  | nil => exact ⟨[], 0, .refl log, rfl⟩
  | cons dependent rest ih =>
    rw [copyDependents, Setting.ensures_bind]
    refine (books_copy _ log).mono ?_
    intro copied between reached
    obtain ⟨copies, prepares, tried, ends⟩ := reached
    rcases copied with failure | _
    · simp only
      split
      · rename_i tolerated
        obtain ⟨tolerant, absent⟩ := (Bool.and_eq_true _ _).mp tolerated
        rw [Setting.ensures_bind]
        refine Logbook.ensures_note .orphanTolerantSkips 1 trivial ?_
        refine (ih _).mono ?_
        intro result after further
        obtain ⟨others, failures, onward, outcome⟩ := further
        have passes := prepares.passesOver.trans onward
        cases tried with
        | missing event _ missing _ =>
          refine ⟨event :: others, failures, ?_, outcome⟩
          rw [passedOver_cons, tolerant, missing]
          exact passes
        | refused _ _ _ reason | unanswered _ reason =>
          rw [reason] at absent
          cases absent
      · rename_i stops
        rw [Setting.ensures_bind]
        refine Logbook.ensures_note .reindexFailures 1 trivial ?_
        refine ⟨copies, 1, ?_, rfl, ends failure rfl⟩
        rw [passedOver_of_tried tried dependent rest (Bool.eq_false_iff.mpr stops)]
        exact prepares.fails
    · simp only
      rw [Setting.ensures_andThen]
      refine (ih between).mono ?_
      intro result after further
      obtain ⟨others, failures, onward, outcome⟩ := further
      have both := prepares.trans onward
      cases tried with
      | made event present =>
        have counted : Prepares log after (event :: others) failures
            (passedOver (dependent :: rest) (event :: others)) := by
          rw [passedOver_cons, present, Bool.and_false]
          exact both
        rcases result with failure | made <;> exact ⟨_, _, counted, outcome⟩

theorem books_countArchived (destination : String) (log : Logbook) :
    (Logbook.setting fun _ => True).Ensures (fun result after => Prepares log after [] 0 0 ∧
      match result with
      | .ok _ => EndsCounted after
      | .error _ => after.Ends fun last => last.isUncounted = true)
      (mover.countArchived destination ids) log := by
  rw [countArchived, Setting.ensures_andThen, Setting.ensures_mapFailure]
  refine (Logbook.ensures_call _ _ (.search (mover.verification destination ids)) log).mono ?_
  intro result after reached
  obtain ⟨reply, asks, rfl⟩ := reached
  have prepares := Prepares.of_asks_other asks (by rintro ⟨⟩) (by rintro ⟨⟩)
  cases outcome : reply.getD (.error (mover.policy.timedOut "verify archived roots")) with
  | error failure =>
    refine ⟨prepares, asks.ends ?_⟩
    rw [Event.isUncounted, isGranted_of_error reply _ failure outcome]
    rfl
  | ok found =>
    refine ⟨prepares, asks.ends ?_⟩
    rw [Event.isUncounted, (isGranted_of_getD reply _ found outcome).1]
    rfl

theorem books_refreshAll (transfers : List Transfer) (log : Logbook) :
    (Logbook.setting fun _ => True).Ensures (fun result after => Prepares log after [] 0 0 ∧
      ∀ failure, result = .error failure → after.Ends fun last => last.isUncounted = true)
      (mover.refreshAll transfers) log := by
  induction transfers generalizing log with
  | nil =>
    refine ⟨.refl log, ?_⟩
    rintro _ ⟨⟩
  | cons transfer rest ih =>
    rw [refreshAll, Setting.ensures_andThen, Setting.ensures_mapFailure]
    refine (Logbook.ensures_call _ _ (.refresh transfer.destination) log).mono ?_
    intro result between reached
    obtain ⟨reply, asks, rfl⟩ := reached
    have prepares := Prepares.of_asks_other asks (by rintro ⟨⟩) (by rintro ⟨⟩)
    cases reply.getD _ with
    | error failure => exact ⟨prepares, fun _ _ => asks.ends rfl⟩
    | ok done =>
      refine (ih between).mono ?_
      intro result after further
      exact ⟨prepares.trans further.1, further.2⟩

/-- Deletions of a move: they count nothing until one of them fails, which is the last call then. -/
structure Cleans (log after : Logbook) (debts : Nat) : Prop where
  copies : after.history.finals .reindex = log.history.finals .reindex
  counted : ∀ counter, after.counted counter = log.counted counter + bookings 0 debts 0 counter

theorem books_deleteAll (transfers : List Transfer) (log : Logbook) :
    (Logbook.setting fun _ => True).Ensures (fun result after =>
      match result with
      | .ok _ => Cleans log after 0
      | .error _ => Cleans log after 1 ∧
        after.Ends fun last => last.call.operation = .deleteByQuery)
      (mover.deleteAll transfers) log := by
  induction transfers generalizing log with
  | nil => exact ⟨rfl, fun counter => by rw [bookings_zero, Nat.add_zero]⟩
  | cons transfer rest ih =>
    rw [deleteAll, Setting.ensures_andThen, Setting.ensures_mapFailure, Setting.ensures_onFailure]
    refine (Logbook.ensures_call _ _ transfer.deletion log).mono ?_
    intro result between reached
    obtain ⟨reply, asks, rfl⟩ := reached
    obtain ⟨tries, attempts, history⟩ := asks.history
    have copies : between.history.finals .reindex = log.history.finals .reindex := by
      have noCopy := History.finals_singleton_of_ne ⟨transfer.deletion, reply⟩ .reindex
        (by rintro ⟨⟩)
      rw [history, (attempts.adds log.history reply).copies, noCopy, List.append_nil]
    cases reply.getD _ with
    | error failure =>
      refine Logbook.ensures_note .cleanupDebt 1 trivial ?_
      refine ⟨⟨copies, fun counter => ?_⟩, asks.ends rfl⟩
      rw [Logbook.counted_count, Logbook.counted_congr asks.counts]
      cases counter <;> rfl
    | ok count =>
      refine (ih between).mono ?_
      have goesOn : ∀ {after : Logbook} {debts : Nat}, Cleans between after debts →
          Cleans log after debts := by
        intro after debts cleans
        refine ⟨cleans.copies.trans copies, fun counter => ?_⟩
        rw [cleans.counted, Logbook.counted_congr asks.counts]
      intro result after further
      rcases result with failure | _
      · exact ⟨goesOn further.1, further.2⟩
      · exact goesOn further

/-- What a move that has ended adds to the counters. A failure before the first deletion counts as a
failed copy, unless the last call goes uncounted; one of a deletion is a debt. -/
def Books (mover : Mover) (result : Except ArchiveFailure Nat) (log : Logbook) : Prop :=
  ∃ failures debts,
    (∀ counter, log.counted counter = bookings failures debts
      (passedOver mover.separateDependents (log.history.finals .reindex).tail) counter) ∧
    match result with
    | .ok _ => failures = 0 ∧ debts = 0
    | .error _ =>
      failures = 0 ∧ debts = 1 ∧ log.Ends (fun last => last.call.operation = .deleteByQuery) ∨
      debts = 0 ∧ log.history.AsksNoDeletion ∧
        log.Ends fun last => failures = if last.isUncounted then 0 else 1

theorem Prepares.stops {log : Logbook} {failures : Nat} (copies : History)
    (prepares : Prepares .blank log copies failures
      (passedOver mover.separateDependents copies.tail))
    (ends : log.Ends fun last => failures = if last.isUncounted then 0 else 1)
    (failure : ArchiveFailure) : mover.Books (.error failure) log := by
  have finals : log.history.finals .reindex = copies := prepares.copies
  refine ⟨failures, 0, fun counter => ?_, Or.inr ⟨rfl, ?_, ends⟩⟩
  · rw [prepares.counted, finals]
    exact Nat.zero_add _
  · exact prepares.harmless fun _ member => (List.not_mem_nil member).elim

theorem EndsCounted.failure {log : Logbook} (ends : EndsCounted log) :
    log.Ends fun last => 1 = if last.isUncounted then 0 else 1 :=
  ends.imp fun last counted => by simp only [counted, Bool.false_eq_true, ↓reduceIte]

theorem Prepares.stopsCounted {log : Logbook} (copies : History)
    (prepares : Prepares .blank log copies 0 (passedOver mover.separateDependents copies.tail))
    (ends : EndsCounted log) (failure : ArchiveFailure) :
    mover.Books (.error failure) (log.count .reindexFailures 1) :=
  Prepares.stops copies prepares.fails ends.failure failure

theorem ends_uncounted {log : Logbook} (ends : log.Ends fun last => last.isUncounted = true) :
    log.Ends fun last => 0 = if last.isUncounted then 0 else 1 :=
  ends.imp fun last uncounted => by simp only [uncounted, ↓reduceIte]

theorem books_moveTo (mover : Mover) (suffix : String) (ids : List String) :
    (Logbook.setting fun _ => True).Ensures (fun result after => mover.Books result after)
      (mover.moveTo suffix ids) .blank := by
  rw [moveTo, Setting.ensures_andThen, Setting.ensures_onFailure]
  refine (books_copy (mover.rootTransfer suffix ids) .blank).mono ?_
  intro outcome copied reached
  obtain ⟨copies, rootCopied, tried, ends⟩ := reached
  rcases outcome with failure | _
  · refine Logbook.ensures_note .reindexFailures 1 trivial ?_
    refine Prepares.stopsCounted copies ?_ (ends failure rfl) failure
    have nobody : passedOver mover.separateDependents copies.tail = 0 := by
      cases tried <;> exact passedOver_nil _
    rw [nobody]
    exact rootCopied
  obtain ⟨root, _⟩ := tried
  rw [Setting.ensures_andThen]
  refine (books_countArchived _ copied).mono ?_
  intro outcome searched reached
  obtain ⟨search, ends⟩ := reached
  have verified := rootCopied.trans search
  rcases outcome with failure | found
  · refine Prepares.stops [root] ?_ (ends_uncounted ends) failure
    rw [List.tail_cons, passedOver_nil]
    exact verified
  simp only
  split
  · rw [Setting.ensures_bind]
    refine Logbook.ensures_note .reindexFailures 1 trivial ?_
    refine Prepares.stopsCounted [root] ?_ ends (.incomplete
      (mover.rootTransfer suffix ids).source (mover.rootTransfer suffix ids).destination
      ids.length found)
    rw [List.tail_cons, passedOver_nil]
    exact verified
  rw [Setting.ensures_andThen]
  refine (books_copyDependents mover.separateDependents searched).mono ?_
  intro outcome settled reached
  obtain ⟨others, failures, dependentsCopied, ended⟩ := reached
  have all := verified.trans dependentsCopied
  rw [Nat.zero_add] at all
  rcases outcome with failure | transfers
  · obtain ⟨rfl, ends⟩ := ended
    exact Prepares.stops (root :: others) all ends.failure failure
  obtain rfl := ended
  simp only
  rw [Setting.ensures_andThen]
  refine (books_refreshAll _ settled).mono ?_
  intro outcome refreshed reached
  obtain ⟨refreshes, ends⟩ := reached
  have ready := all.trans refreshes
  rw [List.append_nil] at ready
  rcases outcome with failure | _
  · exact Prepares.stops (root :: others) ready (ends_uncounted (ends failure rfl)) failure
  simp only
  rw [Setting.ensures_andThen]
  refine (books_deleteAll _ refreshed).mono ?_
  have finals : refreshed.history.finals .reindex = root :: others := ready.copies
  have counted : ∀ {after : Logbook} {debts : Nat}, Cleans refreshed after debts → ∀ counter,
      after.counted counter = bookings 0 debts
        (passedOver mover.separateDependents (after.history.finals .reindex).tail) counter := by
    intro after debts cleans counter
    rw [cleans.counted, ready.counted, cleans.copies, finals, List.tail_cons]
    cases counter <;> simp only [bookings, Logbook.counted, Logbook.blank, List.filter_nil,
      List.map_nil, List.sum_nil, Nat.zero_add, Nat.add_zero]
  intro outcome after reached
  rcases outcome with failure | _
  · exact ⟨0, 1, counted reached.1, Or.inl ⟨rfl, rfl, reached.2⟩⟩
  · exact ⟨0, 0, counted reached, rfl, rfl⟩

/-- Whatever the store answers, a move counts each type that it passed over, and a failure once: as a
debt when a deletion failed, and before the first deletion as a failed copy, unless the roots could
not be looked for or the copies not be made visible. -/
theorem moves_are_booked (mover : Mover) (batch : Batch) (result : Except ArchiveFailure Nat)
    (log : Logbook)
    (reached : (mover.move batch).Reaches Logbook.service .blank log (.finish result)) :
    mover.Books result log := by
  by_cases empty : batch.ids = []
  · rw [move, empty] at reached
    obtain ⟨rfl, rfl⟩ := Dialogue.reaches_finish.mp reached
    refine ⟨0, 0, fun counter => ?_, rfl, rfl⟩
    rw [show (Logbook.blank.history.finals .reindex).tail = [] from rfl, passedOver_nil,
      bookings_zero]
    rfl
  · cases named : mover.namer.suffix batch.finishDate with
    | none =>
      rw [move_of_unnamed empty named] at reached
      exact absurd reached Dialogue.not_reaches_crash
    | some suffix =>
      rw [move_of_named empty named] at reached
      exact ((books_moveTo mover suffix batch.ids).holds trivial reached).2

def rejecting (refused : Operation) (call : Call) (_ : Logbook) : Option call.Reply :=
  if call.operation = refused then some (.error (.rejected 400 "")) else some call.granted

def specimenLog (refused : Operation) : Logbook × Work (Except ArchiveFailure Nat) :=
  Dialogue.follow (Logbook.serve (rejecting refused)) 40 .blank
    (specimen.move ⟨⟨2024, 1, 1⟩, ["7"]⟩)

theorem reaches_specimenLog (refused : Operation) :
    (specimen.move ⟨⟨2024, 1, 1⟩, ["7"]⟩).Reaches Logbook.service .blank (specimenLog refused).1
      (specimenLog refused).2 :=
  Dialogue.reaches_follow (Logbook.serve (rejecting refused)) (Logbook.service_serve _) 40 .blank _

/-- When the first deletion is rejected the move counts one debt and no failed copy. -/
theorem rejected_deletion_is_a_debt : ∃ log failure,
    (specimen.move ⟨⟨2024, 1, 1⟩, ["7"]⟩).Reaches Logbook.service .blank log
        (.finish (.error failure)) ∧
      log.counted .cleanupDebt = 1 ∧ log.counted .reindexFailures = 0 ∧
      specimen.Books (.error failure) log := by
  have stopped : (specimenLog .deleteByQuery).2.result? =
      some (.error (.removal "events" (.rejected 400 ""))) := by decide +kernel
  have reached := reaches_specimenLog .deleteByQuery
  rw [Dialogue.eq_finish stopped] at reached
  exact ⟨_, _, reached, by decide +kernel, by decide +kernel, moves_are_booked _ _ _ _ reached⟩

/-- A move fails before its first deletion where the calls of one operation are rejected, and nothing
at all is counted. -/
def GoesUncounted (refused : Operation) : Prop :=
  ∃ log failure, (specimen.move ⟨⟨2024, 1, 1⟩, ["7"]⟩).Reaches Logbook.service .blank log
      (.finish (.error failure)) ∧
    log = (specimenLog refused).1 ∧ log.history.AsksNoDeletion ∧ log.counts = []

/-- Not every failure before the first deletion is counted: the roots cannot be looked for in the one
case, the copies not be made visible in the other. -/
theorem failures_between_copies_and_deletions_go_uncounted :
    GoesUncounted .search ∧ GoesUncounted .refresh := by
  constructor
  · have stopped : (specimenLog .search).2.result? =
        some (.error (.copy "operate-list-view_" "operate-list-view_x" (.rejected 400 ""))) := by
      decide +kernel
    have reached := reaches_specimenLog .search
    rw [Dialogue.eq_finish stopped] at reached
    exact ⟨_, _, reached, rfl, by decide +kernel, by decide +kernel⟩
  · have stopped : (specimenLog .refresh).2.result? =
        some (.error (.preparation "operate-list-view_x" (.rejected 400 ""))) := by
      decide +kernel
    have reached := reaches_specimenLog .refresh
    rw [Dialogue.eq_finish stopped] at reached
    exact ⟨_, _, reached, rfl, by decide +kernel, by decide +kernel⟩

end Mover

end Archivist
