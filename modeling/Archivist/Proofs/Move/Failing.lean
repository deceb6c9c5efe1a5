import Archivist.Proofs.Dialogue.Logbook
import Archivist.Proofs.Move.Conduct

set_option autoImplicit false

namespace Archivist

namespace Event

/-- A call failed for a reason. One that was given up failed for want of time. -/
def FailsFor (event : Event) (cause : StoreFailure) : Prop :=
  event.reply = some (.error cause) ∨
    event.reply = none ∧ ∃ (policy : RetryPolicy) (step : String), cause = policy.timedOut step

theorem failsFor_of_getD {call : Call} {reply : Option call.Reply} {policy : RetryPolicy}
    {step : String} {cause : StoreFailure}
    (outcome : reply.getD (.error (policy.timedOut step)) = .error cause) :
    (Event.mk call reply).FailsFor cause := by
  match reply with
  | none =>
    cases outcome
    exact Or.inr ⟨rfl, policy, step, rfl⟩
  | some result => exact Or.inl (congrArg some outcome)

/-- The reply to a call is why something failed: the call failed, or it found too few roots. -/
def Explains (event : Event) : ArchiveFailure → Prop
  | .discovery cause | .preparation _ cause | .copy _ _ cause | .removal _ cause =>
    event.FailsFor cause
  | .incomplete _ destination _ found => ∃ (request : Search) (records : List Record),
    event = ⟨.search request, some (.ok records)⟩ ∧ request.index = destination ∧
      records.length = found

end Event

namespace Logbook

/-- When something has failed, the last call says why. -/
def Explained {Result : Type} (result : Except ArchiveFailure Result) (log : Logbook) : Prop :=
  ∀ failure, result = .error failure → log.Ends fun last => last.Explains failure

variable {First Second : Type} {log : Logbook} {first : Work (Except ArchiveFailure First)}

theorem ends_call (policy : RetryPolicy) (step : String) (call : Call) :
    (setting fun _ => True).Ensures (fun result after =>
      match result with
      | .ok answer => after.Ends fun last => last = ⟨call, some (.ok answer)⟩
      | .error cause => after.Ends fun last => last.FailsFor cause)
      (Work.call policy step call) log := by
  refine (ensures_call policy step call log).mono ?_
  rintro _ after ⟨reply, asks, rfl⟩
  cases outcome : reply.getD (.error (policy.timedOut step)) with
  | ok answer => exact asks.ends (congrArg (Event.mk call)
    (Mover.isGranted_of_getD reply _ answer outcome).2)
  | error cause => exact asks.ends (Event.failsFor_of_getD outcome)

theorem explained_call {change : StoreFailure → ArchiveFailure} (policy : RetryPolicy)
    (step : String) (call : Call)
    (direct : ∀ event cause, Event.FailsFor event cause → event.Explains (change cause)) :
    (setting fun _ => True).Ensures Explained
      ((Work.call policy step call).mapFailure change) log := by
  rw [Setting.ensures_mapFailure]
  refine (ends_call policy step call).mono ?_
  intro result after ends
  rcases result with cause | answer
  · rintro _ ⟨⟩
    exact ends.imp fun event => direct event cause
  · exact nofun

theorem explained_andThen {next : First → Work (Except ArchiveFailure Second)}
    (before : (setting fun _ => True).Ensures Explained first log)
    (further : ∀ value after, (setting fun _ => True).Ensures Explained (next value) after) :
    (setting fun _ => True).Ensures Explained (first.andThen next) log := by
  rw [Setting.ensures_andThen]
  refine before.mono ?_
  intro result after reached
  rcases result with failure | value
  · rintro _ ⟨⟩
    exact reached failure rfl
  · exact further value after

theorem explained_onFailure (counter : Counter) (amount : Nat)
    (before : (setting fun _ => True).Ensures Explained first log) :
    (setting fun _ => True).Ensures Explained (first.onFailure (Work.count counter amount)) log := by
  rw [Setting.ensures_onFailure]
  refine before.mono ?_
  intro result after reached
  rcases result with failure | value
  · refine ensures_note counter amount trivial ?_
    rintro _ ⟨⟩
    exact reached failure rfl
  · exact nofun

end Logbook

open Logbook (Explained explained_call explained_andThen explained_onFailure)

namespace Mover

variable {mover : Mover} {suffix : String} {ids : List String} {log : Logbook}

theorem explained_copy (transfer : Transfer) :
    (Logbook.setting fun _ => True).Ensures Explained (mover.copy transfer) log := by
  refine explained_andThen ⟨trivial, fun known after _ => ⟨trivial, ?_⟩⟩ fun _ between => ?_
  · simp only [Dialogue.finish_bind]
    split
    · exact nofun
    · refine explained_andThen (explained_call _ _ _ fun _ _ => id) fun _ between => ?_
      exact ⟨trivial, fun _ _ _ => ⟨trivial, nofun⟩⟩
  · exact explained_andThen (explained_call _ _ _ fun _ _ => id) fun _ _ => nofun

theorem explained_copyDependents (dependents : List Dependent) :
    (Logbook.setting fun _ => True).Ensures Explained
      (mover.copyDependents suffix ids dependents) log := by
  induction dependents generalizing log with
  | nil => rintro _ ⟨⟩
  | cons dependent rest ih =>
    rw [copyDependents, Setting.ensures_bind]
    refine (explained_copy _).mono ?_
    intro copied after reached
    rcases copied with failure | _
    · simp only
      split
      · rw [Setting.ensures_bind]
        exact Logbook.ensures_note .orphanTolerantSkips 1 trivial ih
      · rw [Setting.ensures_bind]
        refine Logbook.ensures_note .reindexFailures 1 trivial ?_
        rintro _ ⟨⟩
        exact reached failure rfl
    · refine explained_andThen ih fun _ _ => ?_
      rintro _ ⟨⟩

theorem explained_refreshAll (transfers : List Transfer) :
    (Logbook.setting fun _ => True).Ensures Explained (mover.refreshAll transfers) log := by
  induction transfers generalizing log with
  | nil => exact nofun
  | cons transfer rest ih =>
    exact explained_andThen (explained_call _ _ _ fun _ _ => id) fun _ _ => ih

theorem explained_deleteAll (transfers : List Transfer) :
    (Logbook.setting fun _ => True).Ensures Explained (mover.deleteAll transfers) log := by
  induction transfers generalizing log with
  | nil => exact nofun
  | cons transfer rest ih =>
    refine explained_andThen ?_ fun _ _ => ih
    rw [Setting.ensures_mapFailure, Setting.ensures_onFailure]
    refine (Logbook.ends_call _ _ transfer.deletion).mono ?_
    intro result after ends
    rcases result with cause | count
    · refine Logbook.ensures_note .cleanupDebt 1 trivial ?_
      rintro _ ⟨⟩
      exact ends
    · exact nofun

theorem explained_countArchived (expected : Nat) :
    (Logbook.setting fun _ => True).Ensures (fun result after => Explained result after ∧
      ∀ found, result = .ok found → after.Ends fun last => last.Explains
        (.incomplete mover.root.index (mover.rootTransfer suffix ids).destination expected found))
      (mover.countArchived (mover.rootTransfer suffix ids).destination ids) log := by
  rw [countArchived, Setting.ensures_andThen, Setting.ensures_mapFailure]
  refine (Logbook.ends_call _ _ (.search _)).mono ?_
  intro result after ends
  rcases result with cause | records
  · constructor
    · rintro _ ⟨⟩
      exact ends
    · rintro _ ⟨⟩
  · constructor
    · rintro _ ⟨⟩
    · rintro _ ⟨⟩
      exact ends.imp fun event same => ⟨_, records, same, rfl, rfl⟩

theorem explained_moveTo :
    (Logbook.setting fun _ => True).Ensures Explained (mover.moveTo suffix ids) log := by
  refine explained_andThen (explained_onFailure _ _ (explained_copy _)) fun _ copied => ?_
  rw [Setting.ensures_andThen]
  refine (explained_countArchived ids.length).mono ?_
  intro outcome searched reached
  obtain ⟨explained, ends⟩ := reached
  rcases outcome with failure | found
  · rintro _ ⟨⟩
    exact explained failure rfl
  simp only
  split
  · rw [Setting.ensures_bind]
    refine Logbook.ensures_note .reindexFailures 1 trivial ?_
    rintro _ ⟨⟩
    exact ends found rfl
  · refine explained_andThen (explained_copyDependents _) fun others settled => ?_
    refine explained_andThen (explained_refreshAll _) fun _ refreshed => ?_
    exact explained_andThen (explained_deleteAll _) fun _ _ => nofun

theorem explained_move {batch : Batch} {after : Logbook} {failure : ArchiveFailure}
    (reached : (mover.move batch).Reaches Logbook.service log after (.finish (.error failure))) :
    after.Ends fun last => last.Explains failure := by
  by_cases empty : batch.ids = []
  · rw [move, empty] at reached
    cases (Dialogue.reaches_finish.mp reached).2
  · cases named : mover.namer.suffix batch.finishDate with
    | none =>
      rw [move_of_unnamed empty named] at reached
      exact absurd reached Dialogue.not_reaches_crash
    | some suffix =>
      rw [move_of_named empty named] at reached
      exact (explained_moveTo.holds trivial reached).2 failure rfl

end Mover

end Archivist
