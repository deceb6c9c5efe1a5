import Archivist.Proofs.Scheduler.Timeline

set_option autoImplicit false

namespace Archivist

namespace Timeline

variable {pacing : Pacing} {timeline : Timeline}

theorem Keeps.deadline_le {delay deadline : Nat} {wait : Wait}
    (keeps : timeline.Keeps pacing delay deadline wait) : deadline ≤ wait.renewed + delay := by
  cases listens : timeline.scheduler.listening with
  | true =>
    rw [(keeps.attentive listens).1]
    exact Nat.add_le_add_right keeps.renewed delay
  | false => exact Nat.le_of_eq (keeps.alone listens)

/-- The loop has found that its handle is gone, and waits once more. -/
structure TurnedAway (later : Timeline) (diary : Diary) : Prop where
  diary : later.diary = diary
  deaf : later.scheduler.listening = false
  free : later.scheduler.cancelled = false
  waiting : ∃ delay deadline, later.scheduler.stage = .waiting delay deadline

namespace Sound

variable (sound : timeline.Sound pacing)
include sound

theorem keeps_of_ended (stays : timeline.scheduler.stage ≠ .returned) {earlier since : Diary}
    {ended : Nat} {outcome : Cycle.Outcome}
    (split : timeline.diary = earlier ++ ⟨ended, .ended outcome⟩ :: since)
    (waits : ∀ entry ∈ since, entry.what.isOfCycle = false) :
    ∃ deadline renewed, timeline.scheduler.stage = .waiting (pacing.after outcome) deadline ∧
      timeline.Keeps pacing (pacing.after outcome) deadline ⟨ended, outcome, renewed⟩ ∧
      (renewed = ended ∨ ⟨renewed, .dropped⟩ ∈ since) := by
  obtain ⟨renewed, told, begun⟩ := Diary.wait?_of_ended earlier ended outcome since waits
  rw [← split] at told
  obtain ⟨delay, deadline, waiting⟩ := (sound.rests (by rw [told]; rfl) _ rfl).resolve_right stays
  obtain ⟨wait, keeps⟩ := sound.waits delay deadline waiting
  obtain rfl := Option.some.inj (keeps.told.symm.trans told)
  obtain rfl := keeps.paced
  exact ⟨deadline, renewed, waiting, keeps, begun⟩

section Waiting

variable {delay deadline : Nat} (waiting : timeline.scheduler.stage = .waiting delay deadline)
  (free : timeline.scheduler.cancelled = false)
include waiting free

theorem poll_waiting :
    (∃ cause, timeline.poll.diary = timeline.note (.began cause)) ∨
    (timeline.poll.TurnedAway timeline.diary ∧ timeline.scheduler.listening = true) ∨
    (timeline.scheduler.poll timeline.clock = timeline.scheduler ∧ timeline.clock < deadline) := by
  have acts := Scheduler.acts_poll_waiting waiting timeline.clock
  rw [Timeline.poll]
  generalize timeline.scheduler.deed? (timeline.scheduler.poll timeline.clock) = deed? at acts ⊢
  generalize timeline.scheduler.poll timeline.clock = polled at acts ⊢
  cases acts with
  | returns told => simp [free, sound.enabled] at told
  | begins _ _ | heeds _ _ _ _ _ _ | goesOn _ _ _ _ _ _ => exact Or.inl ⟨_, rfl⟩
  | turnsAway _ _ _ listens _ _ =>
    exact Or.inr (Or.inl ⟨⟨List.append_nil _, rfl, free, _, _, rfl⟩, listens⟩)
  | waits _ _ same early _ =>
    cases waiting.symm.trans same
    exact Or.inr (Or.inr ⟨rfl, early⟩)

/-- When its time has come a loop begins a cycle, or it finds its handle gone. -/
theorem looks_round :
    ∃ later, timeline.Runs later ∧ ((∃ cause time, later.diary =
        timeline.diary ++ [⟨time, .began cause⟩]) ∨
      later.TurnedAway timeline.diary ∧ timeline.scheduler.listening = true) := by
  have idle : timeline.scheduler.stage.isIdle = true := by rw [waiting]; rfl
  rcases sound.poll_waiting waiting free with ⟨cause, noted⟩ | turned | ⟨quiet, early⟩
  · exact ⟨_, .single (.polls _ idle), Or.inl ⟨cause, _, noted⟩⟩
  · exact ⟨_, .single (.polls _ idle), Or.inr turned⟩
  · have bound (other : Nat) (same : timeline.scheduler.deadline? = some other) :
        deadline ≤ other := by
      rw [Scheduler.deadline?, waiting] at same
      exact Nat.le_of_eq (Option.some.inj same)
    have passes := Step.passes timeline deadline (Nat.le_of_lt early) quiet bound
    rcases (passes.sound sound).poll_waiting waiting free with ⟨cause, noted⟩ | turned | ⟨_, never⟩
    · exact ⟨_, .tail (.single passes) (.polls _ idle), Or.inl ⟨cause, _, noted⟩⟩
    · exact ⟨_, .tail (.single passes) (.polls _ idle), Or.inr turned⟩
    · exact absurd never (Nat.lt_irrefl _)

/-- Left alone, a waiting loop begins a cycle. -/
theorem comes_round :
    ∃ later cause time, timeline.Runs later ∧
      later.diary = timeline.diary ++ [⟨time, .began cause⟩] := by
  obtain ⟨later, runs, ⟨cause, time, noted⟩ | ⟨turned, _⟩⟩ := sound.looks_round waiting free
  · exact ⟨later, cause, time, runs, noted⟩
  · obtain ⟨_, _, still⟩ := turned.waiting
    obtain ⟨last, further, ⟨cause, time, noted⟩ | ⟨_, listens⟩⟩ :=
      (runs.sound sound).looks_round still turned.free
    · exact ⟨last, cause, time, runs.trans further, turned.diary ▸ noted⟩
    · rw [turned.deaf] at listens
      cases listens

end Waiting

end Sound

/-- Unless it is told to stop, a loop waits after a cycle as its pacing says and then begins another
one. The delay is counted from the end of the cycle, or from when the last handle was dropped if
that was in the wait, and it is cut short only for a request. -/
theorem next_cycle_begins_in_time (pacing : Pacing) (clock : Nat) (now : Timeline)
    (runs : (build true pacing clock).Runs now) (earlier since : Diary) (ended : Nat)
    (outcome : Cycle.Outcome) (split : now.diary = earlier ++ ⟨ended, .ended outcome⟩ :: since) :
    ((∀ entry ∈ since, entry.what.isOfCycle = false) → ¬now.diary.Notes .stopped →
      (∃ renewed, (renewed = ended ∨ ⟨renewed, .dropped⟩ ∈ since) ∧
        now.clock ≤ renewed + pacing.after outcome) ∧
      ∃ later cause time, now.Runs later ∧
        later.diary = now.diary ++ [⟨time, .began cause⟩]) ∧
    ∀ wait rest time cause, since = wait ++ ⟨time, .began cause⟩ :: rest →
      (∀ entry ∈ wait, entry.what.isOfCycle = false) →
      (∃ renewed, (renewed = ended ∨ ⟨renewed, .dropped⟩ ∈ wait) ∧ ended ≤ renewed ∧
        time ≤ renewed + pacing.after outcome ∧
        (cause = .pace → time = renewed + pacing.after outcome)) ∧
      (time < ended + pacing.after outcome →
        earlier.Pending ∨ ∃ asked, ⟨asked, .asked true⟩ ∈ wait) := by
  have sound := Runs.sound runs (sound_build pacing clock)
  refine ⟨fun still unstopped => ?waiting, fun wait rest time cause parts still => ?begun⟩
  case waiting =>
    have free : now.scheduler.cancelled = false :=
      Bool.eq_false_iff.mpr fun told => unstopped (sound.stopped.mp told)
    have stays : now.scheduler.stage ≠ .returned := fun returned => by
      rw [sound.told returned] at free
      cases free
    obtain ⟨deadline, renewed, waiting, keeps, anew⟩ := sound.keeps_of_ended stays split still
    refine ⟨⟨renewed, anew, ?_⟩, sound.comes_round waiting free⟩
    exact Nat.le_trans keeps.early keeps.deadline_le
  case begun =>
    subst parts
    rw [← List.cons_append, ← List.append_assoc] at split
    obtain ⟨before, after, first, step, _, told, rfl, noted⟩ := runs.exists_noted rfl split
    obtain ⟨idle, acts⟩ := step.begins noted
    have sound := Runs.sound first (sound_build pacing clock)
    have stays : before.scheduler.stage ≠ .returned := fun returned => by
      rw [returned] at idle
      cases idle
    obtain ⟨deadline, renewed, waiting, keeps, anew⟩ := sound.keeps_of_ended stays told still
    have bound := Nat.le_trans keeps.early keeps.deadline_le
    have renewal := keeps.renewed
    generalize after.scheduler = polled at acts
    cases acts with
    | begins starting free => cases waiting.symm.trans starting
    | heeds _ _ _ _ _ asked =>
      refine ⟨⟨renewed, anew, renewal, bound, fun same => by cases same⟩, fun _ => ?_⟩
      have pending := sound.asked.mp asked
      rw [told] at pending
      exact (Diary.pending_append pending).imp And.left fun ⟨time, member⟩ =>
        ⟨time, by simpa using member⟩
    | goesOn _ _ same free elapsed heedless =>
      cases waiting.symm.trans same
      have when := sound.deadline_eq keeps fun listens => (heedless listens).2
      dsimp only at renewal bound when
      exact ⟨⟨renewed, anew, renewal, bound, fun _ => by omega⟩, fun early => by omega⟩

/-- A loop that waits a second after each cycle, at the end of its first one. -/
def rested : Timeline := ((build true ⟨1000, 1000, 1000⟩ 0).undergo .start).poll.finish (.ok 0)

def halfway : Timeline := { rested with clock := 500 }.undergo .dropHandle

def overslept : Timeline := { halfway.poll with clock := 1500 }.poll

theorem runs_halfway : (build true ⟨1000, 1000, 1000⟩ 0).Runs halfway := by
  have started := Step.undergoes (build true ⟨1000, 1000, 1000⟩ 0) .start rfl
  have began := Step.polls ((build true ⟨1000, 1000, 1000⟩ 0).undergo .start) rfl
  have ended : Step _ rested := .ends _ (.ok 0) rfl
  have waited := Step.passes rested 500 (Nat.zero_le 500) rfl fun deadline same => by
    cases same
    decide
  exact .tail (.tail (.tail (.tail (.single started) began) ended) waited) (.undergoes _ _ rfl)

theorem runs_overslept : (build true ⟨1000, 1000, 1000⟩ 0).Runs overslept := by
  have turned := Step.polls halfway rfl
  have waited := Step.passes halfway.poll 1500 (by decide) rfl fun deadline same => by
    cases same
    exact Nat.le_refl 1500
  exact .tail (.tail (.tail runs_halfway turned) waited) (.polls _ rfl)

theorem diary_halfway : halfway.diary = [⟨0, .started⟩, ⟨0, .began .outset⟩] ++
    ⟨0, .ended (.ok 0)⟩ :: [⟨500, .dropped⟩] := rfl

theorem diary_overslept : overslept.diary = [⟨0, .started⟩, ⟨0, .began .outset⟩] ++
    ⟨0, .ended (.ok 0)⟩ :: [⟨500, .dropped⟩, ⟨1500, .began .pace⟩] := rfl

theorem unstopped_overslept : ¬overslept.diary.Notes .stopped := by
  rw [← (runs_overslept.sound (sound_build ⟨1000, 1000, 1000⟩ 0)).stopped]
  exact Bool.noConfusion

theorem drop_is_no_cycle :
    ∀ entry ∈ ([⟨500, .dropped⟩] : Diary), entry.what.isOfCycle = false := by
  intro entry member
  rw [List.mem_singleton.mp member]
  rfl

/-- The loop still waits when its handle is dropped, and the next cycle begins a second after that,
half a second later than if the handle had been kept. -/
theorem handle_dropped_halfway :
    (∃ renewed, (renewed = 0 ∨ ⟨renewed, .dropped⟩ ∈ ([⟨500, .dropped⟩] : Diary)) ∧
      halfway.clock ≤ renewed + 1000) ∧
    (∃ renewed, (renewed = 0 ∨ ⟨renewed, .dropped⟩ ∈ ([⟨500, .dropped⟩] : Diary)) ∧
      0 ≤ renewed ∧ 1500 ≤ renewed + 1000 ∧
      (Scheduler.Cause.pace = .pace → 1500 = renewed + 1000)) ∧
    (build true ⟨1000, 1000, 1000⟩ 0).Runs overslept ∧ ¬overslept.diary.Notes .stopped := by
  have unstopped : ¬halfway.diary.Notes .stopped := by
    rw [← (runs_halfway.sound (sound_build ⟨1000, 1000, 1000⟩ 0)).stopped]
    exact Bool.noConfusion
  exact ⟨((next_cycle_begins_in_time ⟨1000, 1000, 1000⟩ 0 halfway runs_halfway _ _ 0 (.ok 0)
      diary_halfway).1 drop_is_no_cycle unstopped).1,
    ((next_cycle_begins_in_time ⟨1000, 1000, 1000⟩ 0 overslept runs_overslept _ _ 0 (.ok 0)
      diary_overslept).2 _ [] 1500 .pace rfl drop_is_no_cycle).1, runs_overslept,
    unstopped_overslept⟩

/-- Not every cycle begins within the delay that follows the one before. -/
theorem dropped_handle_delays_a_cycle :
    ¬∀ (pacing : Pacing) (clock : Nat) (now : Timeline) (earlier wait rest : Diary)
      (ended time : Nat) (outcome : Cycle.Outcome) (cause : Scheduler.Cause),
      (build true pacing clock).Runs now → ¬now.diary.Notes .stopped →
      now.diary = earlier ++ ⟨ended, .ended outcome⟩ :: (wait ++ ⟨time, .began cause⟩ :: rest) →
      (∀ entry ∈ wait, entry.what.isOfCycle = false) → time ≤ ended + pacing.after outcome := by
  intro claimed
  have late := claimed ⟨1000, 1000, 1000⟩ 0 overslept _ _ [] 0 1500 (.ok 0) .pace
    runs_overslept unstopped_overslept diary_overslept drop_is_no_cycle
  exact absurd late (by decide)

end Timeline

end Archivist
