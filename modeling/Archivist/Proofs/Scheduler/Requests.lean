import Archivist.Proofs.Scheduler.Timeline

set_option autoImplicit false

namespace Archivist

open Scheduler (Cause)

namespace Timeline

variable {pacing : Pacing} {timeline : Timeline}

namespace Sound

variable (sound : timeline.Sound pacing)
include sound

/-- A cycle begins because the loop was started if it is the first one, else because it was asked
for or, if it was not, because the wait is over. -/
theorem cause_iff {cause : Cause} {polled : Scheduler}
    (acts : timeline.scheduler.Acts timeline.clock (some (.began cause)) polled) :
    (cause = .outset ↔ ¬timeline.diary.Begun) ∧
      (cause = .request ↔ timeline.diary.Begun ∧ timeline.diary.Pending) ∧
      (cause = .pace → ∃ wait, timeline.diary.wait? = some wait ∧
        timeline.clock = wait.renewed + pacing.after wait.outcome) := by
  have begun {delay deadline : Nat} (waiting : timeline.scheduler.stage = .waiting delay deadline) :
      timeline.diary.Begun := sound.begun (by rw [waiting]; rfl)
  cases acts with
  | begins starting free =>
    have unbegun : ¬timeline.diary.Begun := fun begun => (sound.fresh begun).2 starting
    exact ⟨⟨fun _ => unbegun, fun _ => rfl⟩,
      ⟨Cause.noConfusion, fun both => absurd both.1 unbegun⟩, Cause.noConfusion⟩
  | heeds delay deadline waiting free listens asked =>
    exact ⟨⟨Cause.noConfusion, fun unbegun => absurd (begun waiting) unbegun⟩,
      ⟨fun _ => ⟨begun waiting, sound.asked.mp asked⟩, fun _ => rfl⟩, Cause.noConfusion⟩
  | goesOn delay deadline waiting free elapsed heedless =>
    have unasked : ¬timeline.diary.Pending := fun pending => by
      have asked := sound.asked.mpr pending
      rw [(heedless (sound.listening asked)).1] at asked
      cases asked
    obtain ⟨wait, keeps⟩ := sound.waits delay deadline waiting
    have renewed := sound.deadline_eq keeps fun listens => (heedless listens).2
    refine ⟨⟨Cause.noConfusion, fun unbegun => absurd (begun waiting) unbegun⟩,
      ⟨Cause.noConfusion, fun both => absurd both.2 unasked⟩,
      fun _ => ⟨wait, keeps.told, ?_⟩⟩
    rw [← keeps.paced, ← renewed]
    exact Nat.le_antisymm keeps.early elapsed

/-- A loop that was asked for a cycle begins one when it comes to act. -/
theorem begins_of_pending (idle : timeline.scheduler.stage.isIdle = true)
    (free : timeline.scheduler.cancelled = false) (pending : timeline.diary.Pending) :
    ∃ cause, cause ≠ .pace ∧ timeline.poll.diary = timeline.note (.began cause) := by
  have asked := sound.asked.mpr pending
  have acts := Scheduler.acts_poll idle timeline.clock
  rw [diary_poll]
  generalize timeline.scheduler.deed? (timeline.scheduler.poll timeline.clock) = deed? at acts ⊢
  generalize timeline.scheduler.poll timeline.clock = polled at acts ⊢
  cases acts with
  | returns told => simp [free, sound.enabled] at told
  | begins _ _ => exact ⟨.outset, Cause.noConfusion, rfl⟩
  | heeds _ _ _ _ _ _ => exact ⟨.request, Cause.noConfusion, rfl⟩
  | turnsAway _ _ _ _ unasked _ =>
    rw [asked] at unasked
    cases unasked
  | goesOn _ _ _ _ _ heedless | waits _ _ _ _ heedless =>
    rw [(heedless (sound.listening asked)).1] at asked
    cases asked

end Sound

/-- Requests for a cycle are folded into one another, and none is lost. -/
structure Heeds (pacing : Pacing) (now : Timeline) : Prop where
  /-- A request is granted as long as the loop has not returned. -/
  granted : ∀ earlier rest time granted, now.diary = earlier ++ ⟨time, .asked granted⟩ :: rest →
    (granted = true ↔ ¬Diary.Notes earlier .returned)
  /-- A loop that waits begins a cycle at once, one that is in a cycle when that has ended. -/
  begins : ∀ earlier since asked, now.diary = earlier ++ ⟨asked, .asked true⟩ :: since →
    ¬Diary.Begun since → ¬now.diary.Notes .stopped →
    now.scheduler.stage = .built ∨ now.scheduler.stage = .cycling ∨
      now.scheduler.stage.isIdle = true ∧ now.clock = Diary.ready asked since ∧
        ∃ cause, cause ≠ .pace ∧ now.poll.diary = now.note (.began cause)
  /-- The first cycle after a request did not wait for anything. -/
  began : ∀ earlier between rest asked time cause, now.diary =
      earlier ++ ⟨asked, .asked true⟩ :: (between ++ ⟨time, .began cause⟩ :: rest) →
    ¬Diary.Begun between → time = Diary.ready asked between ∧ cause ≠ .pace
  /-- A wait is cut short if there was a request, and it is slept out if there was none. -/
  causes : ∀ earlier rest time cause, now.diary = earlier ++ ⟨time, .began cause⟩ :: rest →
    (cause = .outset ↔ ¬Diary.Begun earlier) ∧
      (cause = .request ↔ Diary.Begun earlier ∧ Diary.Pending earlier) ∧
      (cause = .pace → ∃ wait, Diary.wait? earlier = some wait ∧
        time = wait.renewed + pacing.after wait.outcome)
  /-- Once the loop has taken note, only another request cuts a wait short. -/
  once : ∀ earlier between rest heeded time cause, now.diary =
      earlier ++ ⟨heeded, .began .request⟩ :: (between ++ ⟨time, .began cause⟩ :: rest) →
    (∀ asked, ⟨asked, .asked true⟩ ∉ between) → cause = .pace

/-- Whatever happens to a loop and whatever its cycles take, it heeds all that it is asked for. -/
theorem requests_are_heeded (pacing : Pacing) (clock : Nat) (now : Timeline)
    (runs : (build true pacing clock).Runs now) : now.Heeds pacing := by
  have reached {before : Timeline} (runs : (build true pacing clock).Runs before) :
      before.Sound pacing := Runs.sound runs (sound_build pacing clock)
  constructor
  case granted =>
    intro earlier rest time granted split
    obtain ⟨before, after, first, step, _, rfl, _, noted⟩ := runs.exists_noted rfl split
    rw [step.asks noted, ← (reached first).returned, Scheduler.trigger]
    by_cases elapsed : before.scheduler.stage = .returned <;> simp [elapsed]
  case begins =>
    intro earlier since asked split unbegun unstopped
    have sound := reached runs
    have free : now.scheduler.cancelled = false :=
      Bool.eq_false_iff.mpr fun told => unstopped (sound.stopped.mp told)
    cases stage : now.scheduler.stage with
    | built => exact Or.inl rfl
    | cycling => exact Or.inr (Or.inl rfl)
    | returned =>
      rw [sound.told stage] at free
      cases free
    | starting | waiting _ _ =>
      have idle : now.scheduler.stage.isIdle = true := by rw [stage]; rfl
      exact Or.inr (Or.inr ⟨rfl, runs.prompt earlier asked since split unbegun idle free,
        sound.begins_of_pending idle free (Diary.pending_of_asked split unbegun)⟩)
  case began =>
    intro earlier between rest asked time cause split unbegun
    rw [← List.cons_append, ← List.append_assoc] at split
    obtain ⟨before, after, first, step, _, told, rfl, noted⟩ := runs.exists_noted rfl split
    obtain ⟨idle, acts⟩ := step.begins noted
    refine ⟨first.prompt earlier asked between told unbegun idle acts.free, ?_⟩
    rintro rfl
    obtain ⟨outset, request, _⟩ := (reached first).cause_iff acts
    have begun : before.diary.Begun := Classical.not_not.mp fun none => by
      cases outset.mpr none
    cases request.mpr ⟨begun, Diary.pending_of_asked told unbegun⟩
  case causes =>
    intro earlier rest time cause split
    obtain ⟨before, after, first, step, _, rfl, rfl, noted⟩ := runs.exists_noted rfl split
    exact (reached first).cause_iff (step.begins noted).2
  case once =>
    intro earlier between rest heeded time cause split unasked
    rw [← List.cons_append, ← List.append_assoc] at split
    obtain ⟨before, after, first, step, _, told, rfl, noted⟩ := runs.exists_noted rfl split
    obtain ⟨outset, request, _⟩ := (reached first).cause_iff (step.begins noted).2
    have begun : before.diary.Begun := ⟨⟨heeded, .began .request⟩, by simp [told], rfl⟩
    have unpending : ¬before.diary.Pending := fun pending => by
      rw [told] at pending
      rcases Diary.pending_append pending with ⟨_, unheeded⟩ | ⟨asked, member⟩
      · exact unheeded _ List.mem_cons_self rfl
      · exact unasked asked (by simpa using member)
    cases cause with
    | outset => exact absurd begun (outset.mp rfl)
    | request => exact absurd (request.mp rfl).2 unpending
    | pace => rfl

/-- A loop that waits a second after each cycle is asked for one before it has started, and twice in
its first cycle. -/
def beset : Timeline :=
  let cycling := (((build true ⟨1000, 1000, 1000⟩ 0).undergo .trigger).undergo .start).poll
  ({ cycling with clock := 20 }.undergo .trigger).undergo .trigger

/-- The next cycle begins at the end of the first one, and the one after that a second later. -/
def relieved : Timeline :=
  { ((beset.finish (.ok 3)).poll.finish (.ok 0)) with clock := 1020 }.poll

theorem runs_beset : (build true ⟨1000, 1000, 1000⟩ 0).Runs beset := by
  have asked := Step.undergoes (build true ⟨1000, 1000, 1000⟩ 0) .trigger rfl
  have started := Step.undergoes ((build true ⟨1000, 1000, 1000⟩ 0).undergo .trigger) .start rfl
  have began := Step.polls
    (((build true ⟨1000, 1000, 1000⟩ 0).undergo .trigger).undergo .start) rfl
  have lasted := Step.passes
    (((build true ⟨1000, 1000, 1000⟩ 0).undergo .trigger).undergo .start).poll 20
    (Nat.zero_le 20) rfl nofun
  exact .tail (.tail (.tail (.tail (.tail (.single asked) started) began) lasted)
    (.undergoes _ .trigger rfl)) (.undergoes _ .trigger rfl)

theorem runs_relieved : beset.Runs relieved := by
  have ended := Step.ends beset (.ok 3) rfl
  have began := Step.polls (beset.finish (.ok 3)) rfl
  have again := Step.ends (beset.finish (.ok 3)).poll (.ok 0) rfl
  have waited := Step.passes ((beset.finish (.ok 3)).poll.finish (.ok 0)) 1020 (by decide) rfl
    fun deadline same => by
      cases same
      exact Nat.le_refl 1020
  exact .tail (.tail (.tail (.tail (.single ended) began) again) waited) (.polls _ rfl)

theorem diary_relieved : relieved.diary =
    [⟨0, .asked true⟩, ⟨0, .started⟩, ⟨0, .began .outset⟩] ++
      ⟨20, .asked true⟩ :: ([⟨20, .asked true⟩, ⟨20, .ended (.ok 3)⟩] ++
        ⟨20, .began .request⟩ :: [⟨20, .ended (.ok 0)⟩, ⟨1020, .began .pace⟩]) := rfl

/-- Three requests before the end of the first cycle are heeded then, by one cycle. -/
theorem requests_in_a_burst :
    (build true ⟨1000, 1000, 1000⟩ 0).Runs relieved ∧ relieved.Heeds ⟨1000, 1000, 1000⟩ ∧
    20 = Diary.ready 20 [⟨20, .asked true⟩, ⟨20, .ended (.ok 3)⟩] ∧
    relieved.diary.countP (fun entry => entry.what matches .asked true) = 3 ∧
    relieved.diary.countP (fun entry => entry.what matches .began .request) = 1 := by
  have runs := runs_beset.trans runs_relieved
  have heeds := requests_are_heeded ⟨1000, 1000, 1000⟩ 0 relieved runs
  refine ⟨runs, heeds, (heeds.began _ _ _ 20 20 .request diary_relieved ?_).1, rfl, rfl⟩
  rintro ⟨entry, member, began⟩
  simp only [List.mem_cons, List.not_mem_nil, or_false] at member
  rcases member with rfl | rfl <;> cases began

end Timeline

end Archivist
