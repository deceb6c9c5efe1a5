import Archivist.Proofs.Dialogue.History
import Archivist.Proofs.Scheduler.Acting

set_option autoImplicit false

/-!
A scheduler's loop in the course of time, whatever its cycles take and come to. The clock goes on
only while the loop has nothing to do, and never past the end of a wait; a diary is kept of all that
happens. `Timeline.Sound` says what the diary tells of the loop, and `Timeline.Runs.exists_noted`
that whatever is in it came about in a single step.
-/

namespace Archivist

open Scheduler (Happening)

structure Entry where
  time : Nat
  what : Happening

abbrev Diary : Type := List Entry

/-- A wait: when the cycle before it ended and what that came to, and when the wait last began. -/
structure Wait where
  since : Nat
  outcome : Cycle.Outcome
  renewed : Nat

namespace Diary

def Notes (diary : Diary) (what : Happening) : Prop := ∃ entry ∈ diary, entry.what = what

def Begun (diary : Diary) : Prop := ∃ entry ∈ diary, entry.what.isBeginning = true

/-- A cycle was asked for, and none has begun on that account since. -/
def Pending (diary : Diary) : Prop :=
  ∃ before time since, diary = before ++ ⟨time, .asked true⟩ :: since ∧
    ∀ entry ∈ since, entry.what ≠ .began .request

@[simp] def follow (wait? : Option Wait) (entry : Entry) : Option Wait :=
  match entry.what with
  | .ended outcome => some ⟨entry.time, outcome, entry.time⟩
  | .began _ => none
  | .dropped => wait?.map fun wait => { wait with renewed := entry.time }
  | .started | .asked _ | .stopped | .returned => wait?

def wait? (diary : Diary) : Option Wait := diary.foldl follow none

/-- When the loop could act on a request that was made at a time: at once, or when it was started or
its cycle ended. -/
def ready (asked : Nat) (since : Diary) : Nat :=
  since.foldl (fun time entry => if entry.what.isOpening then entry.time else time) asked

variable {diary earlier since : Diary} {entry : Entry}

@[simp] theorem notes_concat {what : Happening} :
    Notes (diary ++ [entry]) what ↔ diary.Notes what ∨ entry.what = what := by
  simp only [Notes, List.mem_append, List.mem_singleton, or_and_right, exists_or, exists_eq_left]

@[simp] theorem begun_concat :
    Begun (diary ++ [entry]) ↔ diary.Begun ∨ entry.what.isBeginning = true := by
  simp only [Begun, List.mem_append, List.mem_singleton, or_and_right, exists_or, exists_eq_left]

theorem not_begun_nil : ¬Begun [] := by
  rintro ⟨_, member, _⟩
  cases member

theorem not_notes_nil (what : Happening) : ¬Notes [] what := by
  rintro ⟨_, member, _⟩
  cases member

@[simp] theorem pending_concat :
    Pending (diary ++ [entry]) ↔
      entry.what = .asked true ∨ diary.Pending ∧ entry.what ≠ .began .request := by
  constructor
  · intro pending
    obtain ⟨before, time, since, split, unheeded⟩ := pending
    rcases History.split_concat split with ⟨_, _, same⟩ | ⟨front, rfl, whole⟩
    · exact Or.inl (congrArg Entry.what same).symm
    · refine Or.inr ⟨⟨before, time, front, whole, fun other member => ?_⟩, ?_⟩
      · exact unheeded other (List.mem_append_left _ member)
      · exact unheeded entry (List.mem_append_right _ List.mem_cons_self)
  · intro given
    rcases given with asked | ⟨⟨before, time, since, rfl, unheeded⟩, other⟩
    · obtain ⟨time, what⟩ := entry
      obtain rfl := asked
      exact ⟨diary, time, [], rfl, nofun⟩
    · refine ⟨before, time, since ++ [entry], ?_, fun noted member => ?_⟩
      · rw [List.append_assoc, List.cons_append]
      · rcases List.mem_append.mp member with among | last
        · exact unheeded noted among
        · rw [List.mem_singleton.mp last]
          exact other

theorem pending_of_asked {asked : Nat} (split : diary = earlier ++ ⟨asked, .asked true⟩ :: since)
    (unbegun : ¬since.Begun) : diary.Pending :=
  ⟨earlier, asked, since, split, fun entry member began =>
    unbegun ⟨entry, member, by rw [began]; rfl⟩⟩

theorem pending_append (pending : Pending (earlier ++ since)) :
    earlier.Pending ∧ (∀ entry ∈ since, entry.what ≠ .began .request) ∨
      ∃ time, ⟨time, .asked true⟩ ∈ since := by
  induction since using List.reverseRecOn with
  | nil => exact Or.inl ⟨List.append_nil earlier ▸ pending, nofun⟩
  | append_singleton since entry ih =>
    rw [← List.append_assoc, pending_concat] at pending
    rcases pending with asked | ⟨before, last⟩
    · obtain ⟨time, what⟩ := entry
      obtain rfl := asked
      exact Or.inr ⟨time, List.mem_append_right _ List.mem_cons_self⟩
    · rcases ih before with ⟨whole, unheeded⟩ | ⟨time, member⟩
      · refine Or.inl ⟨whole, fun other member => ?_⟩
        rcases List.mem_append.mp member with among | new
        · exact unheeded other among
        · rw [List.mem_singleton.mp new]
          exact last
      · exact Or.inr ⟨time, List.mem_append_left _ member⟩

theorem not_pending_nil : ¬Pending [] := by
  rintro ⟨before, time, since, split, _⟩
  exact List.append_ne_nil_of_right_ne_nil before (List.cons_ne_nil _ _) split.symm

@[simp] theorem wait?_concat : wait? (diary ++ [entry]) = follow (wait? diary) entry := by
  rw [wait?, List.foldl_append]
  rfl

@[simp] theorem ready_concat (asked : Nat) : ready asked (since ++ [entry]) =
    if entry.what.isOpening then entry.time else ready asked since := by
  rw [ready, List.foldl_append]
  rfl

/-- After a cycle has ended the loop waits until another one begins. The wait begins anew with the
last handle that is dropped. -/
theorem wait?_of_ended (earlier : Diary) (time : Nat) (outcome : Cycle.Outcome) (since : Diary)
    (waits : ∀ entry ∈ since, entry.what.isOfCycle = false) :
    ∃ renewed, wait? (earlier ++ ⟨time, .ended outcome⟩ :: since) = some ⟨time, outcome, renewed⟩ ∧
      (renewed = time ∨ ⟨renewed, .dropped⟩ ∈ since) := by
  induction since using List.reverseRecOn with
  | nil => exact ⟨time, wait?_concat, Or.inl rfl⟩
  | append_singleton since entry ih =>
    obtain ⟨renewed, told, begun⟩ :=
      ih fun other member => waits other (List.mem_append_left _ member)
    have last := waits entry (List.mem_append_right _ List.mem_cons_self)
    rw [← List.cons_append, ← List.append_assoc, wait?_concat, told]
    obtain ⟨now, what⟩ := entry
    cases what with
    | dropped => exact ⟨now, rfl, Or.inr (List.mem_append_right _ List.mem_cons_self)⟩
    | began _ | ended _ => cases last
    | started | asked _ | stopped | returned =>
      exact ⟨renewed, rfl, begun.imp_right (List.mem_append_left _)⟩

/-- A wait begins with the end of a cycle, or anew with the last handle. -/
theorem renewed_of_wait? {wait : Wait} (told : diary.wait? = some wait) :
    wait.renewed = wait.since ∨ ⟨wait.renewed, .dropped⟩ ∈ diary := by
  induction diary using List.reverseRecOn generalizing wait with
  | nil => cases told
  | append_singleton diary entry ih =>
    rw [wait?_concat] at told
    obtain ⟨time, what⟩ := entry
    cases what with
    | ended outcome =>
      cases told
      exact Or.inl rfl
    | began cause => cases told
    | dropped =>
      obtain ⟨before, _, rfl⟩ := Option.map_eq_some_iff.mp told
      exact Or.inr (List.mem_append_right _ List.mem_cons_self)
    | started | asked _ | stopped | returned =>
      exact (ih told).imp_right (List.mem_append_left _)

end Diary

structure Timeline where
  scheduler : Scheduler
  clock : Nat
  diary : Diary

namespace Timeline

def build (enabled : Bool) (pacing : Pacing) (clock : Nat) : Timeline :=
  ⟨.build enabled pacing, clock, []⟩

def note (timeline : Timeline) (what : Happening) : Diary :=
  timeline.diary ++ [⟨timeline.clock, what⟩]

def undergo (timeline : Timeline) (event : Scheduler.Event) : Timeline :=
  { timeline with
    scheduler := timeline.scheduler.undergo event
    diary := timeline.note (.ofEvent timeline.scheduler event) }

def poll (timeline : Timeline) : Timeline :=
  let polled := timeline.scheduler.poll timeline.clock
  { timeline with
    scheduler := polled
    diary := timeline.diary ++ ((timeline.scheduler.deed? polled).map (⟨timeline.clock, ·⟩)).toList }

def finish (timeline : Timeline) (outcome : Cycle.Outcome) : Timeline :=
  { timeline with
    scheduler := timeline.scheduler.cycleEnded timeline.clock outcome
    diary := timeline.note (.ended outcome) }

/-- What may happen next. A cycle may take any time and end in any way. Time passes while the loop
has nothing to do, until its wait is over. -/
inductive Step : Timeline → Timeline → Prop where
  | undergoes (timeline : Timeline) (event : Scheduler.Event)
      (possible : event.IsPossible timeline.scheduler) : Step timeline (timeline.undergo event)
  | polls (timeline : Timeline) (idle : timeline.scheduler.stage.isIdle = true) :
    Step timeline timeline.poll
  | ends (timeline : Timeline) (outcome : Cycle.Outcome)
      (cycling : timeline.scheduler.stage = .cycling) : Step timeline (timeline.finish outcome)
  | passes (timeline : Timeline) (time : Nat) (later : timeline.clock ≤ time)
      (quiet : timeline.scheduler.poll timeline.clock = timeline.scheduler)
      (early : ∀ deadline, timeline.scheduler.deadline? = some deadline → time ≤ deadline) :
    Step timeline { timeline with clock := time }

abbrev Runs : Timeline → Timeline → Prop := Relation.ReflTransGen Step

/-- What the diary of a loop tells of the wait that it is in. -/
structure Keeps (pacing : Pacing) (timeline : Timeline) (delay deadline : Nat) (wait : Wait) :
    Prop where
  told : timeline.diary.wait? = some wait
  paced : delay = pacing.after wait.outcome
  renewed : wait.since ≤ wait.renewed
  past : wait.renewed ≤ timeline.clock
  early : timeline.clock ≤ deadline
  /-- A loop that still listens may not have noticed yet that its last handle is gone. -/
  attentive : timeline.scheduler.listening = true → deadline = wait.since + delay ∧
    (timeline.scheduler.handleHeld = true ∨ timeline.clock = wait.renewed)
  alone : timeline.scheduler.listening = false → deadline = wait.renewed + delay

/-- A loop whose diary tells the truth about it. -/
structure Sound (pacing : Pacing) (timeline : Timeline) : Prop where
  enabled : timeline.scheduler.enabled = true
  paced : timeline.scheduler.pacing = pacing
  stopped : timeline.scheduler.cancelled = true ↔ timeline.diary.Notes .stopped
  dropped : timeline.scheduler.handleHeld = false ↔ timeline.diary.Notes .dropped
  returned : timeline.scheduler.stage = .returned ↔ timeline.diary.Notes .returned
  told : timeline.scheduler.stage = .returned → timeline.scheduler.cancelled = true
  asked : timeline.scheduler.triggered = true ↔ timeline.diary.Pending
  alone : timeline.scheduler.listening = false →
    timeline.scheduler.triggered = false ∧ timeline.scheduler.handleHeld = false
  fresh : timeline.diary.Begun →
    timeline.scheduler.stage ≠ .built ∧ timeline.scheduler.stage ≠ .starting
  begun : timeline.scheduler.stage.isRunning = true → timeline.diary.Begun
  waits : ∀ delay deadline, timeline.scheduler.stage = .waiting delay deadline →
    ∃ wait, timeline.Keeps pacing delay deadline wait
  rests : timeline.diary.wait?.isSome = true → ∀ stage, timeline.scheduler.stage = stage →
    (∃ delay deadline, stage = .waiting delay deadline) ∨ stage = .returned

theorem sound_build (pacing : Pacing) (clock : Nat) : (build true pacing clock).Sound pacing where
  enabled := rfl
  paced := rfl
  stopped := ⟨nofun, fun noted => absurd noted (Diary.not_notes_nil _)⟩
  dropped := ⟨nofun, fun noted => absurd noted (Diary.not_notes_nil _)⟩
  returned := ⟨nofun, fun noted => absurd noted (Diary.not_notes_nil _)⟩
  told := nofun
  asked := ⟨nofun, fun pending => absurd pending Diary.not_pending_nil⟩
  alone := nofun
  fresh begun := absurd begun Diary.not_begun_nil
  begun := nofun
  waits := nofun
  rests := nofun

namespace Sound

variable {pacing : Pacing} {timeline : Timeline} (sound : timeline.Sound pacing)
include sound

/-- A request that a loop still has to take note of reaches it. -/
theorem listening (asked : timeline.scheduler.triggered = true) :
    timeline.scheduler.listening = true := by
  refine Bool.not_eq_false _ ▸ fun deaf => ?_
  rw [(sound.alone deaf).1] at asked
  cases asked

theorem start (possible : timeline.scheduler.stage = .built) :
    (timeline.undergo .start).Sound pacing := by
  have started : timeline.scheduler.undergo .start =
      { timeline.scheduler with stage := .starting } := by
    rw [Scheduler.undergo, Scheduler.start, if_pos possible]
  have unbegun : ¬timeline.diary.Begun := fun begun => (sound.fresh begun).1 possible
  have unreturned : ¬timeline.diary.Notes .returned := by
    rw [← sound.returned, possible]
    exact fun same => by cases same
  rw [undergo, started, note]
  exact { sound with
    stopped := by simpa using sound.stopped
    dropped := by simpa using sound.dropped
    returned := by simpa
    told := fun same => by cases same
    asked := by simpa using sound.asked
    fresh := by simpa
    begun := fun same => by cases same
    waits := fun _ _ same => by cases same
    rests := fun told => by simpa using sound.rests (by simpa using told) _ possible }

theorem trigger (held : timeline.scheduler.handleHeld = true) :
    (timeline.undergo .trigger).Sound pacing := by
  rw [undergo, Scheduler.undergo, Scheduler.trigger, note, Happening.ofEvent, Scheduler.trigger]
  by_cases elapsed : timeline.scheduler.stage = .returned
  · rw [if_pos elapsed]
    exact { sound with
      stopped := by simpa using sound.stopped
      dropped := by simpa using sound.dropped
      returned := by simpa using sound.returned
      asked := by simpa using sound.asked
      fresh := by simpa using sound.fresh
      begun := by simpa using sound.begun
      waits := fun delay deadline waiting => by rw [elapsed] at waiting; cases waiting
      rests := by simpa using sound.rests }
  · rw [if_neg elapsed]
    exact { sound with
      stopped := by simpa using sound.stopped
      dropped := by simpa using sound.dropped
      returned := by simpa using sound.returned
      asked := by simp
      alone := fun deaf => by simpa [held] using sound.alone deaf
      fresh := by simpa using sound.fresh
      begun := by simpa using sound.begun
      waits := fun delay deadline waiting => by
        obtain ⟨wait, keeps⟩ := sound.waits delay deadline waiting
        exact ⟨wait, { keeps with told := by simpa using keeps.told }⟩
      rests := by simpa using sound.rests }

theorem cancel : (timeline.undergo .cancel).Sound pacing := by
  rw [undergo, Scheduler.undergo, Scheduler.cancel, note, Happening.ofEvent]
  exact { sound with
    stopped := by simp
    dropped := by simpa using sound.dropped
    returned := by simpa using sound.returned
    told := fun _ => rfl
    asked := by simpa using sound.asked
    fresh := by simpa using sound.fresh
    begun := by simpa using sound.begun
    waits := fun delay deadline waiting => by
      obtain ⟨wait, keeps⟩ := sound.waits delay deadline waiting
      exact ⟨wait, { keeps with told := by simpa using keeps.told }⟩
    rests := by simpa using sound.rests }

/-- A loop that has lost its last handle in a wait has not noticed yet. -/
theorem dropHandle (held : timeline.scheduler.handleHeld = true) :
    (timeline.undergo .dropHandle).Sound pacing := by
  have listens : timeline.scheduler.listening ≠ false := fun deaf => by
    simpa [held] using (sound.alone deaf).2
  rw [undergo, Scheduler.undergo, Scheduler.dropHandle, note, Happening.ofEvent]
  exact { sound with
    stopped := by simpa using sound.stopped
    dropped := by simp
    returned := by simpa using sound.returned
    asked := by simpa using sound.asked
    alone := fun deaf => absurd deaf listens
    fresh := by simpa using sound.fresh
    begun := by simpa using sound.begun
    waits := fun delay deadline waiting => by
      obtain ⟨wait, keeps⟩ := sound.waits delay deadline waiting
      exact ⟨{ wait with renewed := timeline.clock }, { keeps with
        told := by simp [keeps.told]
        renewed := Nat.le_trans keeps.renewed keeps.past
        past := Nat.le_refl _
        attentive := fun heeds => ⟨(keeps.attentive heeds).1, Or.inr rfl⟩
        alone := fun deaf => absurd deaf listens }⟩
    rests := fun told => sound.rests (by simpa using told) }

theorem undergo (event : Scheduler.Event) (possible : event.IsPossible timeline.scheduler) :
    (timeline.undergo event).Sound pacing :=
  match event with
  | .start => sound.start possible
  | .trigger => sound.trigger possible
  | .cancel => sound.cancel
  | .dropHandle => sound.dropHandle possible

theorem poll (idle : timeline.scheduler.stage.isIdle = true) : timeline.poll.Sound pacing := by
  have unreturned : ¬timeline.diary.Notes .returned := fun noted => by
    rw [sound.returned.mpr noted] at idle
    cases idle
  have acts := Scheduler.acts_poll idle timeline.clock
  rw [Timeline.poll]
  generalize timeline.scheduler.deed? (timeline.scheduler.poll timeline.clock) = deed? at acts ⊢
  generalize timeline.scheduler.poll timeline.clock = polled at acts ⊢
  cases acts with
  | returns told =>
    exact { sound with
      stopped := by simpa using sound.stopped
      dropped := by simpa using sound.dropped
      returned := by simp
      told := fun _ => told.resolve_right (by simp [sound.enabled])
      asked := by simpa using sound.asked
      fresh := by simp
      begun := fun same => by cases same
      waits := fun _ _ same => by cases same
      rests := fun _ stage same => Or.inr same.symm }
  | begins starting free =>
    exact { sound with
      stopped := by simpa using sound.stopped
      dropped := by simpa using sound.dropped
      returned := by simpa
      told := fun same => by cases same
      asked := by simpa using sound.asked
      fresh := by simp
      begun := by simp
      waits := fun _ _ same => by cases same
      rests := by simp }
  | heeds delay deadline waiting free listens asked =>
    exact { sound with
      stopped := by simpa using sound.stopped
      dropped := by simpa using sound.dropped
      returned := by simpa
      told := fun same => by cases same
      asked := by simp
      alone := fun deaf => by simp [listens] at deaf
      fresh := by simp
      begun := by simp
      waits := fun _ _ same => by cases same
      rests := by simp }
  | turnsAway delay deadline waiting listens unasked alone =>
    obtain ⟨wait, keeps⟩ := sound.waits delay deadline waiting
    have now : timeline.clock = wait.renewed := by
      simpa [alone] using (keeps.attentive listens).2
    exact { sound with
      stopped := by simpa using sound.stopped
      dropped := by simpa using sound.dropped
      returned := by simpa
      told := fun same => by cases same
      asked := by simpa using sound.asked
      alone := fun _ => ⟨unasked, alone⟩
      fresh := by simp
      begun := fun _ => by simpa using sound.begun (by rw [waiting]; rfl)
      waits := fun _ _ same => by
        cases same
        exact ⟨wait, { keeps with
          told := by simpa using keeps.told
          early := Nat.le_add_right ..
          attentive := fun same => by cases same
          alone := fun _ => by rw [now] }⟩
      rests := fun _ stage same => Or.inl ⟨_, _, same.symm⟩ }
  | goesOn delay deadline waiting free elapsed heedless =>
    exact { sound with
      stopped := by simpa using sound.stopped
      dropped := by simpa using sound.dropped
      returned := by simpa
      told := fun same => by cases same
      asked := by simpa using sound.asked
      fresh := by simp
      begun := by simp
      waits := fun _ _ same => by cases same
      rests := by simp }
  | waits delay deadline waiting early heedless => simpa using sound

theorem finish (cycling : timeline.scheduler.stage = .cycling) (outcome : Cycle.Outcome) :
    (timeline.finish outcome).Sound pacing := by
  rw [Timeline.finish, Scheduler.cycleEnded, note]
  exact { sound with
    stopped := by simpa using sound.stopped
    dropped := by simpa using sound.dropped
    returned := by simpa [cycling] using sound.returned
    told := fun same => by cases same
    asked := by simpa using sound.asked
    fresh := by simp
    begun := fun _ => by simpa using sound.begun (by rw [cycling]; rfl)
    waits := fun delay deadline waiting => by
      cases waiting
      exact ⟨⟨timeline.clock, outcome, timeline.clock⟩, {
        told := by simp
        paced := by rw [sound.paced]
        renewed := Nat.le_refl _
        past := Nat.le_refl _
        early := Nat.le_add_right ..
        attentive := fun _ => ⟨rfl, Or.inr rfl⟩
        alone := fun _ => rfl }⟩
    rests := fun _ stage same => Or.inl ⟨_, _, same.symm⟩ }

theorem pass {time : Nat} (later : timeline.clock ≤ time)
    (quiet : timeline.scheduler.poll timeline.clock = timeline.scheduler)
    (early : ∀ deadline, timeline.scheduler.deadline? = some deadline → time ≤ deadline) :
    Sound pacing { timeline with clock := time } :=
  { sound with
    waits := fun delay deadline waiting => by
      obtain ⟨wait, keeps⟩ := sound.waits delay deadline waiting
      have heedless := Scheduler.waits_of_quiet (by rw [waiting]; rfl) quiet
      exact ⟨wait, { keeps with
        past := Nat.le_trans keeps.past later
        early := early deadline (by rw [Scheduler.deadline?, waiting])
        attentive := fun listens =>
          ⟨(keeps.attentive listens).1, Or.inl (heedless.2 listens).2⟩ }⟩ }

/-- A loop that listens and has its handle counts from the end of the cycle, any other one from when
it last began to wait. -/
theorem deadline_eq {delay deadline : Nat} {wait : Wait}
    (keeps : timeline.Keeps pacing delay deadline wait)
    (held : timeline.scheduler.listening = true → timeline.scheduler.handleHeld = true) :
    deadline = wait.renewed + delay := by
  cases listens : timeline.scheduler.listening with
  | true =>
    have undropped : ¬timeline.diary.Notes .dropped := by
      rw [← sound.dropped, held listens]
      exact Bool.noConfusion
    have same := (Diary.renewed_of_wait? keeps.told).resolve_right fun dropped =>
      undropped ⟨_, dropped, rfl⟩
    rw [same]
    exact (keeps.attentive listens).1
  | false => exact keeps.alone listens

end Sound

theorem Step.sound {pacing : Pacing} {before after : Timeline} (step : before.Step after)
    (sound : before.Sound pacing) : after.Sound pacing := by
  cases step with
  | undergoes event possible => exact sound.undergo event possible
  | polls idle => exact sound.poll idle
  | ends outcome cycling => exact sound.finish cycling outcome
  | passes time later quiet early => exact sound.pass later quiet early

/-- Whatever happens to a loop, its diary tells the truth about it. -/
theorem Runs.sound {pacing : Pacing} {start now : Timeline} (runs : start.Runs now)
    (sound : start.Sound pacing) : now.Sound pacing := by
  induction runs with
  | refl => exact sound
  | tail _ step ih => exact step.sound ih

@[simp] theorem note_inj {timeline : Timeline} {what other : Happening} :
    timeline.note what = timeline.note other ↔ what = other := by
  simp [note]

theorem diary_poll (timeline : Timeline) :
    timeline.poll.diary =
      ((timeline.scheduler.deed? (timeline.scheduler.poll timeline.clock)).map timeline.note).getD
        timeline.diary := by
  rw [poll]
  cases timeline.scheduler.deed? (timeline.scheduler.poll timeline.clock) with
  | none => exact List.append_nil _
  | some what => rfl

theorem Step.diary {before after : Timeline} (step : before.Step after) :
    after.diary = before.diary ∨ ∃ what, after.diary = before.note what := by
  cases step with
  | undergoes event possible => exact Or.inr ⟨_, rfl⟩
  | polls idle =>
    rw [diary_poll]
    cases before.scheduler.deed? (before.scheduler.poll before.clock) with
    | none => exact Or.inl rfl
    | some what => exact Or.inr ⟨what, rfl⟩
  | ends outcome cycling => exact Or.inr ⟨_, rfl⟩
  | passes time later quiet early => exact Or.inl rfl

theorem Step.origin {before after : Timeline} (step : before.Step after) {earlier later : Diary}
    {entry : Entry} (split : after.diary = earlier ++ entry :: later) :
    (∃ front, before.diary = earlier ++ entry :: front) ∨ before.diary = earlier ∧
      before.clock = entry.time ∧ after.diary = before.note entry.what := by
  rcases step.diary with same | ⟨what, noted⟩
  · exact Or.inl ⟨later, same.symm.trans split⟩
  · rcases History.split_concat (noted.symm.trans split) with ⟨_, rfl, rfl⟩ | ⟨front, _, whole⟩
    · exact Or.inr ⟨rfl, rfl, noted⟩
    · exact Or.inl ⟨front, whole⟩

theorem Runs.exists_noted {start now : Timeline} (runs : start.Runs now)
    (fresh : start.diary = []) {earlier later : Diary} {entry : Entry}
    (split : now.diary = earlier ++ entry :: later) :
    ∃ before after, start.Runs before ∧ before.Step after ∧ after.Runs now ∧
      before.diary = earlier ∧ before.clock = entry.time ∧
      after.diary = before.note entry.what := by
  induction runs generalizing later with
  | refl =>
    rw [fresh] at split
    exact absurd split.symm (List.append_ne_nil_of_right_ne_nil _ (List.cons_ne_nil _ _))
  | @tail between now runs step ih =>
    rcases step.origin split with ⟨front, whole⟩ | ⟨same, time, noted⟩
    · obtain ⟨before, after, first, noted, since, rest⟩ := ih whole
      exact ⟨before, after, first, noted, since.tail step, rest⟩
    · exact ⟨between, now, runs, step, .refl, same, time, noted⟩

theorem Step.noted {before after : Timeline} {what : Happening} (step : before.Step after)
    (noted : after.diary = before.note what) :
    (∃ event, what = .ofEvent before.scheduler event) ∨ (∃ outcome, what = .ended outcome) ∨
      before.scheduler.stage.isIdle = true ∧
        before.scheduler.Acts before.clock (some what) after.scheduler := by
  cases step with
  | undergoes event possible => exact Or.inl ⟨event, (note_inj.mp noted).symm⟩
  | polls idle =>
    have acts := Scheduler.acts_poll idle before.clock
    rw [diary_poll] at noted
    cases deed : before.scheduler.deed? (before.scheduler.poll before.clock) with
    | none => simp [deed, note] at noted
    | some other =>
      rw [deed] at acts noted
      obtain rfl := note_inj.mp noted
      exact Or.inr (Or.inr ⟨idle, acts⟩)
  | ends outcome cycling => exact Or.inr (Or.inl ⟨outcome, (note_inj.mp noted).symm⟩)
  | passes time later quiet early => simp [note] at noted

theorem Step.begins {before after : Timeline} {cause : Scheduler.Cause} (step : before.Step after)
    (noted : after.diary = before.note (.began cause)) :
    before.scheduler.stage.isIdle = true ∧
      before.scheduler.Acts before.clock (some (.began cause)) after.scheduler := by
  rcases step.noted noted with ⟨event, same⟩ | ⟨outcome, same⟩ | acts
  · cases event <;> cases same
  · cases same
  · exact acts

/-- A call for a cycle is granted by the loop as it is then. -/
theorem Step.asks {before after : Timeline} {granted : Bool} (step : before.Step after)
    (noted : after.diary = before.note (.asked granted)) :
    granted = before.scheduler.trigger.1 := by
  rcases step.noted noted with ⟨event, same⟩ | ⟨outcome, same⟩ | ⟨_, acts⟩
  · cases event <;> cases same
    rfl
  · cases same
  · cases acts

/-- The loop can act on what it was asked for as soon as it is said to be ready. -/
def Prompt (timeline : Timeline) : Prop :=
  ∀ earlier time since, timeline.diary = earlier ++ ⟨time, .asked true⟩ :: since →
    ¬Diary.Begun since → timeline.scheduler.stage.isIdle = true →
    timeline.scheduler.cancelled = false → timeline.clock = Diary.ready time since

theorem prompt_build (pacing : Pacing) (clock : Nat) : (build true pacing clock).Prompt := by
  intro earlier time since split
  exact absurd split.symm (List.append_ne_nil_of_right_ne_nil _ (List.cons_ne_nil _ _))

theorem Sound.not_quiet {pacing : Pacing} {timeline : Timeline} (sound : timeline.Sound pacing)
    (pending : timeline.diary.Pending) (idle : timeline.scheduler.stage.isIdle = true) :
    timeline.scheduler.poll timeline.clock ≠ timeline.scheduler := by
  intro quiet
  have asked := sound.asked.mpr pending
  have unasked := ((Scheduler.waits_of_quiet idle quiet).2 (sound.listening asked)).1
  rw [asked] at unasked
  cases unasked

/-- An entry comes to the diary. If it says that the loop may act from now on, that is why it can;
otherwise it could before. -/
theorem prompt_note {scheduler : Scheduler} {timeline : Timeline} {what : Happening}
    (prompt : timeline.Prompt)
    (before : what.isOpening = true ∨ (scheduler.stage.isIdle = true →
      scheduler.cancelled = false → timeline.scheduler.stage.isIdle = true ∧
        timeline.scheduler.cancelled = false)) :
    Prompt ⟨scheduler, timeline.clock, timeline.note what⟩ := by
  intro earlier time since split unbegun idle free
  rcases History.split_concat split with ⟨rfl, _, same⟩ | ⟨front, rfl, whole⟩
  · exact (congrArg Entry.time same).symm
  · rw [Diary.ready_concat]
    split
    · rfl
    · rename_i closed
      obtain ⟨idle, free⟩ := before.resolve_left closed idle free
      exact prompt earlier time front whole (fun begun => unbegun (Diary.begun_concat.mpr
        (Or.inl begun))) idle free

theorem Step.prompt {pacing : Pacing} {before after : Timeline} (step : before.Step after)
    (sound : before.Sound pacing) (prompt : before.Prompt) : after.Prompt := by
  cases step with
  | undergoes event possible =>
    refine prompt_note prompt ?_
    cases event with
    | start => exact Or.inl rfl
    | trigger =>
      rw [Scheduler.undergo, Scheduler.trigger]
      split <;> exact Or.inr fun idle free => ⟨idle, free⟩
    | cancel => exact Or.inr fun _ free => by cases free
    | dropHandle => exact Or.inr fun idle free => ⟨idle, free⟩
  | polls able =>
    have acts := Scheduler.acts_poll able before.clock
    rw [poll]
    generalize before.scheduler.deed? (before.scheduler.poll before.clock) = deed? at acts ⊢
    generalize before.scheduler.poll before.clock = polled at acts ⊢
    intro earlier time since split unbegun idle free
    cases acts with
    | returns _ | begins _ _ | heeds _ _ _ _ _ _ | goesOn _ _ _ _ _ _ => cases idle
    | turnsAway _ _ _ _ _ _ | waits _ _ _ _ _ =>
      rw [Option.map_none, Option.toList_none, List.append_nil] at split
      exact prompt earlier time since split unbegun able free
  | ends outcome cycling => exact prompt_note prompt (Or.inl rfl)
  | passes time later quiet early =>
    intro earlier asked since split unbegun idle free
    have pending : before.diary.Pending := Diary.pending_of_asked split unbegun
    exact absurd quiet (sound.not_quiet pending idle)

theorem Runs.prompt {pacing : Pacing} {clock : Nat} {now : Timeline}
    (runs : (build true pacing clock).Runs now) : now.Prompt := by
  induction runs with
  | refl => exact prompt_build pacing clock
  | tail runs step ih => exact step.prompt (Runs.sound runs (sound_build pacing clock)) ih

end Timeline

end Archivist
