import Archivist.Proofs.Store.Sharing

set_option autoImplicit false

namespace Archivist

structure Party (Result : Type) where
  recalls : String → Bool
  work : Work Result

/-- Two parties and the store that they share. -/
structure Duo (Result : Type) where
  held : Holdings
  left : Party Result
  right : Party Result

inductive Side where
  | left
  | right

def Backend.performed (call : Call) (now : Holdings) : Option call.Reply × Holdings :=
  (some (now.perform call).1, now.after call)

variable {Result : Type}

namespace Party

def isBusy (party : Party Result) : Bool :=
  match party.work with
  | .ask _ _ => true
  | _ => false

def act (party : Party Result) (held : Holdings) : Holdings × Party Result :=
  match party.work with
  | .ask action resume =>
    let served := Backend.serve Backend.performed action ⟨held, party.recalls⟩
    (served.2.store, ⟨served.2.recalls, resume served.1⟩)
  | _ => (held, party)

end Party

namespace Duo

def actLeft (duo : Duo Result) : Duo Result :=
  ⟨(duo.left.act duo.held).1, (duo.left.act duo.held).2, duo.right⟩

def actRight (duo : Duo Result) : Duo Result :=
  ⟨(duo.right.act duo.held).1, duo.left, (duo.right.act duo.held).2⟩

/-- Takes the next action of one side, or of the other one when that side has none left. -/
def step (duo : Duo Result) : Side → Duo Result
  | .left => if duo.left.isBusy then duo.actLeft else duo.actRight
  | .right => if duo.right.isBusy then duo.actRight else duo.actLeft

def run : Nat → (Nat → Side) → Duo Result → Duo Result
  | 0, _, duo => duo
  | steps + 1, schedule, duo => run steps (fun turn => schedule (turn + 1)) (duo.step (schedule 0))

end Duo

structure Chains (steps : Holdings → Holdings → Prop) : Prop where
  refl : ∀ held, steps held held
  trans : ∀ {first second third}, steps first second → steps second third → steps first third

variable {ours theirs : Holdings → Holdings → Prop} {done : Result → Holdings → Prop}

namespace Party

/-- However others go on, a party keeps to its terms and ends as it should. -/
def Keeps (ours theirs : Holdings → Holdings → Prop) (done : Result → Holdings → Prop)
    (party : Party Result) (held : Holdings) : Prop :=
  ∃ deeds, ∀ later, theirs held later →
    (Backend.company theirs ours).Ensures (fun result after => done result after.store.held)
      party.work ⟨⟨later, deeds⟩, party.recalls⟩

theorem Keeps.goOn {party : Party Result} {held later : Holdings}
    (keeps : party.Keeps ours theirs done held) (chains : Chains theirs)
    (relied : theirs held later) : party.Keeps ours theirs done later := by
  obtain ⟨deeds, ensured⟩ := keeps
  exact ⟨deeds, fun last further => ensured last (chains.trans relied further)⟩

theorem Keeps.act {recalls : String → Bool} {action : Action} {held : Holdings}
    {resume : action.Yield → Work Result} (chains : Chains theirs) (own : Chains ours)
    (keeps : Keeps ours theirs done ⟨recalls, .ask action resume⟩ held) :
    ours held (Party.act ⟨recalls, .ask action resume⟩ held).1 ∧
      Keeps ours theirs done (Party.act ⟨recalls, .ask action resume⟩ held).2
        (Party.act ⟨recalls, .ask action resume⟩ held).1 := by
  obtain ⟨deeds, ensured⟩ := keeps
  cases action with
  | attempt call limit =>
    have served : ∀ later, theirs (held.after call) later →
        (Backend.company theirs ours).service (.attempt call limit) ⟨⟨held, deeds⟩, recalls⟩
          (some (held.perform call).1) ⟨⟨later, deeds ++ [⟨call, held⟩]⟩, recalls⟩ :=
      fun later relied => ⟨Backend.shared_of_relies relied, rfl⟩
    have onward := (ensured held (chains.refl held)).2
    have proper := (onward _ _ (served _ (chains.refl _))).1
    refine ⟨proper ⟨call, held⟩ (List.mem_append_right deeds List.mem_cons_self), ?_⟩
    exact ⟨deeds ++ [Deed.mk call held], fun later relied =>
      (onward _ _ (served later relied)).2⟩
  | recalls destination =>
    exact ⟨own.refl held, deeds, fun later relied =>
      ((ensured later relied).2 (recalls destination) _ ⟨rfl, rfl⟩).2⟩
  | remember destination =>
    exact ⟨own.refl held, deeds, fun later relied => ((ensured later relied).2 () _ rfl).2⟩
  | rest millis => exact absurd (ensured held (chains.refl held)).1 id
  | enter phase =>
    exact ⟨own.refl held, deeds, fun later relied => ((ensured later relied).2 () _ rfl).2⟩
  | count counter amount =>
    exact ⟨own.refl held, deeds, fun later relied => ((ensured later relied).2 () _ rfl).2⟩

theorem Keeps.finished {recalls : String → Bool} {held : Holdings} {result : Result}
    (chains : Chains theirs) (keeps : Keeps ours theirs done ⟨recalls, .finish result⟩ held) :
    done result held := by
  obtain ⟨_, ensured⟩ := keeps
  exact ensured held (chains.refl held)

theorem Keeps.not_crash {recalls : String → Bool} {held : Holdings} {cause : Crash}
    (chains : Chains theirs) (keeps : Keeps ours theirs done ⟨recalls, .crash cause⟩ held) :
    False := by
  obtain ⟨_, ensured⟩ := keeps
  exact ensured held (chains.refl held)

end Party

namespace Duo

variable {doneLeft doneRight : Result → Holdings → Prop}

def HasEnded (doneLeft doneRight : Result → Holdings → Prop) (duo : Duo Result) : Prop :=
  ∃ first second, duo.left.work = .finish first ∧ duo.right.work = .finish second ∧
    doneLeft first duo.held ∧ doneRight second duo.held

theorem exists_run_of_step {schedule : Nat → Side} {duo : Duo Result}
    (ended : ∃ steps, HasEnded doneLeft doneRight
      (run steps (fun turn => schedule (turn + 1)) (duo.step (schedule 0)))) :
    ∃ steps, HasEnded doneLeft doneRight (run steps schedule duo) := by
  obtain ⟨steps, ended⟩ := ended
  exact ⟨steps + 1, ended⟩

/-- Two parties that keep to their terms come to their ends under every schedule. -/
theorem exists_ended (chains : Chains ours) (others : Chains theirs) (schedule : Nat → Side)
    (duo : Duo Result) (left : duo.left.Keeps ours theirs doneLeft duo.held)
    (right : duo.right.Keeps theirs ours doneRight duo.held) :
    ∃ steps, HasEnded doneLeft doneRight (run steps schedule duo) := by
  obtain ⟨held, ⟨recalls, work⟩, ⟨otherRecalls, otherWork⟩⟩ := duo
  -- The induction is on the work of the left party, and within it on that of the right one.
  induction work generalizing held recalls otherRecalls otherWork schedule with
  | crash cause => exact (left.not_crash others).elim
  | finish first =>
    induction otherWork generalizing held otherRecalls schedule with
    | crash cause => exact (right.not_crash chains).elim
    | finish second =>
      exact ⟨0, first, second, rfl, rfl, left.finished others, right.finished chains⟩
    | ask action resume onRight =>
      obtain ⟨acted, still⟩ := right.act chains others
      apply exists_run_of_step
      cases schedule 0 <;> exact onRight _ _ _ _ (left.goOn others acted) still
  | ask action resume onLeft =>
    induction otherWork generalizing held otherRecalls schedule with
    | crash cause => exact (right.not_crash chains).elim
    | finish second =>
      obtain ⟨acted, still⟩ := left.act others chains
      apply exists_run_of_step
      cases schedule 0 <;> exact onLeft _ _ _ _ _ _ still (right.goOn chains acted)
    | ask next further onRight =>
      apply exists_run_of_step
      cases schedule 0 with
      | left =>
        obtain ⟨acted, still⟩ := left.act others chains
        exact onLeft _ _ _ _ _ _ still (right.goOn chains acted)
      | right =>
        obtain ⟨acted, still⟩ := right.act chains others
        exact onRight _ _ _ _ (left.goOn others acted) still

end Duo

end Archivist
