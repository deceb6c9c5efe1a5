import Archivist.Proofs.Dialogue.Ensures

set_option autoImplicit false

/-!
Any number of dialogues in front of one state. They are served question by question in any order,
and others may change the state in between. `Crowd.Kept.runs` carries what holds of each member to
every point of a run, when members and others leave alone what the members rely on.
-/

namespace Archivist

variable {Question : Type} {Answer : Question → Type} {State Result : Type}

/-- What a member asked, what it was answered, and the states before and after. -/
structure Turn (Answer : Question → Type) (State : Type) where
  number : Nat
  question : Question
  answer : Answer question
  before : State
  after : State

structure Crowd (Answer : Question → Type) (State Result : Type) where
  state : State
  members : List (Dialogue Answer Result)

def turnsOf (number : Nat) (turns : List (Turn Answer State)) : List (Turn Answer State) :=
  turns.filter fun turn => turn.number = number

theorem turnsOf_concat (number : Nat) (turns : List (Turn Answer State))
    (turn : Turn Answer State) : turnsOf number (turns ++ [turn]) =
      if turn.number = number then turnsOf number turns ++ [turn] else turnsOf number turns := by
  by_cases own : turn.number = number <;> simp [turnsOf, own]

namespace Crowd

/-- From a start some turns have been taken, in this order, and others have done what they may. -/
inductive Runs (service : Service Answer State) (others : State → State → Prop)
    (start : Crowd Answer State Result) :
    List (Turn Answer State) → Crowd Answer State Result → Prop where
  | here : Runs service others start [] start
  | meanwhile {turns : List (Turn Answer State)} {crowd : Crowd Answer State Result} {after : State}
    (ran : Runs service others start turns crowd) (moved : others crowd.state after) :
    Runs service others start turns ⟨after, crowd.members⟩
  | turn {turns : List (Turn Answer State)} {crowd : Crowd Answer State Result} {number : Nat}
    {question : Question} {resume : Answer question → Dialogue Answer Result}
    {answer : Answer question} {after : State} (ran : Runs service others start turns crowd)
    (asks : crowd.members[number]? = some (.ask question resume))
    (served : service question crowd.state answer after) :
    Runs service others start (turns ++ [⟨number, question, answer, crowd.state, after⟩])
      ⟨after, crowd.members.set number (resume answer)⟩

/-- What members keep to: `good` tells from the turns of a member, the state and what is left of it
whether it stands well, and `relies` what it takes for granted about all others. -/
structure Kept (service : Service Answer State) (others relies : State → State → Prop)
    (good : Nat → List (Turn Answer State) → State → Dialogue Answer Result → Prop) : Prop where
  refl : ∀ state, relies state state
  trans : ∀ {first second third}, relies first second → relies second third → relies first third
  moved : ∀ {state after}, others state after → relies state after
  stays : ∀ {number past state after member}, good number past state member →
    relies state after → good number past after member
  acts : ∀ {number past state question resume answer after},
    good number past state (.ask question resume) → service question state answer after →
      relies state after ∧
        good number (past ++ [⟨number, question, answer, state, after⟩]) after (resume answer)

variable {service : Service Answer State} {others relies : State → State → Prop}
  {good : Nat → List (Turn Answer State) → State → Dialogue Answer Result → Prop}
  {start crowd : Crowd Answer State Result} {turns : List (Turn Answer State)}

theorem Runs.length_members (ran : Runs service others start turns crowd) :
    crowd.members.length = start.members.length := by
  induction ran with
  | here => rfl
  | meanwhile ran moved ih => exact ih
  | turn ran asks served ih => rw [List.length_set, ih]

theorem Runs.member_of_idle {number : Nat} (ran : Runs service others start turns crowd)
    (idle : turnsOf number turns = []) : crowd.members[number]? = start.members[number]? := by
  induction ran with
  | here => rfl
  | meanwhile ran moved ih => exact ih idle
  | @turn turns crowd other question resume answer after ran asks served ih =>
    rw [turnsOf_concat] at idle
    by_cases own : other = number
    · rw [if_pos own] at idle
      exact absurd idle (List.concat_ne_nil _ _)
    · rw [if_neg own] at idle
      rw [List.getElem?_set_ne own, ih idle]

theorem Kept.runs (kept : Kept service others relies good)
    (begun : ∀ number member, start.members[number]? = some member →
      good number [] start.state member)
    (ran : Runs service others start turns crowd) :
    relies start.state crowd.state ∧
      ∀ number member, crowd.members[number]? = some member →
        good number (turnsOf number turns) crowd.state member := by
  -- A turn is good for the one who takes it, and what it does is relied on by all others.
  induction ran with
  | here => exact ⟨kept.refl start.state, begun⟩
  | meanwhile ran moved ih =>
    obtain ⟨relied, stands⟩ := ih
    have alike := kept.moved moved
    exact ⟨kept.trans relied alike, fun number member found =>
      kept.stays (stands number member found) alike⟩
  | @turn turns crowd acting question resume answer after ran asks served ih =>
    obtain ⟨relied, stands⟩ := ih
    obtain ⟨alike, onward⟩ := kept.acts (stands acting _ asks) served
    refine ⟨kept.trans relied alike, ?_⟩
    intro number member found
    rw [turnsOf_concat]
    -- Who acted has one turn more, and to all others only the state is a new one.
    by_cases own : acting = number
    · subst own
      have there : acting < crowd.members.length := (List.getElem?_eq_some_iff.mp asks).1
      rw [List.getElem?_set_self there, Option.some.injEq] at found
      subst found
      rw [if_pos rfl]
      exact onward
    · rw [List.getElem?_set_ne own] at found
      rw [if_neg own]
      exact kept.stays (stands number member found) alike

theorem member_of_result {number : Nat} {result : Result}
    (came : crowd.members[number]?.bind Dialogue.result? = some result) :
    crowd.members[number]? = some (.finish result) := by
  obtain ⟨member, found, ended⟩ := Option.bind_eq_some_iff.mp came
  rw [found, Dialogue.eq_finish ended]

section Play

variable (serve : (question : Question) → State → Answer question × State)

/-- Serves members in the order of a schedule; one that has nothing to ask is passed over. -/
def play : List Nat → Crowd Answer State Result →
    List (Turn Answer State) × Crowd Answer State Result
  | [], crowd => ([], crowd)
  | number :: schedule, crowd =>
    match crowd.members[number]? with
    | some (.ask question resume) =>
      let served := serve question crowd.state
      let played := play schedule ⟨served.2, crowd.members.set number (resume served.1)⟩
      (⟨number, question, served.1, crowd.state, served.2⟩ :: played.1, played.2)
    | _ => play schedule crowd

variable {serve}

theorem Runs.play (served : ∀ question state,
      service question state (serve question state).1 (serve question state).2)
    (schedule : List Nat) (ran : Runs service others start turns crowd) :
    Runs service others start (turns ++ (play serve schedule crowd).1)
      (play serve schedule crowd).2 := by
  induction schedule generalizing turns crowd with
  | nil => rwa [Crowd.play, List.append_nil]
  | cons number schedule ih =>
    unfold Crowd.play
    split
    · rename_i question resume asks
      have onward := ih (ran.turn asks (served question crowd.state))
      rwa [List.append_assoc] at onward
    · exact ih ran

end Play

end Crowd

end Archivist
