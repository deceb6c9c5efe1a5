import Archivist.Dialogue

set_option autoImplicit false

/-!
What dialogues come to where their questions may be answered in more than one way. A setting says
which answers there are and what must hold on the way; `Setting.Ensures` says that it does hold and
how a dialogue ends, and `Setting.Ensures.holds` carries that to every point that is reached.
-/

namespace Archivist

variable {Question : Type} {Answer : Question → Type} {State Other First Second : Type}

/-- The answers a question may get in a state, and the states they lead to. -/
abbrev Service {Question : Type} (Answer : Question → Type) (State : Type) : Type :=
  (question : Question) → State → Answer question → State → Prop

/-- A dialogue has come from one state to another, with a rest still ahead of it. -/
inductive Dialogue.Reaches {Result : Type} (service : Service Answer State) :
    State → Dialogue Answer Result → State → Dialogue Answer Result → Prop where
  | here (state : State) (dialogue : Dialogue Answer Result) :
    Reaches service state dialogue state dialogue
  | onward {question : Question} {resume : Answer question → Dialogue Answer Result}
      {state between after : State} {rest : Dialogue Answer Result} (answer : Answer question)
      (answered : service question state answer between)
      (further : Reaches service between (resume answer) after rest) :
    Reaches service state (.ask question resume) after rest

namespace Dialogue

variable {Result : Type}

def result? : Dialogue Answer Result → Option Result
  | .finish result => some result
  | _ => none

theorem eq_finish {dialogue : Dialogue Answer Result} {result : Result}
    (came : dialogue.result? = some result) : dialogue = .finish result := by
  cases dialogue with
  | finish value =>
    cases came
    rfl
  | _ => cases came

theorem eq_finish_ok {Failure : Type} {dialogue : Dialogue Answer (Except Failure Result)}
    {result : Result} (came : dialogue.result?.bind Except.toOption = some result) :
    dialogue = .finish (.ok result) := by
  obtain ⟨outcome, ended, granted⟩ := Option.bind_eq_some_iff.mp came
  cases outcome with
  | error failure => cases granted
  | ok value =>
    cases granted
    exact eq_finish ended

/-- Answers the next questions one after the other, and gives the state and the rest that are left. -/
def follow (serve : (question : Question) → State → Answer question × State) :
    Nat → State → Dialogue Answer Result → State × Dialogue Answer Result
  | 0, state, dialogue => (state, dialogue)
  | left + 1, state, .ask question resume =>
    follow serve left (serve question state).2 (resume (serve question state).1)
  | _ + 1, state, dialogue => (state, dialogue)

theorem reaches_follow {service : Service Answer State}
    (serve : (question : Question) → State → Answer question × State)
    (served : ∀ question state, service question state (serve question state).1
      (serve question state).2)
    (questions : Nat) (state : State) (dialogue : Dialogue Answer Result) :
    dialogue.Reaches service state (dialogue.follow serve questions state).1
      (dialogue.follow serve questions state).2 := by
  induction questions generalizing state dialogue with
  | zero => exact .here state dialogue
  | succ left ih =>
    cases dialogue with
    | finish result => exact .here state _
    | crash cause => exact .here state _
    | ask question resume => exact .onward _ (served question state) (ih _ _)

namespace Reaches

variable {service : Service Answer State} {state between after : State}

/-- Where the answers of a service are those of another one that sees less, what is reached there is
seen to be reached here. -/
theorem map {other : Service Answer Other} (see : State → Other)
    (served : ∀ question state answer after, service question state answer after →
      other question (see state) answer (see after))
    {dialogue rest : Dialogue Answer Result} (reached : dialogue.Reaches service state after rest) :
    dialogue.Reaches other (see state) (see after) rest := by
  induction reached with
  | here state dialogue => exact .here (see state) dialogue
  | onward answer answered _ ih => exact .onward answer (served _ _ _ _ answered) ih

theorem trans {dialogue middle rest : Dialogue Answer Result}
    (first : dialogue.Reaches service state between middle)
    (second : middle.Reaches service between after rest) :
    dialogue.Reaches service state after rest := by
  induction first with
  | here state dialogue => exact second
  | onward answer answered _ ih => exact .onward answer answered (ih second)

theorem bind {First : Type} {dialogue : Dialogue Answer First} {result : First}
    (next : First → Dialogue Answer Result)
    (first : dialogue.Reaches service state between (.finish result)) :
    (dialogue.bind next).Reaches service state between (next result) := by
  generalize came : Dialogue.finish result = final at first
  induction first with
  | here state dialogue =>
    subst came
    exact .here state _
  | onward answer answered _ ih => exact .onward answer answered (ih came)

end Reaches

variable {service : Service Answer State} {state after : State} {result : Result}

theorem reaches_ask {question : Question} {resume : Answer question → Dialogue Answer Result} :
    (ask question resume).Reaches service state after (.finish result) ↔
      ∃ answer between, service question state answer between ∧
        (resume answer).Reaches service between after (.finish result) := by
  constructor
  · intro reached
    cases reached with
    | onward answer answered further => exact ⟨answer, _, answered, further⟩
  · intro given
    obtain ⟨answer, between, answered, further⟩ := given
    exact .onward answer answered further

theorem reaches_finish {value : Result} :
    (finish value : Dialogue Answer Result).Reaches service state after (.finish result) ↔
      state = after ∧ value = result := by
  constructor
  · intro reached
    cases reached
    exact ⟨rfl, rfl⟩
  · rintro ⟨rfl, rfl⟩
    exact .here _ _

theorem not_reaches_crash {cause : Crash} :
    ¬(crash cause : Dialogue Answer Result).Reaches service state after (.finish result) := by
  intro reached
  cases reached

theorem reaches_bind {First : Type} {dialogue : Dialogue Answer First}
    {next : First → Dialogue Answer Result} :
    (dialogue.bind next).Reaches service state after (.finish result) ↔
      ∃ value between, dialogue.Reaches service state between (.finish value) ∧
        (next value).Reaches service between after (.finish result) := by
  constructor
  · intro reached
    induction dialogue generalizing state with
    | finish value => exact ⟨value, state, .here _ _, reached⟩
    | crash cause => exact absurd reached not_reaches_crash
    | ask question resume ih =>
      obtain ⟨answer, between, answered, further⟩ := reaches_ask.mp reached
      obtain ⟨value, last, first, second⟩ := ih answer further
      exact ⟨value, last, .onward answer answered first, second⟩
  · rintro ⟨value, between, first, second⟩
    exact (first.bind next).trans second

theorem reaches_do {First : Type} {dialogue : Dialogue Answer First}
    {next : First → Dialogue Answer Result} :
    (dialogue >>= next).Reaches service state after (.finish result) ↔
      ∃ value between, dialogue.Reaches service state between (.finish value) ∧
        (next value).Reaches service between after (.finish result) :=
  reaches_bind

theorem reaches_unfold {Loop : Type} {turn : Loop → Dialogue Answer (Loop ⊕ Result)} {fuel : Nat}
    {loop : Loop} :
    (unfold turn (fuel + 1) loop).Reaches service state after (.finish result) ↔
      ∃ turned between, (turn loop).Reaches service state between (.finish turned) ∧
        match turned with
        | .inl next => (unfold turn fuel next).Reaches service between after (.finish result)
        | .inr value => between = after ∧ value = result := by
  rw [unfold, reaches_bind]
  refine exists_congr fun turned => exists_congr fun between => and_congr_right fun _ => ?_
  cases turned with
  | inl next => rfl
  | inr value => exact reaches_finish

end Dialogue

/-- A place for dialogues and the terms on which they are held there. -/
structure Setting (Answer : Question → Type) (State : Type) where
  service : Service Answer State
  /-- The questions that may be asked in a state. -/
  permits : Question → State → Prop
  /-- What holds after every answer. -/
  always : State → Prop
  /-- The reasons for which a dialogue may stop without a result. -/
  excuses : Crash → Prop

namespace Setting

/-- Where any answer may be given, and all that matters is what is asked. -/
def asking (asked : Question → Prop) : Setting Answer Unit where
  service _ _ _ _ := True
  permits question _ := asked question
  always _ := True
  excuses _ := True

variable (setting : Setting Answer State)

/-- From a state on a dialogue keeps to the terms of its setting, however it is answered, and ends
as it should. -/
def Ensures {Result : Type} (done : Result → State → Prop) :
    Dialogue Answer Result → State → Prop
  | .finish result, state => done result state
  | .crash cause, _ => setting.excuses cause
  | .ask question resume, state =>
    setting.permits question state ∧ ∀ answer after, setting.service question state answer after →
      setting.always after ∧ Ensures done (resume answer) after

variable {setting}

theorem ensures_bind (done : Second → State → Prop) (dialogue : Dialogue Answer First)
    (next : First → Dialogue Answer Second) (state : State) :
    setting.Ensures done (dialogue.bind next) state ↔
      setting.Ensures (fun result after => setting.Ensures done (next result) after) dialogue
        state := by
  induction dialogue generalizing state with
  | finish result => rfl
  | crash cause => rfl
  | ask question resume ih => simp only [Dialogue.ask_bind, Ensures, ih]

theorem ensures_do (done : Second → State → Prop) (dialogue : Dialogue Answer First)
    (next : First → Dialogue Answer Second) (state : State) :
    setting.Ensures done (dialogue >>= next) state ↔
      setting.Ensures (fun result after => setting.Ensures done (next result) after) dialogue
        state :=
  ensures_bind done dialogue next state

namespace Ensures

theorem mono {done other : First → State → Prop} {dialogue : Dialogue Answer First}
    {state : State} (ensured : setting.Ensures done dialogue state)
    (weaker : ∀ result after, done result after → other result after) :
    setting.Ensures other dialogue state := by
  induction dialogue generalizing state with
  | finish result => exact weaker result state ensured
  | crash cause => exact ensured
  | ask question resume ih =>
    refine ⟨ensured.1, fun answer after answered => ?_⟩
    obtain ⟨kept, onward⟩ := ensured.2 answer after answered
    exact ⟨kept, ih answer onward⟩

theorem bind {done : Second → State → Prop} {middle : First → State → Prop}
    {dialogue : Dialogue Answer First} {next : First → Dialogue Answer Second} {state : State}
    (first : setting.Ensures middle dialogue state)
    (second : ∀ result after, middle result after → setting.Ensures done (next result) after) :
    setting.Ensures done (dialogue.bind next) state :=
  (ensures_bind done dialogue next state).mpr (first.mono second)

/-- What is said about the ends of one dialogue in two settings holds together where the answers of
the first may be given in the second. There what holds in the first may be relied on. -/
theorem both {there : Setting Answer State} {done other : First → State → Prop}
    {dialogue : Dialogue Answer First} {state : State}
    (ensured : setting.Ensures done dialogue state) (also : there.Ensures other dialogue state)
    (served : ∀ question state answer after, setting.service question state answer after →
      setting.always after → there.service question state answer after) :
    setting.Ensures (fun result after => done result after ∧ other result after) dialogue
      state := by
  induction dialogue generalizing state with
  | finish result => exact ⟨ensured, also⟩
  | crash cause => exact ensured
  | ask question resume ih =>
    refine ⟨ensured.1, fun answer after answered => ?_⟩
    obtain ⟨kept, onward⟩ := ensured.2 answer after answered
    exact ⟨kept, ih answer onward (also.2 answer after (served _ _ _ _ answered kept)).2⟩

/-- At every point that a dialogue reaches, its terms hold and the rest of it still ensures the
end. -/
theorem holds {done : First → State → Prop} {dialogue rest : Dialogue Answer First}
    {state after : State} (ensured : setting.Ensures done dialogue state)
    (begun : setting.always state)
    (reached : dialogue.Reaches setting.service state after rest) :
    setting.always after ∧ setting.Ensures done rest after := by
  induction reached with
  | here state dialogue => exact ⟨begun, ensured⟩
  | onward answer answered _ ih =>
    obtain ⟨kept, onward⟩ := ensured.2 answer _ answered
    exact ih onward kept

/-- A setting is simulated by another one when related states stay related whatever is answered, and
the terms of the other one imply its own. -/
theorem simulate {other : Setting Answer Other} (related : State → Other → Prop)
    (permitted : ∀ question state there, related state there → other.permits question there →
      setting.permits question state)
    (answered : ∀ question state there answer after, related state there →
      other.permits question there → setting.service question state answer after →
        ∃ next, other.service question there answer next ∧ related after next)
    (kept : ∀ state there, related state there → other.always there → setting.always state)
    (excused : ∀ cause, other.excuses cause → setting.excuses cause)
    {done : First → Other → Prop} {dialogue : Dialogue Answer First} {state : State}
    {there : Other} (begun : related state there) (invariant : other.always there)
    (ensured : other.Ensures done dialogue there) :
    setting.Ensures (fun result after =>
      ∃ next, related after next ∧ other.always next ∧ done result next) dialogue state := by
  induction dialogue generalizing state there with
  | finish result => exact ⟨there, begun, invariant, ensured⟩
  | crash cause => exact excused cause ensured
  | ask question resume ih =>
    refine ⟨permitted question state there begun ensured.1, fun answer after served => ?_⟩
    obtain ⟨next, servedThere, onward⟩ :=
      answered question state there answer after begun ensured.1 served
    obtain ⟨always, rest⟩ := ensured.2 answer next servedThere
    exact ⟨kept after next onward always, ih answer onward always rest⟩

theorem keeps {asked : Question → Prop} {done : First → Prop} {dialogue : Dialogue Answer First}
    (asks : (Setting.asking asked).Ensures (fun result _ => done result) dialogue ())
    (invariant : State → Prop)
    (permitted : ∀ question state, asked question → invariant state →
      setting.permits question state)
    (answered : ∀ question state answer after, asked question → invariant state →
      setting.service question state answer after → invariant after)
    (kept : ∀ state, invariant state → setting.always state)
    (excused : ∀ cause, setting.excuses cause) {state : State} (begun : invariant state) :
    setting.Ensures (fun result after => done result ∧ invariant after) dialogue state := by
  refine (simulate (fun state _ => invariant state)
    (fun question state _ holds asks => permitted question state asks holds)
    (fun question state _ answer after holds asks served =>
      ⟨(), trivial, answered question state answer after asks holds served⟩)
    (fun state _ holds _ => kept state holds) (fun cause _ => excused cause) begun trivial
    asks).mono ?_
  intro result after reached
  obtain ⟨_, holds, _, ends⟩ := reached
  exact ⟨ends, holds⟩

theorem relax {other : Setting Answer State} {done : First → State → Prop}
    {dialogue : Dialogue Answer First} {state : State}
    (ensured : setting.Ensures done dialogue state)
    (served : ∀ question state answer after, other.service question state answer after →
      setting.service question state answer after)
    (permitted : ∀ question state, setting.permits question state → other.permits question state)
    (kept : ∀ state, setting.always state → other.always state)
    (excused : ∀ cause, setting.excuses cause → other.excuses cause) :
    other.Ensures done dialogue state := by
  induction dialogue generalizing state with
  | finish result => exact ensured
  | crash cause => exact excused cause ensured
  | ask question resume ih =>
    refine ⟨permitted question state ensured.1, fun answer after answered => ?_⟩
    obtain ⟨holds, onward⟩ := ensured.2 answer after (served _ _ _ _ answered)
    exact ⟨kept after holds, ih answer onward⟩

/-- A loop ends as it should when every turn either ends it so or leaves what the remaining turns
need, and when running out of turns is excused or never happens. -/
theorem unfold {Loop : Type} {turn : Loop → Dialogue Answer (Loop ⊕ First)}
    {done : First → State → Prop} (ready : Nat → Loop → State → Prop)
    (spent : ∀ loop state, ready 0 loop state → setting.excuses .exhausted)
    (turned : ∀ left loop state, ready (left + 1) loop state →
      setting.Ensures (fun outcome after =>
        match outcome with
        | .inl next => ready left next after
        | .inr result => done result after) (turn loop) state)
    (fuel : Nat) (loop : Loop) (state : State) (begun : ready fuel loop state) :
    setting.Ensures done (Dialogue.unfold turn fuel loop) state := by
  induction fuel generalizing loop state with
  | zero => exact spent loop state begun
  | succ left ih =>
    refine (turned left loop state begun).bind ?_
    intro turned after reached
    rcases turned with next | result
    · exact ih next after reached
    · exact reached

end Ensures

section Failing

variable {Failure Reason : Type}

theorem ensures_andThen (done : Except Failure Second → State → Prop)
    (dialogue : Dialogue Answer (Except Failure First))
    (next : First → Dialogue Answer (Except Failure Second)) (state : State) :
    setting.Ensures done (dialogue.andThen next) state ↔
      setting.Ensures (fun result after =>
        match result with
        | .ok value => setting.Ensures done (next value) after
        | .error failure => done (.error failure) after) dialogue state := by
  rw [Dialogue.andThen, ensures_bind]
  constructor <;> intro ensured <;> refine ensured.mono ?_ <;>
    rintro (failure | value) after reached <;> exact reached

theorem ensures_mapFailure (done : Except Reason First → State → Prop)
    (change : Failure → Reason) (dialogue : Dialogue Answer (Except Failure First))
    (state : State) :
    setting.Ensures done (dialogue.mapFailure change) state ↔
      setting.Ensures (fun result after => done (result.mapError change) after) dialogue
        state := by
  rw [Dialogue.mapFailure, ensures_bind]
  constructor <;> intro ensured <;> refine ensured.mono ?_ <;>
    rintro (failure | value) after reached <;> exact reached

theorem ensures_onFailure (done : Except Failure First → State → Prop)
    (note : Dialogue Answer Unit) (dialogue : Dialogue Answer (Except Failure First))
    (state : State) :
    setting.Ensures done (dialogue.onFailure note) state ↔
      setting.Ensures (fun result after =>
        match result with
        | .ok value => done (.ok value) after
        | .error failure =>
          setting.Ensures (fun _ later => done (.error failure) later) note after)
        dialogue state := by
  rw [Dialogue.onFailure, ensures_bind]
  constructor <;> intro ensured <;> refine ensured.mono ?_
  · intro outcome after reached
    rcases outcome with failure | value
    · exact (ensures_bind done note _ after).mp reached
    · exact reached
  · intro outcome after reached
    rcases outcome with failure | value
    · exact (ensures_bind done note _ after).mpr reached
    · exact reached

end Failing

end Setting

end Archivist
