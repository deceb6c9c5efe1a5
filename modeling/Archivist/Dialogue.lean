set_option autoImplicit false

namespace Archivist

/-- The reasons for which a computation stops without a result. -/
inductive Crash where
  /-- A minimum age longer than any span of time. -/
  | ageTooLong
  /-- An instant outside the years that dates may have. -/
  | outsideCalendar
  /-- A date pattern that asks for more than a date. -/
  | patternNeedsClock
  /-- Records that are to be sorted and have no order. -/
  | noOrder
  /-- More turns than the computation had leave to take. -/
  | exhausted
deriving Repr, DecidableEq

/-- A tree of questions; every answer to a question selects how it goes on. -/
inductive Dialogue {Question : Type} (Answer : Question → Type) (Result : Type) where
  | finish (result : Result)
  | crash (cause : Crash)
  | ask (question : Question) (resume : Answer question → Dialogue Answer Result)

namespace Dialogue

variable {Question : Type} {Answer : Question → Type} {First Second Third : Type}

def bind (dialogue : Dialogue Answer First) (next : First → Dialogue Answer Second) :
    Dialogue Answer Second :=
  match dialogue with
  | .finish result => next result
  | .crash cause => .crash cause
  | .ask question resume => .ask question fun answer => (resume answer).bind next

instance : Monad (Dialogue Answer) where
  pure := .finish
  bind := bind

def question (question : Question) : Dialogue Answer (Answer question) := .ask question .finish

@[simp] theorem finish_bind (result : First) (next : First → Dialogue Answer Second) :
    (finish result : Dialogue Answer First).bind next = next result := rfl

@[simp] theorem crash_bind (cause : Crash) (next : First → Dialogue Answer Second) :
    (crash cause : Dialogue Answer First).bind next = crash cause := rfl

@[simp] theorem ask_bind (question : Question) (resume : Answer question → Dialogue Answer First)
    (next : First → Dialogue Answer Second) :
    (ask question resume).bind next = ask question fun answer => (resume answer).bind next := rfl

@[simp] theorem bind_finish (dialogue : Dialogue Answer First) :
    dialogue.bind finish = dialogue := by
  induction dialogue with
  | finish result => rfl
  | crash cause => rfl
  | ask question resume ih => simp only [ask_bind, ih]

theorem bind_bind (dialogue : Dialogue Answer First) (next : First → Dialogue Answer Second)
    (last : Second → Dialogue Answer Third) :
    (dialogue.bind next).bind last = dialogue.bind fun result => (next result).bind last := by
  induction dialogue with
  | finish result => rfl
  | crash cause => rfl
  | ask question resume ih => simp only [ask_bind, ih]

/-- Goes on only when the step before it succeeded. -/
def andThen {Failure : Type} (dialogue : Dialogue Answer (Except Failure First))
    (next : First → Dialogue Answer (Except Failure Second)) :
    Dialogue Answer (Except Failure Second) :=
  dialogue.bind fun
    | .ok result => next result
    | .error failure => .finish (.error failure)

theorem andThen_andThen {Failure : Type} (dialogue : Dialogue Answer (Except Failure First))
    (next : First → Dialogue Answer (Except Failure Second))
    (last : Second → Dialogue Answer (Except Failure Third)) :
    (dialogue.andThen next).andThen last =
      dialogue.andThen fun result => (next result).andThen last := by
  rw [andThen, andThen, bind_bind, andThen]
  refine congrArg dialogue.bind (funext fun outcome => ?_)
  cases outcome <;> rfl

def mapFailure {Failure Other : Type} (change : Failure → Other)
    (dialogue : Dialogue Answer (Except Failure First)) : Dialogue Answer (Except Other First) :=
  dialogue.bind fun
    | .ok result => .finish (.ok result)
    | .error failure => .finish (.error (change failure))

/-- Does something more when a step has failed, and fails all the same. -/
def onFailure {Failure : Type} (dialogue : Dialogue Answer (Except Failure First))
    (note : Dialogue Answer Unit) : Dialogue Answer (Except Failure First) :=
  dialogue.bind fun
    | .ok result => .finish (.ok result)
    | .error failure => note.bind fun _ => .finish (.error failure)

def interpret {Place : Type → Type} [Monad Place]
    (answer : (question : Question) → Place (Answer question)) :
    Dialogue Answer First → Place (Except Crash First)
  | .finish result => pure (.ok result)
  | .crash cause => pure (.error cause)
  | .ask question resume => do
    let reply ← answer question
    interpret answer (resume reply)

/-- Repeats a turn until it gives a result, at most as often as the fuel allows. -/
def unfold {State : Type} (turn : State → Dialogue Answer (State ⊕ First)) :
    Nat → State → Dialogue Answer First
  | 0, _ => .crash .exhausted
  | fuel + 1, state =>
    (turn state).bind fun
      | .inl state => unfold turn fuel state
      | .inr result => .finish result

end Dialogue

end Archivist
