import Archivist.Metrics.Textfile
import Archivist.Scheduler
import Archivist.Store.Memory

set_option autoImplicit false

namespace Archivist.Rehearsal

open Calendar (Instant)

inductive Interference where
  | none
  | fail (failure : StoreFailure)
  /-- The call seems to succeed and does not reach the store. -/
  | fake (count : Nat)
deriving Repr, DecidableEq

/-- Interference with the next calls of one operation whose target begins with a text. -/
structure Injection where
  operation : Operation
  beginning : String
  remaining : Nat
  /-- Milliseconds before the call is answered. -/
  delay : Nat
  interference : Interference
deriving Repr, DecidableEq

def Injection.hits (injection : Injection) (call : Call) : Bool :=
  injection.operation = call.operation && 0 < injection.remaining
    && injection.beginning.toList.isPrefixOf call.target.toList

/-- Takes the first injection that hits a call and counts it down. -/
def takeInjection (call : Call) : List Injection → Option Injection × List Injection
  | [] => (none, [])
  | injection :: rest =>
    if injection.hits call then
      (some injection, { injection with remaining := injection.remaining - 1 } :: rest)
    else
      let taken := takeInjection call rest
      (taken.1, injection :: taken.2)

def fakeReply (count : Nat) : (call : Call) → call.Reply
  | .search _ => .ok []
  | .bulkWrite .. => .ok ⟨count, []⟩
  | .bulkDelete .. => .ok ⟨count, []⟩
  | .reindex .. => .ok count
  | .deleteByQuery .. => .ok count
  | .ensureExists _ => .ok .alreadyExisted
  | .refresh _ => .ok ()

/-- Those who act in the world. Each remembers destinations of its own, and a guest, who calls the
store directly, leaves no trace. -/
inductive Party where
  | job
  | mover
  | namer
  | guest
deriving Repr, DecidableEq

structure World where
  store : MemoryStore
  injections : List Injection
  /-- The time that the archivers see. -/
  now : Instant
  /-- Milliseconds since the rehearsal began. -/
  elapsed : Nat
  phase : Phase
  counters : Counters
  files : FileTree
  remembered : List (Party × String)
  /-- The calls since they were last told, the last one first. -/
  trace : List String

namespace World

def begin (now : Instant) : World where
  store := .empty
  injections := []
  now := now
  elapsed := 0
  phase := .idle
  counters := .zero
  files := .empty
  remembered := []
  trace := []

def line (phase : Phase) (call : Call) : String :=
  phase.name ++ " " ++ call.operation.word ++ " " ++ call.target

/-- A call is noticed before anything becomes of it. -/
def notice (world : World) (party : Party) (call : Call) : Option Injection × World :=
  let taken := takeInjection call world.injections
  (taken.1,
    { world with
      injections := taken.2
      trace := if party = .guest then world.trace else line world.phase call :: world.trace })

def settle (world : World) (interference : Interference) (call : Call) : call.Reply × World :=
  match interference with
  | .fail failure => (.error failure, world)
  | .fake count => (fakeReply count call, world)
  | .none =>
    let answered := world.store.handle call
    (answered.1, { world with store := answered.2 })

def breaksOff (world : World) (interference : Interference) (call : Call) : Bool :=
  interference = .none && world.store.breaksOff call

/-- The calls that were noticed since the last telling, the first one first. -/
def tell (world : World) : List String × World := (world.trace.reverse, { world with trace := [] })

end World

structure Paused (Result : Type) where
  time : Nat
  wake : World → World × Work Result

inductive Progress (Result : Type) where
  | finished (result : Result)
  | crashed (cause : Crash)
  | paused (paused : Paused Result)

variable {Result : Type}

def goOn (world : World) (interference : Interference) (call : Call)
    (resume : Option call.Reply → Work Result) : World × Work Result :=
  let settled := world.settle interference call
  (settled.2,
    if world.breaksOff interference call then .crash .noOrder else resume (some settled.1))

/-- Carries on with some work until it ends or has to wait. An attempt that takes no time is never
given up. -/
def carryOn (party : Party) (world : World) : Work Result → World × Progress Result
  | .finish result => (world, .finished result)
  | .crash cause => (world, .crashed cause)
  | .ask (.recalls destination) resume =>
    carryOn party world (resume (world.remembered.contains (party, destination)))
  | .ask (.remember destination) resume =>
    carryOn party { world with remembered := (party, destination) :: world.remembered }
      (resume ())
  | .ask (.enter phase) resume => carryOn party { world with phase := phase } (resume ())
  | .ask (.count counter amount) resume =>
    carryOn party { world with counters := world.counters.add amount counter } (resume ())
  | .ask (.rest millis) resume =>
    if millis = 0 then carryOn party world (resume ())
    else (world, .paused ⟨world.elapsed + millis, fun world => (world, resume ())⟩)
  | .ask (.attempt call limit) resume =>
    match world.notice party call with
    | (injection?, world) =>
      let delay := (injection?.map (·.delay)).getD 0
      let interference := (injection?.map (·.interference)).getD .none
      if delay = 0 then
        let settled := world.settle interference call
        if world.breaksOff interference call then (settled.2, .crashed .noOrder)
        else carryOn party settled.2 (resume (some settled.1))
      else if delay ≤ limit then
        (world, .paused ⟨world.elapsed + delay, fun world =>
          goOn world interference call resume⟩)
      else if limit = 0 then carryOn party world (resume none)
      else (world, .paused ⟨world.elapsed + limit, fun world => (world, resume none)⟩)

/-- A call to the store that is waited for as long as it takes. -/
def patientCall (call : Call) : Work call.Reply :=
  (Dialogue.question (Action.attempt call (Nat.pow 2 64))).bind fun reply =>
    .finish (reply.getD (.error (.transient "no answer")))

end Archivist.Rehearsal
