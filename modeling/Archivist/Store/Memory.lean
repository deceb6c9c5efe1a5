import Archivist.Store.Holdings

set_option autoImplicit false

namespace Archivist

/-- How a store that was told to fail answers. -/
inductive FaultKind where
  | outage
  | refusal
deriving Repr, DecidableEq

/-- The calls of one operation that fail next: how many, and those whose target begins with a
text. -/
structure Fault where
  operation : Operation
  kind : FaultKind
  beginning : String
  remaining : Nat
deriving Repr, DecidableEq

namespace Fault

def hits (fault : Fault) (call : Call) : Bool :=
  fault.operation = call.operation && 0 < fault.remaining
    && fault.beginning.toList.isPrefixOf call.target.toList

def failure (fault : Fault) (call : Call) : StoreFailure :=
  match fault.kind with
  | .outage =>
    .transient ("injected " ++ call.operation.title ++ " failure on '" ++ call.target ++ "'")
  | .refusal =>
    .rejected 400 ("injected " ++ call.operation.title ++ " rejection on '" ++ call.target ++ "'")

end Fault

structure MemoryStore where
  holdings : Holdings
  /-- At most one fault for each operation. -/
  faults : List Fault
  /-- The calls so far, the last one first. -/
  history : List (Operation × String)

namespace MemoryStore

def empty : MemoryStore := ⟨.empty, [], []⟩

/-- A fault takes the place of the one that was armed for its operation. -/
def arm (store : MemoryStore) (fault : Fault) : MemoryStore :=
  { store with
    faults := fault :: store.faults.filter fun other => other.operation ≠ fault.operation }

def log (store : MemoryStore) : List (Operation × String) := store.history.reverse

def countDown (fault : Fault) (call : Call) : Fault :=
  if fault.hits call then { fault with remaining := fault.remaining - 1 } else fault

/-- Every call is written down. A call that a fault hits fails and does nothing. -/
def handle (store : MemoryStore) (call : Call) : call.Reply × MemoryStore :=
  let noted := { store with history := (call.operation, call.target) :: store.history }
  match store.faults.find? (·.hits call) with
  | some fault =>
    (.error (fault.failure call),
      { noted with faults := store.faults.map (countDown · call) })
  | none =>
    let answered := store.holdings.perform call
    (answered.1, { noted with holdings := answered.2 })

/-- A call that a fault hits is not carried out, so it cannot break off. -/
def breaksOff (store : MemoryStore) (call : Call) : Bool :=
  (store.faults.find? (·.hits call)).isNone && store.holdings.breaksOff call

end MemoryStore

end Archivist
