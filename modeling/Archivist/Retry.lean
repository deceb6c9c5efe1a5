import Archivist.Dialogue
import Archivist.Numeral
import Archivist.Store.Failure

set_option autoImplicit false

namespace Archivist

def largestWord64 : Nat := Nat.pow 2 64 - 1

/-- Times are whole milliseconds. -/
structure RetryPolicy where
  retries : Nat
  backoffBase : Nat
  backoffLimit : Nat
  requestTimeout : Nat
deriving Repr, DecidableEq

/-- A time as seconds with the fewest decimals, or as milliseconds below one second. -/
def durationText (millis : Nat) : String :=
  if millis = 0 then "0ns"
  else if millis < 1000 then Numeral.ofNat millis ++ "ms"
  else
    let fraction := (Numeral.zeroPadded 3 (millis % 1000)).toList.reverse.dropWhile (· = '0')
    let decimals := if fraction.isEmpty then "" else "." ++ String.ofList fraction.reverse
    Numeral.ofNat (millis / 1000) ++ decimals ++ "s"

namespace RetryPolicy

/-- The pause after a failed attempt: doubled with every attempt within 64 bits, and held to the
limit unless the base itself is above it. -/
def backoff (policy : RetryPolicy) (attempt : Nat) : Nat :=
  let factor := if attempt < 64 then Nat.pow 2 attempt else largestWord64
  min (min (policy.backoffBase * factor) largestWord64)
    (max policy.backoffLimit policy.backoffBase)

/-- An attempt that gave no answer in time. -/
def timedOut (policy : RetryPolicy) (step : String) : StoreFailure :=
  .transient (step ++ " timed out after " ++ durationText policy.requestTimeout)

section Run

variable {Question : Type} {Answer : Question → Type} {Result : Type}

/-- The attempts from a given one on, while there are retries left. An attempt without an answer
took longer than the time limit. -/
def attempts (policy : RetryPolicy) (step : String)
    (attempt : Dialogue Answer (Option (Except StoreFailure Result)))
    (pause : Nat → Dialogue Answer Unit) :
    Nat → Nat → Dialogue Answer (Except StoreFailure Result)
  | retriesLeft, number =>
    attempt.bind fun answer =>
      match answer.getD (.error (policy.timedOut step)) with
      | .ok result => .finish (.ok result)
      | .error failure =>
        match retriesLeft with
        | 0 => .finish (.error failure)
        | retriesLeft + 1 =>
          if failure.isTransient then
            (pause (policy.backoff number)).bind fun _ =>
              attempts policy step attempt pause retriesLeft (number + 1)
          else .finish (.error failure)

/-- Makes a call again after a transient failure, as often as the policy allows. -/
def run (policy : RetryPolicy) (step : String)
    (attempt : Dialogue Answer (Option (Except StoreFailure Result)))
    (pause : Nat → Dialogue Answer Unit) : Dialogue Answer (Except StoreFailure Result) :=
  policy.attempts step attempt pause policy.retries 0

end Run

end RetryPolicy

end Archivist
