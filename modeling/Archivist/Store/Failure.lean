import Archivist.Numeral

set_option autoImplicit false

namespace Archivist

inductive StoreFailure where
  /-- The call may succeed when it is made again. -/
  | transient (message : String)
  /-- The store understood the call and refused it. -/
  | rejected (status : Nat) (body : String)
  /-- The answer is not what the call asks for. -/
  | malformed (message : String)
  /-- Some of the records in one call failed. -/
  | items (failures : List String)
deriving Repr, DecidableEq

namespace StoreFailure

def isTransient : StoreFailure → Bool
  | .transient _ => true
  | _ => false

def isMissing : StoreFailure → Bool
  | .rejected status _ => status = 404
  | _ => false

def message : StoreFailure → String
  | .transient message => "transient store error: " ++ message
  | .rejected status body =>
    "store rejected request with status " ++ Numeral.ofNat status ++ ": " ++ body
  | .malformed message => "malformed store response: " ++ message
  | .items failures =>
    Numeral.ofNat failures.length ++ " item(s) failed: " ++ "; ".intercalate failures

end StoreFailure

end Archivist
