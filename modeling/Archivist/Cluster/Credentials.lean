import Archivist.Config.Settings

set_option autoImplicit false

namespace Archivist.Cluster

namespace Base64

/-- The sixty-four digits in order. -/
def alphabet : List Char :=
  "ABCDEFGHIJKLMNOPQRSTUVWXYZabcdefghijklmnopqrstuvwxyz0123456789+/".toList

def digit (value : Nat) : Char := alphabet.getD (value % 64) '='

/-- Three bytes make four digits; what is missing at the end is filled up with equal signs. -/
def encode : List UInt8 → List Char
  | [] => []
  | [a] =>
    let bits := a.toNat * Nat.pow 2 16
    [digit (bits / Nat.pow 2 18), digit (bits / Nat.pow 2 12), '=', '=']
  | [a, b] =>
    let bits := a.toNat * Nat.pow 2 16 + b.toNat * Nat.pow 2 8
    [digit (bits / Nat.pow 2 18), digit (bits / Nat.pow 2 12), digit (bits / Nat.pow 2 6), '=']
  | a :: b :: c :: rest =>
    let bits := a.toNat * Nat.pow 2 16 + b.toNat * Nat.pow 2 8 + c.toNat
    digit (bits / Nat.pow 2 18) :: digit (bits / Nat.pow 2 12) :: digit (bits / Nat.pow 2 6)
      :: digit bits :: encode rest

def ofText (text : String) : String := String.ofList (encode text.toUTF8.toList)

end Base64

end Cluster

/-- A key comes before a name. A name without a password goes with an empty one, and a password
without a name is of no use. -/
def ClusterSettings.authorization? (settings : ClusterSettings) : Option String :=
  match settings.apiKey, settings.username with
  | some key, _ => some ("ApiKey " ++ key)
  | none, some name =>
    some ("Basic " ++ Cluster.Base64.ofText (name ++ ":" ++ settings.password.getD ""))
  | none, none => none

end Archivist
