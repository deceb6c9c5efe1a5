import Archivist.Json.Value

set_option autoImplicit false

namespace Archivist.Config

/-- No setting takes a number with a point or an exponent, so such a number is not kept. -/
inductive Tree where
  | null
  | bool (value : Bool)
  | integer (value : Int)
  | real
  | character (value : Char)
  | text (value : String)
  | list (items : List Tree)
  /-- The members in the order of their keys, each key once. -/
  | table (members : List (String × Tree))
deriving Repr, Inhabited

namespace Tree

def empty : Tree := .table []

mutual

def ofJson : Json.Value → Tree
  | .null => .null
  | .bool value => .bool value
  | .number (.integer value) => .integer value
  | .number (.real _) => .real
  | .text value => .text value
  | .array items => .list (ofItems items)
  | .object members => .table (ofMembers members)

def ofItems : List Json.Value → List Tree
  | [] => []
  | item :: rest => ofJson item :: ofItems rest

def ofMembers : List (String × Json.Value) → List (String × Tree)
  | [] => []
  | (key, value) :: rest => (key, ofJson value) :: ofMembers rest

end

def nest (value : Tree) : List String → Tree
  | [] => value
  | key :: rest => .table [(key, value.nest rest)]

mutual

/-- Lays one tree over another: tables are joined key by key, and anything else is replaced. -/
def overlay (base : Tree) : Tree → Tree
  | .table added =>
    match base with
    | .table members => .table (overlayAll members added)
    | _ => .table added
  | other => other

def overlayAll (members : List (String × Tree)) : List (String × Tree) → List (String × Tree)
  | [] => members
  | (key, value) :: rest =>
    let joined :=
      match Json.memberOf? key members with
      | some held => overlay held value
      | none => value
    overlayAll (Json.insertMember key joined members) rest

end

end Tree

end Archivist.Config
