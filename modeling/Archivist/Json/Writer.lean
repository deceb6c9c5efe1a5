import Archivist.Json.Value

set_option autoImplicit false

namespace Archivist.Json

def hexDigit (value : Nat) : Char := (Nat.digitChar value)

/-- The short escapes stand for themselves; other control characters take four hexadecimal
digits. -/
def escape (character : Char) : List Char :=
  match character with
  | '"' => ['\\', '"']
  | '\\' => ['\\', '\\']
  | '\n' => ['\\', 'n']
  | '\r' => ['\\', 'r']
  | '\t' => ['\\', 't']
  | other =>
    if other = Char.ofNat 8 then ['\\', 'b']
    else if other = Char.ofNat 12 then ['\\', 'f']
    else if other.toNat < 32 then
      ['\\', 'u', '0', '0', hexDigit (other.toNat / 16), hexDigit (other.toNat % 16)]
    else [other]

def escapeAll (text : List Char) : List Char := text.flatMap escape

def quoted (text : String) : String :=
  String.ofList ('"' :: escapeAll text.toList ++ ['"'])

mutual

def Value.compact : Value → String
  | .null => "null"
  | .bool true => "true"
  | .bool false => "false"
  | .number value => value.text
  | .text value => quoted value
  | .array items => "[" ++ compactItems items ++ "]"
  | .object members => "\x7b" ++ compactMembers members ++ "\x7d"

def compactItems : List Value → String
  | [] => ""
  | [item] => item.compact
  | item :: rest => item.compact ++ "," ++ compactItems rest

def compactMembers : List (String × Value) → String
  | [] => ""
  | [(key, value)] => quoted key ++ ":" ++ value.compact
  | (key, value) :: rest => quoted key ++ ":" ++ value.compact ++ "," ++ compactMembers rest

end

end Archivist.Json
