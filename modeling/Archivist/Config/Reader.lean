import Archivist.Config.Tree

set_option autoImplicit false

/-!
Reading typed settings out of a tree: scalars, records described field by field, and choices between
named variants. A record is read in the order in which the tree lists its members or items, and the
first problem ends the reading.
-/

namespace Archivist.Config

inductive ProblemKind where
  /-- The text of a settings file has no meaning. -/
  | malformed
  | wrongType
  /-- A number that its setting has no room for. -/
  | outOfRange
  | missingField
  /-- A record written as a list that ends before a field it cannot do without. -/
  | missingItem
  | unknownVariant
deriving Repr, DecidableEq

/-- What is wrong with a tree, and the keys and positions on the way to the place. -/
structure Problem where
  kind : ProblemKind
  path : List String
deriving Repr, DecidableEq

/-- How strictly records and choices are read. A record is a table or a list of its fields, and a
choice is a text or a table. In a single document such a list may not be longer than the record, and
such a table has one member. In settings merged from layers what goes beyond that is passed over. -/
inductive Form where
  | document
  | layers
deriving Repr, DecidableEq

abbrev Reader (Result : Type) := Form → List String → Tree → Except Problem Result

namespace Reader

variable {Result : Type}

def bool : Reader Bool
  | _, _, .bool value => .ok value
  | _, path, _ => .error ⟨.wrongType, path⟩

/-- An integer between two bounds, which belong to the range. -/
def integer (least greatest : Int) : Reader Int
  | _, path, .integer value =>
    if least ≤ value ∧ value ≤ greatest then .ok value else .error ⟨.outOfRange, path⟩
  | _, path, _ => .error ⟨.wrongType, path⟩

def word (bits : Nat) : Reader Nat := fun form path tree =>
  (integer 0 (Nat.pow 2 bits - 1) form path tree).map Int.toNat

def text : Reader String
  | _, _, .text value => .ok value
  | _, _, .character value => .ok (String.singleton value)
  | _, path, _ => .error ⟨.wrongType, path⟩

def optional (reader : Reader Result) : Reader (Option Result)
  | _, _, .null => .ok none
  | form, path, tree => (reader form path tree).map some

def items (reader : Reader Result) (form : Form) (path : List String) :
    Nat → List Tree → Except Problem (List Result)
  | _, [] => .ok []
  | position, item :: rest =>
    match reader form (path ++ [Numeral.ofNat position]) item with
    | .error problem => .error problem
    | .ok first => (items reader form path (position + 1) rest).map (first :: ·)

def list (reader : Reader Result) : Reader (List Result)
  | form, path, .list trees => items reader form path 0 trees
  | _, path, _ => .error ⟨.wrongType, path⟩

end Reader

structure Field (Result : Type) where
  name : String
  required : Bool
  read : Result → Reader Result

namespace Field

variable {Part Result : Type}

def omissible (name : String) (reader : Reader Part) (set : Result → Part → Result) :
    Field Result :=
  ⟨name, false, fun held form path tree => (reader form path tree).map (set held)⟩

def needed (name : String) (reader : Reader Part) (set : Result → Part → Result) : Field Result :=
  { omissible name reader set with required := true }

end Field

/-- A variant of a choice, which is a value by itself or holds what is read. -/
inductive Variant (Result : Type) where
  | alone (value : Result)
  | holding (reader : Reader Result)

namespace Reader

variable {Result : Type}

/-- Reads the members of a table that name fields; others are passed over. -/
def fields (known : List (Field Result)) (form : Form) (path : List String) :
    Result → List (String × Tree) → Except Problem Result
  | held, [] => .ok held
  | held, (name, tree) :: rest =>
    match known.find? (·.name = name) with
    | none => fields known form path held rest
    | some field =>
      match field.read held form (path ++ [name]) tree with
      | .error problem => .error problem
      | .ok held => fields known form path held rest

/-- Reads a list as fields in their order. Fields that can be left out may lack at its end. -/
def listed (form : Form) (path : List String) :
    Nat → Result → List (Field Result) → List Tree → Except Problem Result
  | _, held, [], _ => .ok held
  | _, held, missing, [] =>
    if missing.any (·.required) then .error ⟨.missingItem, path⟩ else .ok held
  | position, held, field :: known, item :: rest =>
    match field.read held form (path ++ [Numeral.ofNat position]) item with
    | .error problem => .error problem
    | .ok held => listed form path (position + 1) held known rest

def record (start : Result) (known : List (Field Result)) : Reader Result := fun form path tree =>
  match tree with
  | .table members =>
    match fields known form path start members with
    | .error problem => .error problem
    | .ok result =>
      if known.all fun field => !field.required || members.any (·.1 = field.name) then .ok result
      else .error ⟨.missingField, path⟩
  | .list items =>
    match listed form path 0 start known items with
    | .error problem => .error problem
    | .ok result =>
      if form = .document ∧ known.length < items.length then .error ⟨.wrongType, path⟩
      else .ok result
  | _ => .error ⟨.wrongType, path⟩

def variant (path : List String) (name : String) (beside : Option Tree) (form : Form) :
    Variant Result → Except Problem Result
  | .alone value =>
    match beside with
    | none | some .null => .ok value
    | some _ => .error ⟨.wrongType, path ++ [name]⟩
  | .holding reader =>
    match beside with
    | none => .error ⟨.wrongType, path⟩
    | some tree => reader form (path ++ [name]) tree

def choice (variants : List (String × Variant Result)) : Reader Result := fun form path tree =>
  match tree with
  | .text name =>
    match variants.find? (·.1 = name) with
    | some (_, found) => variant path name none form found
    | none => .error ⟨.unknownVariant, path⟩
  | .table ((name, inner) :: others) =>
    if form = .document ∧ others ≠ [] then .error ⟨.wrongType, path⟩
    else
      match variants.find? (·.1 = name) with
      | some (_, found) => variant path name (some inner) form found
      | none => .error ⟨.unknownVariant, path ++ [name]⟩
  | _ => .error ⟨.wrongType, path⟩

end Reader

end Archivist.Config
