import Archivist.Sorting
import Archivist.Store.Record

set_option autoImplicit false

namespace Archivist

open Calendar (Instant)
open Json (Value)

def instantOf? : Value → Option Instant
  | .text value => Instant.read value
  | _ => none

/-- The binary64 value of a number; other values have none. -/
def quantityOf? : Value → Option Binary64
  | .number value => some value.toBinary64
  | _ => none

namespace Filter

/-- Scalars are compared by their text, so `1` matches `"1"` and does not match `1.0`. -/
def accepts (source : Value) : Filter → Bool
  | .term field value =>
    match (source.member? field).bind Value.scalarText, value.scalarText with
    | some actual, some expected => actual = expected
    | _, _ => false
  | .terms field values =>
    match (source.member? field).bind Value.scalarText with
    | some actual => (values.filterMap Value.scalarText).contains actual
    | none => false
  | .present field =>
    match source.member? field with
    | some value => !value.isNull
    | none => false
  | .upTo field limit =>
    match (source.member? field).bind instantOf? with
    | some instant => instant.isAtMost limit
    | none => false

end Filter

/-- Numbers by size, timestamps by time, other scalars by text; values of which none of this holds
count as equal. -/
def Json.Value.order (left right : Value) : Ordering :=
  match quantityOf? left, quantityOf? right with
  | some left, some right => left.order right
  | _, _ =>
    match instantOf? left, instantOf? right with
    | some left, some right => left.order right
    | _, _ =>
      match left.scalarText, right.scalarText with
      | some left, some right => compare left right
      | _, _ => .eq

/-- A missing value comes after every value that is there. -/
def orderMissingLast : Option Value → Option Value → Ordering
  | none, none => .eq
  | none, some _ => .gt
  | some _, none => .lt
  | some left, some right => left.order right

def Direction.apply : Direction → Ordering → Ordering
  | .ascending, ordering => ordering
  | .descending, ordering => ordering.swap

namespace SortField

def order (sort : SortField) (left right : Value) : Ordering :=
  sort.direction.apply (orderMissingLast (left.member? sort.field) (right.member? sort.field))

def orderAgainst (sort : SortField) (source value : Value) : Ordering :=
  sort.direction.apply (orderMissingLast (source.member? sort.field) (some value))

end SortField

/-- The first field on which two documents differ decides. -/
def orderBy (left right : Value) : List SortField → Ordering
  | [] => .eq
  | sort :: rest =>
    match sort.order left right with
    | .eq => orderBy left right rest
    | decided => decided

/-- Strictly after the given sort values. Fields without a value and values without a field do not
count, and a document equal on all that do is not after them. -/
def isAfter (source : Value) : List SortField → List Value → Bool
  | sort :: sorts, value :: values =>
    match sort.orderAgainst source value with
    | .gt => true
    | .lt => false
    | .eq => isAfter source sorts values
  | _, _ => false

namespace Search

def accepts (search : Search) (source : Value) : Bool :=
  search.filters.all (·.accepts source)

def precedes (search : Search) (left right : Record) : Bool :=
  orderBy left.source right.source search.sort == .lt

def found (search : Search) (records : List Record) : List Record :=
  records.filter fun record => search.accepts record.source

/-- Whether the sort of what has been found breaks off. -/
def breaksOff (search : Search) (records : List Record) : Bool :=
  (Sorting.sort? search.precedes (search.found records)).isNone

/-- All records a search may answer, in the order of its sort fields. Where the sort breaks off they
have none. -/
def listing (search : Search) (records : List Record) : List Record :=
  (Sorting.sort? search.precedes (search.found records)).getD (search.found records)

def page (search : Search) (records : List Record) : List Record :=
  let listed := search.listing records
  let begun :=
    match search.after with
    | some values => listed.filter fun record : Record => isAfter record.source search.sort values
    | none => listed
  begun.take search.limit

end Search

end Archivist
