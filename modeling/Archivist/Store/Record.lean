import Archivist.Calendar.Instant
import Archivist.Json.Value
import Archivist.Store.Failure

set_option autoImplicit false

namespace Archivist

open Calendar (Instant)
open Json (Value)

/-- A document under an id in an index. -/
structure Record where
  id : String
  index : String
  source : Value
deriving Repr

inductive Filter where
  /-- The field holds a scalar with the text of this one. -/
  | term (field : String) (value : Value)
  /-- The field holds a scalar with the text of one of these. -/
  | terms (field : String) (values : List Value)
  /-- The field is there and not null. -/
  | present (field : String)
  /-- The field holds an instant that is not after this one. -/
  | upTo (field : String) (limit : Instant)
deriving Repr

inductive Direction where
  | ascending
  | descending
deriving Repr, DecidableEq

structure SortField where
  field : String
  direction : Direction
deriving Repr, DecidableEq

/-- A page of a listing: the records that pass all filters, in the order of the sort fields, after
the given sort values, up to the limit. -/
structure Search where
  index : String
  filters : List Filter
  sort : List SortField
  limit : Nat
  after : Option (List Value)
deriving Repr

/-- What a call on many records did. -/
structure BulkOutcome where
  succeeded : Nat
  failures : List String
deriving Repr, DecidableEq

def BulkOutcome.isClean (outcome : BulkOutcome) : Bool := outcome.failures.isEmpty

inductive EnsureOutcome where
  | created
  | alreadyExisted
deriving Repr, DecidableEq

/-- The kinds of calls a store answers. -/
inductive Operation where
  | search
  | bulkWrite
  | reindex
  | deleteByQuery
  | bulkDelete
  | ensureExists
  | refresh
deriving Repr, DecidableEq

inductive Call where
  | search (request : Search)
  | bulkWrite (index : String) (records : List (String × Value))
  | reindex (source destination : String) (filter : Filter)
  | deleteByQuery (index : String) (filter : Filter)
  | bulkDelete (index : String) (ids : List String)
  | ensureExists (index : String)
  | refresh (index : String)
deriving Repr

namespace Call

abbrev Answer : Call → Type
  | .search _ => List Record
  | .bulkWrite .. | .bulkDelete .. => BulkOutcome
  | .reindex .. | .deleteByQuery .. => Nat
  | .ensureExists _ => EnsureOutcome
  | .refresh _ => Unit

abbrev Reply (call : Call) : Type := Except StoreFailure call.Answer

def operation : Call → Operation
  | .search _ => .search
  | .bulkWrite .. => .bulkWrite
  | .reindex .. => .reindex
  | .deleteByQuery .. => .deleteByQuery
  | .bulkDelete .. => .bulkDelete
  | .ensureExists _ => .ensureExists
  | .refresh _ => .refresh

/-- The index a call is about; a copy is about both of its indices. -/
def target : Call → String
  | .search request => request.index
  | .bulkWrite index _ | .deleteByQuery index _ | .bulkDelete index _ => index
  | .ensureExists index | .refresh index => index
  | .reindex source destination _ => source ++ "->" ++ destination

end Call

namespace Operation

def word : Operation → String
  | .search => "search"
  | .bulkWrite => "bulk_write"
  | .reindex => "reindex"
  | .deleteByQuery => "delete_by_query"
  | .bulkDelete => "bulk_delete"
  | .ensureExists => "ensure_exists"
  | .refresh => "refresh"

/-- The name of the operation in the text of an injected failure. -/
def title : Operation → String
  | .search => "Search"
  | .bulkWrite => "BulkWrite"
  | .reindex => "Reindex"
  | .deleteByQuery => "DeleteByQuery"
  | .bulkDelete => "BulkDelete"
  | .ensureExists => "EnsureExists"
  | .refresh => "Refresh"

end Operation

end Archivist
