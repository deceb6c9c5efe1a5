import Archivist.Json.Writer
import Archivist.Store.Record

set_option autoImplicit false

namespace Archivist

open Json (Value)

def Json.Value.single (key : String) (value : Value) : Value := .object [(key, value)]

/-- An instant is written to the millisecond, and what is cut off only makes the limit earlier. -/
def Filter.query : Filter → Value
  | .term field value => .single "term" (.single field value)
  | .terms field values => .single "terms" (.single field (.array values))
  | .present field => .single "exists" (.single "field" (.text field))
  | .upTo field limit => .single "range" (.single field (.single "lte" (.text limit.text)))

namespace Cluster

/-- All filters have to pass, and none of them ranks. -/
def queryOf (filters : List Filter) : Value :=
  .single "bool" (.single "filter" (.array (filters.map Filter.query)))

def Direction.word : Direction → String
  | .ascending => "asc"
  | .descending => "desc"

def sortOf (fields : List SortField) : Value :=
  .array (fields.map fun field =>
    .single field.field (.single "order" (.text (Direction.word field.direction))))

def searchBody (request : Search) : Value :=
  .ofMembers ([
      ("size", .nat request.limit),
      ("query", queryOf request.filters),
      ("sort", sortOf request.sort)]
    ++ match request.after with
      | some values => [("search_after", .array values)]
      | none => [])

def reindexBody (source destination : String) (filter : Filter) : Value :=
  .ofMembers [
    ("source", .ofMembers [("index", .text source), ("query", queryOf [filter])]),
    ("dest", .single "index" (.text destination))]

def deleteBody (filter : Filter) : Value := .single "query" (queryOf [filter])

def actionLine (action index id : String) : String :=
  (Value.single action (.ofMembers [("_index", .text index), ("_id", .text id)])).compact ++ "\n"

/-- Each document is written on two lines, what is done with it and its content. -/
def writeLines (index : String) (documents : List (String × Value)) : String :=
  String.join (documents.map fun document =>
    actionLine "index" index document.1 ++ document.2.compact ++ "\n")

def deleteLines (index : String) (ids : List String) : String :=
  String.join (ids.map (actionLine "delete" index))

end Cluster

end Archivist
