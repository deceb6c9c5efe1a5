import Archivist.Cluster.Credentials
import Archivist.Cluster.Exchange
import Archivist.Cluster.Query
import Archivist.Json.Reader
import Archivist.Text

set_option autoImplicit false

namespace Archivist.Cluster

open Json (Value)

/-- The address of a place in the cluster. Slashes at the end of the base are dropped. -/
def endpoint (base path : String) : String :=
  String.ofList (base.toList.reverse.dropWhile (· = '/')).reverse ++ "/" ++ path

/-- What a response is worth: a failure that may pass, a refusal, or a success. -/
def verdict (response : Response) : Except StoreFailure Response :=
  if response.isSuccess then .ok response
  else if response.isPassing then
    .error (.transient (statusText response.status ++ ": " ++ response.body))
  else .error (.rejected response.status response.body)

/-- Sends a request. One that is not answered may be when it is sent again. -/
def send (settings : ClusterSettings) (method : Method) (path : String) (payload : Payload) :
    Exchange (Except StoreFailure Response) :=
  .ask ⟨method, endpoint settings.url path, settings.authorization?, payload⟩ fun
    | .answered response => .finish (verdict response)
    | .failed reason => .finish (.error (.transient ("request failed: " ++ reason)))

def sendForJson (settings : ClusterSettings) (path : String) (payload : Payload) :
    Exchange (Except StoreFailure Value) :=
  (send settings .post path payload).andThen fun response =>
    .finish <|
      match Json.read response.body with
      | some document => .ok document
      | none =>
        .error (.malformed ("response body is not JSON: error decoding response body for url ("
          ++ response.address ++ ")"))

/-- A hit of a search. One that does not name its index is of the index that was searched. -/
def hitRecord (index : String) (hit : Value) : Except StoreFailure Record :=
  match (hit.member? "_id").bind Value.text? with
  | none => .error (.malformed "search hit without _id")
  | some id =>
    .ok {
      id := id
      index := ((hit.member? "_index").bind Value.text?).getD index
      source := (hit.member? "_source").getD .null }

def hits (index : String) (document : Value) : Except StoreFailure (List Record) :=
  match ((document.member? "hits").bind (·.member? "hits")).bind Value.items? with
  | none => .error (.malformed "search response without hits.hits")
  | some found => found.mapM (hitRecord index)

/-- A copy or a deletion that succeeded as a whole can have failed for some documents. -/
def checkFailures (document : Value) : Except StoreFailure Unit :=
  match (document.member? "failures").bind Value.items? with
  | some (first :: rest) => .error (.items ((first :: rest).map Value.compact))
  | _ => .ok ()

/-- A count in a response; one that is left out, or is no count, is zero. -/
def countOf (document : Value) (key : String) : Nat :=
  ((document.member? key).bind Value.nat?).getD 0

/-- What a response says about one document of a call on many. -/
inductive ItemVerdict where
  | done
  | failed (failure : String)
  /-- The document was not there, and need not have been. -/
  | absent
deriving Repr, DecidableEq

def itemVerdict (missingIsFine : Bool) (result : Value) : ItemVerdict :=
  let id := ((result.member? "_id").bind Value.text?).getD "?"
  match result.member? "error" with
  | some error => .failed (id ++ ": " ++ error.compact)
  | none =>
    if countOf result "status" = 404 then
      if missingIsFine then .absent else .failed (id ++ ": not found")
    else .done

def itemResult? : Value → Option Value
  | .object ((_, result) :: _) => some result
  | _ => none

def tally (missingIsFine : Bool) (document : Value) : BulkOutcome :=
  let items := ((document.member? "items").bind Value.items?).getD []
  let verdicts := (items.filterMap itemResult?).map (itemVerdict missingIsFine)
  { succeeded := (verdicts.filter (· = .done)).length
    failures := verdicts.filterMap fun
      | .failed failure => some failure
      | _ => none }

def sendBulk (settings : ClusterSettings) (lines : String) (missingIsFine : Bool) :
    Exchange (Except StoreFailure BulkOutcome) :=
  (sendForJson settings "_bulk?refresh=false" (.lines lines)).andThen fun document =>
    .finish (.ok (tally missingIsFine document))

/-- The refusal of a creation that somebody else was quicker with. -/
def saysAlreadyExists (body : String) : Bool :=
  Text.isWithin "resource_already_exists_exception" body

def ensure (settings : ClusterSettings) (index : String) :
    Exchange (Except StoreFailure EnsureOutcome) :=
  (send settings .head index .none).bind fun
    | .ok _ => .finish (.ok .alreadyExisted)
    | .error failure =>
      if failure.isMissing then
        (send settings .put index .none).bind fun
          | .ok _ => .finish (.ok .created)
          | .error (.rejected 400 body) =>
            .finish (if saysAlreadyExists body then .ok .alreadyExisted
              else .error (.rejected 400 body))
          | .error failure => .finish (.error failure)
      else .finish (.error failure)

/-- Makes a call. A call on no documents at all needs no request. -/
def perform (settings : ClusterSettings) : (call : Call) → Exchange call.Reply
  | .search request =>
    (sendForJson settings (request.index ++ "/_search") (.json (searchBody request))).andThen
      fun document => .finish (hits request.index document)
  | .bulkWrite index documents =>
    if documents.isEmpty then .finish (.ok ⟨0, []⟩)
    else sendBulk settings (writeLines index documents) false
  | .reindex source destination filter =>
    (sendForJson settings "_reindex?wait_for_completion=true&refresh=true"
      (.json (reindexBody source destination filter))).andThen fun document =>
        .finish ((checkFailures document).map fun _ =>
          countOf document "created" + countOf document "updated")
  | .deleteByQuery index filter =>
    (sendForJson settings (index ++ "/_delete_by_query?refresh=true&conflicts=proceed")
      (.json (deleteBody filter))).andThen fun document =>
        .finish ((checkFailures document).map fun _ => countOf document "deleted")
  | .bulkDelete index ids =>
    if ids.isEmpty then .finish (.ok ⟨0, []⟩)
    else sendBulk settings (deleteLines index ids) true
  | .ensureExists index => ensure settings index
  | .refresh index =>
    (send settings .post (index ++ "/_refresh") .none).andThen fun _ => .finish (.ok ())

inductive ConnectFailure where
  | silent (url reason : String)
  | refused (url : String) (status : Nat) (body : String)
deriving Repr, DecidableEq

def ConnectFailure.message : ConnectFailure → String
  | .silent url _ =>
    "💀 Knocked on '" ++ url
      ++ "' and nobody answered. Check the URL, the network, the firewall, your horoscope."
  | .refused url status body =>
    "💀 The cluster at '" ++ url ++ "' answered the ping with " ++ statusText status
      ++ ". Body: '" ++ body ++ "'. Credentials, perhaps?"

/-- The failure in the words of whoever wanted a store, outermost first. -/
def ConnectFailure.chain (failure : ConnectFailure) : List String := [
  "💀 Could not stand up the Elasticsearch record store. The cluster did not pick up the phone.",
  failure.message]

/-- Asks a cluster whether it is there, before anything else is asked of it. -/
def connect (settings : ClusterSettings) : Exchange (Except ConnectFailure Unit) :=
  .ask ⟨.get, settings.url, settings.authorization?, .none⟩ fun
    | .answered response =>
      if response.isSuccess then .finish (.ok ())
      else .finish (.error (.refused settings.url response.status response.body))
    | .failed reason => .finish (.error (.silent settings.url reason))

end Archivist.Cluster
