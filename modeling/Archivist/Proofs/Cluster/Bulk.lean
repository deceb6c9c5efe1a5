import Archivist.Proofs.Cluster.Lines
import Archivist.Proofs.Store.Faults

set_option autoImplicit false

namespace Archivist

namespace Cluster

open Json (Value)

/-- What a response says about documents, in the order of its items. An item that has no result is
passed over. -/
def resultsOf (document : Value) : List Value :=
  (((document.member? "items").bind Value.items?).getD []).filterMap itemResult?

/-- A result without an error that does not say that the document is missing. -/
def isDone (result : Value) : Bool :=
  (result.member? "error").isNone ∧ countOf result "status" ≠ 404

/-- A result with an error, or one that says that the document is missing where it should not be. -/
def isFailed (missingIsFine : Bool) (result : Value) : Bool :=
  (result.member? "error").isSome ∨ (countOf result "status" = 404 ∧ missingIsFine = false)

variable {missingIsFine : Bool} {document result : Value}

theorem itemVerdict_eq_done :
    itemVerdict missingIsFine result = .done ↔ isDone result = true := by
  unfold itemVerdict isDone
  cases result.member? "error" with
  | some error => simp
  | none =>
    by_cases missing : countOf result "status" = 404
    · cases missingIsFine <;> simp [missing]
    · simp [missing]

def ItemVerdict.failure? : ItemVerdict → Option String
  | .failed failure => some failure
  | _ => none

theorem isSome_failure? :
    (itemVerdict missingIsFine result).failure?.isSome = isFailed missingIsFine result := by
  unfold itemVerdict isFailed
  cases result.member? "error" with
  | some error => simp [ItemVerdict.failure?]
  | none =>
    by_cases missing : countOf result "status" = 404
    · cases missingIsFine <;> simp [missing, ItemVerdict.failure?]
    · simp [missing, ItemVerdict.failure?]

theorem succeeded_tally (missingIsFine : Bool) (document : Value) :
    (tally missingIsFine document).succeeded = (resultsOf document).countP isDone := by
  change (List.filter _ (List.map _ (resultsOf document))).length = _
  rw [← List.countP_eq_length_filter, List.countP_map]
  apply List.countP_congr
  intro result _
  simp [itemVerdict_eq_done]

theorem length_failures_tally (missingIsFine : Bool) (document : Value) :
    (tally missingIsFine document).failures.length =
      (resultsOf document).countP (isFailed missingIsFine) := by
  change (List.filterMap ItemVerdict.failure? _).length = _
  rw [List.length_filterMap_eq_countP, List.countP_map]
  apply List.countP_congr
  intro result _
  simp [isSome_failure?]

theorem isClean_iff_length {outcome : BulkOutcome} :
    outcome.isClean = true ↔ outcome.failures.length = 0 := by
  rw [BulkOutcome.isClean, List.isEmpty_iff, List.length_eq_zero_iff]

/-- Where every document should be there, a result that does not tell of success tells of a
failure. -/
theorem isFailed_false (result : Value) : isFailed false result = !isDone result := by
  unfold isFailed isDone
  cases result.member? "error" <;> simp

/-- A write is clean when every result in the answer tells of success, and then as many documents
are said to be written as there are results. That are all the documents just when the answer has as
many results as there are documents. A store in memory writes them all or fails as it was told to. -/
theorem writes_count_their_results (settings : ClusterSettings) (index : String)
    {documents : List (String × Value)} (some : documents ≠ []) :
    (∃ resume, perform settings (.bulkWrite index documents) =
        .ask (post settings "_bulk?refresh=false" (.lines (writeLines index documents))) resume ∧
      ∀ response document, response.isSuccess = true → Json.read response.body = .some document →
        ∃ outcome, resume (.answered response) = .finish (.ok outcome) ∧
          outcome.succeeded + outcome.failures.length = (resultsOf document).length ∧
          (outcome.isClean = true ↔ ∀ result ∈ resultsOf document, isDone result = true) ∧
          (outcome.isClean = true → (outcome.succeeded = documents.length ↔
            (resultsOf document).length = documents.length))) ∧
    ∀ store : MemoryStore,
      (∃ fault ∈ store.faults, fault.hits (.bulkWrite index documents) = true ∧
        (store.handle (.bulkWrite index documents)).1 =
          .error (fault.failure (.bulkWrite index documents))) ∨
      (store.handle (.bulkWrite index documents)).1 = .ok ⟨documents.length, []⟩ := by
  constructor
  case left =>
    obtain ⟨resume, asked, answered⟩ :=
      exists_sendBulk settings (writeLines index documents) false
    refine ⟨resume, by simpa [perform, some] using asked, ?_⟩
    intro response document success read
    have failures : (tally false document).failures.length =
        (resultsOf document).countP fun result => !isDone result := by
      simp only [length_failures_tally, funext isFailed_false]
    have sum : (tally false document).succeeded + (tally false document).failures.length =
        (resultsOf document).length := by
      rw [succeeded_tally, failures, List.length_eq_countP_add_countP isDone]
      simp
    refine ⟨tally false document, answered response document success read, sum, ?_, ?_⟩
    · rw [isClean_iff_length, failures, List.countP_eq_zero]
      simp
    · intro clean
      have none := isClean_iff_length.mp clean
      omega
  case right =>
    intro store
    rcases store.struck_or_performed (.bulkWrite index documents) with
      ⟨fault, armed, hit, failed, _⟩ | ⟨performed, _⟩
    · exact .inl ⟨fault, armed, hit, failed⟩
    · exact .inr performed

/-- An answer to a request about many documents. -/
def bulkAnswer (body : String) : Response := ⟨200, body, "http://one:9200/_bulk?refresh=false"⟩

def twoDocuments : List (String × Value) := [("a", .object [("key", .nat 1)]), ("b", .object [])]

def bothWritten : Response :=
  bulkAnswer ("\x7b\"items\":[\x7b\"index\":\x7b\"status\":200\x7d\x7d,"
    ++ "\x7b\"index\":\x7b\"status\":201\x7d\x7d]\x7d")

def bothWrittenRead : Value :=
  .object [("items", .array [
    .object [("index", .object [("status", .nat 200)])],
    .object [("index", .object [("status", .nat 201)])]])]

theorem both_documents_are_written :
    twoDocuments ≠ [] ∧ ∃ resume outcome,
      perform openCluster (.bulkWrite "live" twoDocuments) =
        .ask (post openCluster "_bulk?refresh=false" (.lines (writeLines "live" twoDocuments))) resume ∧
      resume (.answered bothWritten) = .finish (.ok outcome) ∧
      outcome.isClean = true ∧ outcome.succeeded = 2 := by
  have some : twoDocuments ≠ [] := by decide
  obtain ⟨⟨resume, asked, answered⟩, _⟩ := writes_count_their_results openCluster "live" some
  obtain ⟨outcome, same, _, clean, all⟩ :=
    answered bothWritten bothWrittenRead (by decide) (by decide +kernel)
  have well : outcome.isClean = true := clean.mpr (by decide +kernel)
  exact ⟨some, resume, outcome, asked, same, well, (all well).mpr (by decide +kernel)⟩

def oneDocument : List (String × Value) := [("a", .object [("key", .nat 1)])]

/-- An answer that says nothing about any document. -/
def silence : Response := bulkAnswer "\x7b\x7d"

theorem silence_is_taken_for_success :
    ∃ resume outcome,
      perform openCluster (.bulkWrite "live" oneDocument) =
        .ask (post openCluster "_bulk?refresh=false" (.lines (writeLines "live" oneDocument))) resume ∧
      silence.isSuccess = true ∧ Json.read silence.body = some (.object []) ∧
      resume (.answered silence) = .finish (.ok outcome) ∧
      outcome.isClean = true ∧ outcome.succeeded ≠ oneDocument.length := by
  obtain ⟨resume, asked, answered⟩ := exists_sendBulk openCluster (writeLines "live" oneDocument) false
  have read : Json.read silence.body = some (.object []) := by decide +kernel
  exact ⟨resume, ⟨0, []⟩, asked, rfl, read, answered _ _ rfl read, rfl, by decide⟩

def isGone (result : Value) : Bool := countOf result "status" = 404

def isDeleted (result : Value) : Bool :=
  (result.member? "error").isNone ∧ 200 ≤ countOf result "status" ∧ countOf result "status" < 300

def deletionItem (result : Value) : Value := .object [("delete", result)]

theorem resultsOf_deletionItems {results : List Value}
    (items : document.member? "items" = some (.array (results.map deletionItem))) :
    resultsOf document = results := by
  simp [resultsOf, items, Value.items?, List.filterMap_map, deletionItem, itemResult?,
    Function.comp_def]

theorem isDone_of_settled (settled : isGone result = true ∨ isDeleted result = true) :
    isDone result = isDeleted result := by
  unfold isGone isDeleted at *
  unfold isDone
  cases result.member? "error" with
  | some error => simp
  | none =>
    simp at settled
    by_cases gone : countOf result "status" = 404
    · simp [gone]
    · have deleted := settled.resolve_left gone
      simp [gone, deleted]

/-- A deletion by ids in memory takes the documents away that are there, counts these, and is clean
whether or not there were others, unless it fails as the store was told to. A deletion in a cluster
counts the documents whose results tell of their deletion, and of the others, which were not there,
those are failures whose results have an error. -/
theorem deletions_forgive_the_absent (settings : ClusterSettings) (index : String)
    (ids : List String) :
    (∀ store : MemoryStore,
      let call := Call.bulkDelete index ids
      (∃ fault ∈ store.faults, fault.hits call = true ∧
        (store.handle call).1 = .error (fault.failure call)) ∨
      ∃ outcome, (store.handle call).1 = .ok outcome ∧ outcome.isClean = true ∧
        outcome.succeeded + ((store.handle call).2.holdings.documents index).length =
          (store.holdings.documents index).length ∧
        ∀ other id, (store.handle call).2.holdings.document? other id =
          if other = index ∧ id ∈ ids then none else store.holdings.document? other id) ∧
    (ids = [] → perform settings (.bulkDelete index ids) = .finish (.ok ⟨0, []⟩)) ∧
    (ids ≠ [] → ∃ resume, perform settings (.bulkDelete index ids) =
        .ask (post settings "_bulk?refresh=false" (.lines (deleteLines index ids))) resume ∧
      ∀ response document (results : List Value), response.isSuccess = true →
        Json.read response.body = some document →
        document.member? "items" = some (.array (results.map deletionItem)) →
        (∀ result ∈ results, isGone result = true ∨ isDeleted result = true) →
        ∃ outcome, resume (.answered response) = .finish (.ok outcome) ∧
          outcome.succeeded = results.countP isDeleted ∧
          outcome.failures.length =
            results.countP (fun result => (result.member? "error").isSome) ∧
          (outcome.isClean = true ↔ ∀ result ∈ results, result.member? "error" = none)) := by
  refine ⟨?memory, ?nothing, ?cluster⟩
  case memory =>
    intro store call
    rcases store.struck_or_performed call with
      ⟨fault, armed, hit, failed, _⟩ | ⟨performed, after⟩
    · exact .inl ⟨fault, armed, hit, failed⟩
    · obtain ⟨deleted, answered, fewer⟩ := store.holdings.exists_perform_bulkDelete index ids
      rw [performed, after]
      refine .inr ⟨⟨deleted, []⟩, answered, rfl, fewer, ?_⟩
      intro other id
      exact store.holdings.document?_after_bulkDelete index other id ids
  case nothing =>
    rintro rfl
    rfl
  case cluster =>
    intro some
    obtain ⟨resume, asked, answered⟩ := exists_sendBulk settings (deleteLines index ids) true
    refine ⟨resume, by simpa [perform, some] using asked, ?_⟩
    intro response document results success read items settled
    have same : resultsOf document = results := resultsOf_deletionItems items
    have counted : (tally true document).succeeded = results.countP isDeleted := by
      rw [succeeded_tally, same]
      apply List.countP_congr
      intro result inside
      rw [isDone_of_settled (settled result inside)]
    have failures : (tally true document).failures.length =
        results.countP fun result => (result.member? "error").isSome := by
      rw [length_failures_tally, same]
      apply List.countP_congr
      intro result _
      simp [isFailed]
    refine ⟨tally true document, answered response document success read, counted, failures, ?_⟩
    rw [isClean_iff_length, failures, List.countP_eq_zero]
    simp

def oneDeleted : Response :=
  bulkAnswer ("\x7b\"items\":[\x7b\"delete\":\x7b\"status\":404\x7d\x7d,"
    ++ "\x7b\"delete\":\x7b\"status\":200\x7d\x7d]\x7d")

def oneDeletedResults : List Value :=
  [.object [("status", .nat 404)], .object [("status", .nat 200)]]

theorem one_of_two_is_deleted :
    ∃ resume outcome,
      perform openCluster (.bulkDelete "live" ["a", "b"]) =
        .ask (post openCluster "_bulk?refresh=false" (.lines (deleteLines "live" ["a", "b"])))
          resume ∧
      resume (.answered oneDeleted) = .finish (.ok outcome) ∧
      outcome.isClean = true ∧ outcome.succeeded = 1 := by
  obtain ⟨resume, asked, answered⟩ :=
    (deletions_forgive_the_absent openCluster "live" ["a", "b"]).2.2 (by decide)
  obtain ⟨outcome, same, succeeded, _, clean⟩ := answered oneDeleted
    (.object [("items", .array (oneDeletedResults.map deletionItem))])
    oneDeletedResults (by decide) (by decide +kernel) (by decide +kernel) (by decide +kernel)
  refine ⟨resume, outcome, asked, same, clean.mpr (by decide +kernel), ?_⟩
  rw [succeeded]
  decide +kernel

def indexMissing : Response :=
  bulkAnswer ("\x7b\"items\":[\x7b\"delete\":\x7b\"_id\":\"a\",\"status\":404,"
    ++ "\"error\":\x7b\"type\":\"index_not_found_exception\"\x7d\x7d\x7d]\x7d")

def indexMissingResult : Value :=
  .object [("_id", .text "a"), ("error", .object [("type", .text "index_not_found_exception")]),
    ("status", .nat 404)]

/-- A document that is gone with its whole index makes a deletion fail. -/
theorem absence_with_a_reason_is_a_failure :
    ∃ resume outcome,
      perform openCluster (.bulkDelete "live" ["a"]) =
        .ask (post openCluster "_bulk?refresh=false" (.lines (deleteLines "live" ["a"]))) resume ∧
      indexMissing.isSuccess = true ∧
      Json.read indexMissing.body =
        some (.object [("items", .array [deletionItem indexMissingResult])]) ∧
      isGone indexMissingResult = true ∧
      resume (.answered indexMissing) = .finish (.ok outcome) ∧
      outcome.isClean = false := by
  obtain ⟨resume, asked, answered⟩ :=
    exists_sendBulk openCluster (deleteLines "live" ["a"]) true
  have read : Json.read indexMissing.body =
      some (.object [("items", .array [deletionItem indexMissingResult])]) := by decide +kernel
  exact ⟨resume, _, asked, rfl, read, by decide, answered _ _ rfl read, by decide +kernel⟩

end Cluster

end Archivist
