import Archivist.Proofs.Cluster.Traffic
import Archivist.Proofs.Json.Reading
import Archivist.Proofs.Json.Writing

set_option autoImplicit false

namespace Archivist

namespace Text

theorem splitAt_of_not_mem {mark : Char} {line : List Char} (absent : mark ∉ line)
    (rest : List Char) : splitAt mark (line ++ mark :: rest) = line :: splitAt mark rest := by
  induction line with
  | nil => simp [splitAt]
  | cons character line ih =>
    simp only [List.mem_cons, not_or] at absent
    have later := ih absent.2
    unfold splitAt at later ⊢
    rw [List.cons_append, List.foldr_cons, later]
    simp [Ne.symm absent.1]

/-- Lines that do not break are told apart by their ends, behind the last of which is nothing. -/
theorem splitAt_lines {mark : Char} {lines : List (List Char)}
    (whole : ∀ line ∈ lines, mark ∉ line) :
    splitAt mark (lines.flatMap (· ++ [mark])) = lines ++ [[]] := by
  induction lines with
  | nil => rfl
  | cons line lines ih =>
    obtain ⟨first, others⟩ := List.forall_mem_cons.mp whole
    simp [splitAt_of_not_mem first, ih others]

theorem getLast?_lines {mark : Char} {lines : List (List Char)} (some : lines ≠ []) :
    (lines.flatMap (· ++ [mark])).getLast? = .some mark := by
  rw [← List.dropLast_concat_getLast some]
  simp

end Text

namespace Cluster

open Json (Value)

def actionOf (action index id : String) : Value :=
  .object [(action, .object [("_id", .text id), ("_index", .text index)])]

theorem id_lt_index : "_id" < "_index" := by decide

theorem actionLine_eq (action index id : String) :
    actionLine action index id = (actionOf action index id).compact ++ "\n" := by
  have sorted : Value.ofMembers [("_index", .text index), ("_id", .text id)] =
      .object [("_id", .text id), ("_index", .text index)] :=
    congrArg Value.object (if_pos id_lt_index)
  rw [actionLine, sorted]
  rfl

theorem read_actionOf (action index id : String) :
    Json.read (actionOf action index id).compact = some (actionOf action index id) := by
  have named (text : String) : Json.IsReadAs (Value.text text).compact.toList 1 (.text text) :=
    Json.isReadAs_quoted text 1
  have inner : Json.IsReadAs
      (Value.object [("_id", .text id), ("_index", .text index)]).compact.toList 2
      (.object [("_id", .text id), ("_index", .text index)]) := by
    apply Json.isReadAs_object (by simp) (by decide)
    · exact List.pairwise_pair.mpr id_lt_index
    · simp [named]
  have outer : Json.IsReadAs (actionOf action index id).compact.toList 3
      (actionOf action index id) := by
    apply Json.isReadAs_object (by simp) (by decide)
    · exact List.pairwise_singleton _ _
    · simpa using inner
  exact Json.read_of_isReadAs outer (by decide)

def linesOfWrites (index : String) (documents : List (String × Value)) : List (List Char) :=
  documents.flatMap fun document =>
    [(actionOf "index" index document.1).compact.toList, document.2.compact.toList]

def linesOfDeletions (index : String) (ids : List String) : List (List Char) :=
  ids.map fun id => (actionOf "delete" index id).compact.toList

theorem toList_writeLines (index : String) (documents : List (String × Value)) :
    (writeLines index documents).toList =
      (linesOfWrites index documents).flatMap (· ++ ['\n']) := by
  simp only [writeLines, String.toList_join, List.flatMap_map, linesOfWrites, List.flatMap_assoc]
  simp [actionLine_eq]

theorem toList_deleteLines (index : String) (ids : List String) :
    (deleteLines index ids).toList =
      (linesOfDeletions index ids).flatMap (· ++ ['\n']) := by
  simp only [deleteLines, String.toList_join, List.flatMap_map, linesOfDeletions]
  simp [actionLine_eq]

theorem whole_of_compact (value : Value) : '\n' ∉ value.compact.toList :=
  (Json.isPlain_compact value).not_mem_newline

theorem length_linesOfWrites (index : String) (documents : List (String × Value)) :
    (linesOfWrites index documents).length = 2 * documents.length := by
  simp [linesOfWrites, List.length_flatMap, List.map_const', Nat.mul_comm]

theorem linesOfWrites_at (index : String) {documents : List (String × Value)} {place : Nat}
    {document : String × Value} (there : documents[place]? = some document) :
    (linesOfWrites index documents)[2 * place]? =
        some (actionOf "index" index document.1).compact.toList ∧
      (linesOfWrites index documents)[2 * place + 1]? = some document.2.compact.toList := by
  induction documents generalizing place with
  | nil => simp at there
  | cons first rest ih =>
    cases place with
    | zero =>
      simp at there
      simp [linesOfWrites, there]
    | succ place =>
      have further : rest[place]? = some document := by simpa using there
      have later := ih further
      simpa [linesOfWrites, Nat.mul_succ] using later

theorem splitAt_writeLines (index : String) (documents : List (String × Value)) :
    Text.splitAt '\n' (writeLines index documents).toList =
      linesOfWrites index documents ++ [[]] := by
  rw [toList_writeLines]
  apply Text.splitAt_lines
  intro line inside
  obtain ⟨document, _, written⟩ := List.mem_flatMap.mp inside
  simp only [List.mem_cons, List.not_mem_nil, or_false] at written
  rcases written with action | content
  · rw [action]
    exact whole_of_compact _
  · rw [content]
    exact whole_of_compact _

theorem splitAt_deleteLines (index : String) (ids : List String) :
    Text.splitAt '\n' (deleteLines index ids).toList = linesOfDeletions index ids ++ [[]] := by
  rw [toList_deleteLines]
  apply Text.splitAt_lines
  intro line inside
  obtain ⟨id, _, rfl⟩ := List.mem_map.mp inside
  exact whole_of_compact _

/-- A body about documents ends with a line end, and between its line ends it says on two lines
what is to be done with a document and what its content is, or on one line that it is to be deleted.
The names and the contents may have any characters in them. -/
theorem bulk_lines_keep_apart (settings : ClusterSettings) (index : String) :
    (∀ documents : List (String × Value), documents ≠ [] → ∃ body lines resume,
      perform settings (.bulkWrite index documents) =
        .ask (post settings "_bulk?refresh=false" (.lines body)) resume ∧
      body.toList.getLast? = some '\n' ∧
      Text.splitAt '\n' body.toList = lines ++ [[]] ∧
      lines.length = 2 * documents.length ∧
      ∀ (place : Nat) (id : String) (source : Value), documents[place]? = some (id, source) →
        (∃ line, lines[2 * place]? = some line ∧
          Json.read (String.ofList line) = some (actionOf "index" index id)) ∧
        lines[2 * place + 1]? = some source.compact.toList) ∧
    ∀ ids : List String, ids ≠ [] → ∃ body lines resume,
      perform settings (.bulkDelete index ids) =
        .ask (post settings "_bulk?refresh=false" (.lines body)) resume ∧
      body.toList.getLast? = some '\n' ∧
      Text.splitAt '\n' body.toList = lines ++ [[]] ∧
      lines.length = ids.length ∧
      ∀ (place : Nat) (id : String), ids[place]? = some id →
        ∃ line, lines[place]? = some line ∧
          Json.read (String.ofList line) = some (actionOf "delete" index id) := by
  constructor
  case left =>
    intro documents some
    obtain ⟨resume, asked, _⟩ := exists_sendBulk settings (writeLines index documents) false
    refine ⟨writeLines index documents, linesOfWrites index documents, resume, ?_, ?_,
      splitAt_writeLines index documents, length_linesOfWrites index documents, ?_⟩
    · simpa [perform, some] using asked
    · rw [toList_writeLines]
      apply Text.getLast?_lines
      intro none
      have size := length_linesOfWrites index documents
      have positive := List.length_pos_iff.mpr some
      rw [none, List.length_nil] at size
      omega
    · intro place id source there
      obtain ⟨action, content⟩ := linesOfWrites_at index there
      refine ⟨⟨_, action, ?_⟩, content⟩
      rw [String.ofList_toList, read_actionOf]
  case right =>
    intro ids some
    obtain ⟨resume, asked, _⟩ := exists_sendBulk settings (deleteLines index ids) true
    refine ⟨deleteLines index ids, linesOfDeletions index ids, resume, ?_, ?_,
      splitAt_deleteLines index ids, List.length_map _, ?_⟩
    · simpa [perform, some] using asked
    · rw [toList_deleteLines]
      apply Text.getLast?_lines
      simpa [linesOfDeletions] using some
    · intro place id there
      refine ⟨(actionOf "delete" index id).compact.toList, ?_, ?_⟩
      · simp [linesOfDeletions, there]
      · rw [String.ofList_toList, read_actionOf]

def openCluster : ClusterSettings := ⟨"http://one:9200", none, none, none, 5, 5⟩

/-- A document with quotes and a line end in its name, and a backslash and a line end inside of it. -/
def unruly : String × Value := ("a\n\"b\"", .array [.text "\\\n"])

theorem unruly_document_takes_two_lines :
    ∃ body lines resume,
      perform openCluster (.bulkWrite "live" [unruly]) =
        .ask (post openCluster "_bulk?refresh=false" (.lines body)) resume ∧
      Text.splitAt '\n' body.toList = lines ++ [[]] ∧ lines.length = 2 ∧
      (∃ line, lines[0]? = some line ∧
        Json.read (String.ofList line) = some (actionOf "index" "live" "a\n\"b\"")) ∧
      lines[1]? = some "[\"\\\\\\n\"]".toList := by
  obtain ⟨body, lines, resume, asked, _, split, length, each⟩ :=
    (bulk_lines_keep_apart openCluster "live").1 [unruly] (by simp)
  obtain ⟨action, content⟩ := each 0 _ _ rfl
  refine ⟨body, lines, resume, asked, split, length, action, ?_⟩
  rw [content]
  decide +kernel

end Cluster

end Archivist
