import Archivist.Json.Members
import Archivist.Store.Listing

set_option autoImplicit false

namespace Archivist

open Json (Value Ascending insertMember memberOf? ascending_insertMember)

abbrev Documents := List (String × Value)

/-- The indices of a store, sorted by name. An index may be there and hold nothing. -/
structure Holdings where
  indices : List (String × Documents)
  namesAscend : Ascending indices
  idsAscend : ∀ index ∈ indices, Ascending index.2

namespace Holdings

def empty : Holdings := ⟨[], .nil, by simp only [List.not_mem_nil, false_implies, implies_true]⟩

def documents? (holdings : Holdings) (index : String) : Option Documents :=
  memberOf? index holdings.indices

/-- The documents of an index; an index that does not exist holds none. -/
def documents (holdings : Holdings) (index : String) : Documents :=
  (holdings.documents? index).getD []

def document? (holdings : Holdings) (index id : String) : Option Value :=
  memberOf? id (holdings.documents index)

theorem ascending_documents (holdings : Holdings) (index : String) :
    Ascending (holdings.documents index) := by
  simp only [documents, documents?]
  cases found : memberOf? index holdings.indices with
  | none => exact .nil
  | some documents =>
    exact holdings.idsAscend _ (Json.mem_of_memberOf? index documents holdings.indices found)

def set (holdings : Holdings) (index : String) (documents : Documents)
    (ascending : Ascending documents) : Holdings where
  indices := insertMember index documents holdings.indices
  namesAscend := ascending_insertMember index documents holdings.indices holdings.namesAscend
  idsAscend := by
    intro held member
    rcases Json.mem_insertMember index documents holdings.indices held member with rfl | before
    · exact ascending
    · exact holdings.idsAscend held before

def records (index : String) (documents : Documents) : List Record :=
  documents.map fun document => ⟨document.1, index, document.2⟩

def overwrite (documents written : Documents) : Documents :=
  written.foldl (fun held document => insertMember document.1 document.2 held) documents

theorem ascending_overwrite (documents written : Documents) (ascending : Ascending documents) :
    Ascending (overwrite documents written) := by
  induction written generalizing documents with
  | nil => exact ascending
  | cons document rest ih =>
    exact ih _ (ascending_insertMember document.1 document.2 documents ascending)

def write (holdings : Holdings) (index : String) (written : Documents) : Holdings :=
  holdings.set index (overwrite (holdings.documents index) written)
    (ascending_overwrite _ written (holdings.ascending_documents index))

def keep (holdings : Holdings) (index : String) (wanted : String × Value → Bool) : Holdings :=
  holdings.set index ((holdings.documents index).filter wanted)
    ((holdings.ascending_documents index).filter wanted)

def missing (index : String) : StoreFailure :=
  .rejected 404 ("no such index [" ++ index ++ "]")

/-- The answer to a call and what is held afterwards. Deleting from an index that does not exist is
no failure, while searching it or copying from it is. -/
def perform (holdings : Holdings) : (call : Call) → call.Reply × Holdings
  | .search request =>
    match holdings.documents? request.index with
    | some documents => (.ok (request.page (records request.index documents)), holdings)
    | none => (.error (missing request.index), holdings)
  | .bulkWrite index written => (.ok ⟨written.length, []⟩, holdings.write index written)
  | .reindex source destination filter =>
    match holdings.documents? source with
    | some documents =>
      let matching := documents.filter fun document => filter.accepts document.2
      (.ok matching.length, holdings.write destination matching)
    | none => (.error (missing source), holdings)
  | .deleteByQuery index filter =>
    match holdings.documents? index with
    | some documents =>
      let deleted := documents.filter fun document => filter.accepts document.2
      (.ok deleted.length, holdings.keep index fun document => !filter.accepts document.2)
    | none => (.ok 0, holdings)
  | .bulkDelete index ids =>
    match holdings.documents? index with
    | some documents =>
      let deleted := documents.filter fun document => ids.contains document.1
      (.ok ⟨deleted.length, []⟩, holdings.keep index fun document => !ids.contains document.1)
    | none => (.ok ⟨0, []⟩, holdings)
  | .ensureExists index =>
    match holdings.documents? index with
    | some _ => (.ok .alreadyExisted, holdings)
    | none => (.ok .created, holdings.write index [])
  | .refresh _ => (.ok (), holdings)

/-- Whether a call breaks off, since it is to sort what has no order. -/
def breaksOff (holdings : Holdings) : Call → Bool
  | .search request =>
    request.breaksOff (records request.index (holdings.documents request.index))
  | _ => false

end Holdings

end Archivist
