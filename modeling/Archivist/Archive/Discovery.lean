import Archivist.Archive.Action
import Archivist.Calendar.Rollover
import Archivist.Partitions
import Archivist.Registry

set_option autoImplicit false

namespace Archivist

open Calendar (Date Instant Rollover)
open Json (Value)

/-- The roots that go to one set of destinations in one move. -/
structure Batch where
  finishDate : Date
  ids : List String
deriving Repr, DecidableEq

structure Candidate where
  id : String
  endDate : Instant
deriving Repr, DecidableEq

structure Finder where
  root : RootDescriptor
  /-- How many seconds a root must have been finished. -/
  minAge : Nat
  /-- Seconds east of universal time. -/
  offset : Int
  rollover : Rollover
  policy : RetryPolicy
deriving Repr, DecidableEq

/-- A search for batches that is under way. -/
structure Discovery where
  finder : Finder
  partitions : List Nat
  pageSize : Nat
  cutoff : Instant
  cursor : Option (List Value)
  pending : List Batch
  exhausted : Bool

namespace Finder

/-- The last instant at which a root may have finished to be found. -/
def cutoff (finder : Finder) (now : Instant) : Option Instant :=
  now.shift (-(finder.minAge : Int)) 0

/-- Begins a search at an instant; the cutoff stays as it is from then on. -/
def begin (finder : Finder) (partitions : List Nat) (pageSize : Nat) (now : Instant) :
    Option Discovery :=
  (finder.cutoff now).map fun cutoff =>
    ⟨finder, partitions, max pageSize 1, cutoff, none, [], partitions.isEmpty⟩

def pageSearch (finder : Finder) (partitions : List Nat) (cutoff : Instant) (limit : Nat)
    (cursor : Option (List Value)) : Search where
  index := finder.root.index
  filters := [
    .term finder.root.joinField (.text finder.root.joinValue),
    .terms finder.root.partitionField (partitions.map fun id => .text (Numeral.ofNat id)),
    .present finder.root.endDateField,
    .upTo finder.root.endDateField cutoff]
  sort := [⟨finder.root.endDateField, .ascending⟩, ⟨finder.root.idField, .ascending⟩]
  limit := limit
  after := cursor

/-- A root without a scalar id goes by the id of its document; one without a readable end date is no
candidate. -/
def candidate? (finder : Finder) (record : Record) : Option Candidate :=
  match record.source.member? finder.root.endDateField with
  | some (.text written) =>
    (Instant.read written).map fun endDate =>
      ⟨((record.source.member? finder.root.idField).bind Value.scalarText).getD record.id, endDate⟩
  | _ => none

/-- The sort values after which the next page begins. -/
def cursorOf (finder : Finder) (record : Record) : List Value := [
  (record.source.member? finder.root.endDateField).getD .null,
  (record.source.member? finder.root.idField).getD (.text record.id)]

/-- Adds a dated id to batches; it joins the first one when that has its date. -/
def prepend (date : Date) (id : String) : List Batch → List Batch
  | [] => [⟨date, [id]⟩]
  | batch :: rest =>
    if batch.finishDate = date then ⟨date, id :: batch.ids⟩ :: rest
    else ⟨date, [id]⟩ :: batch :: rest

/-- Neighbouring candidates of one bucket make a batch. None when a bucket has no date. -/
def group (finder : Finder) : List Candidate → Option (List Batch)
  | [] => some []
  | candidate :: rest =>
    match finder.rollover.bucket candidate.endDate finder.offset, finder.group rest with
    | some date, some batches => some (prepend date candidate.id batches)
    | _, _ => none

end Finder

inductive Draw where
  | batch (batch : Batch) (rest : Discovery)
  | finished
  | fetch

namespace Discovery

/-- A batch that waits comes before a new page. -/
def draw (discovery : Discovery) : Draw :=
  match discovery.pending with
  | batch :: rest => .batch batch { discovery with pending := rest }
  | [] => if discovery.exhausted then .finished else .fetch

def search (discovery : Discovery) : Search :=
  discovery.finder.pageSearch discovery.partitions discovery.cutoff discovery.pageSize
    discovery.cursor

/-- Takes in a page. A page that is not full is the last one. -/
def absorb (discovery : Discovery) (page : List Record) : Option Discovery :=
  (discovery.finder.group (page.filterMap discovery.finder.candidate?)).map fun batches =>
    { discovery with
      exhausted := discovery.exhausted || page.length < discovery.pageSize
      cursor :=
        match page.getLast? with
        | some record => some (discovery.finder.cursorOf record)
        | none => discovery.cursor
      pending := discovery.pending ++ batches }

/-- Fetches one page. An index that does not exist holds no candidates; any other failure ends the
search. -/
def fetch (discovery : Discovery) : Work (Discovery × Except ArchiveFailure Unit) :=
  let search := Work.call discovery.finder.policy "candidate search" (.search discovery.search)
  search.bind fun reply =>
    let page : Except StoreFailure (List Record) :=
      match reply with
      | .ok page => .ok page
      | .error failure => if failure.isMissing then .ok [] else .error failure
    match page with
    | .error failure => .finish ({ discovery with exhausted := true }, .error (.discovery failure))
    | .ok page =>
      match discovery.absorb page with
      | some discovery => .finish (discovery, .ok ())
      | none => .crash .outsideCalendar

/-- One turn towards the next batch: it is at hand, there is none, or a page has to be fetched. -/
def turn (discovery : Discovery) :
    Work (Discovery ⊕ (Discovery × Except ArchiveFailure (Option Batch))) :=
  match discovery.draw with
  | .batch batch rest => .finish (.inr (rest, .ok (some batch)))
  | .finished => .finish (.inr (discovery, .ok none))
  | .fetch =>
    discovery.fetch.bind fun
      | (discovery, .ok ()) => .finish (.inl discovery)
      | (discovery, .error failure) => .finish (.inr (discovery, .error failure))

/-- The next batch, in at most as many turns as the fuel allows. -/
def next (fuel : Nat) (discovery : Discovery) :
    Work (Discovery × Except ArchiveFailure (Option Batch)) :=
  Dialogue.unfold turn fuel discovery

def collect (fuel : Nat) (discovery : Discovery) :
    Work (Except ArchiveFailure (List Batch)) :=
  Dialogue.unfold collectTurn fuel (discovery, [])
where
  collectTurn (state : Discovery × List Batch) :
      Work ((Discovery × List Batch) ⊕ Except ArchiveFailure (List Batch)) :=
    state.1.turn.bind fun
      | .inl discovery => .finish (.inl (discovery, state.2))
      | .inr (discovery, .ok (some batch)) => .finish (.inl (discovery, state.2 ++ [batch]))
      | .inr (_, .ok none) => .finish (.inr (.ok state.2))
      | .inr (_, .error failure) => .finish (.inr (.error failure))

end Discovery

end Archivist
