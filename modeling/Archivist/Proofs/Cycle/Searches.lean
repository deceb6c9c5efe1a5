import Archivist.Proofs.Cycle.Course
import Archivist.Proofs.Discovery.Kinds

set_option autoImplicit false

namespace Archivist

open Calendar (Instant)
open Json (Value)

theorem Search.unsorted_steady {request : Search} (unsorted : request.sort = [])
    (records : List Record) : request.breaksOff records = false := by
  have level (left right : Record) : request.precedes left right = false := by
    rw [precedes, unsorted]
    rfl
  have orders : Sorting.Orders request.precedes fun _ => True := by
    constructor
    · intro left right _ _ _
      exact level right left
    · intro left middle right _ _ _ before
      rw [level] at before
      cases before
  exact (listing_sorted orders fun _ _ => trivial).1

namespace Finder

variable {finder : Finder} {partitions : List Nat} {cutoff : Instant} {among : Value → Prop}

/-- The sort fields of pages put some documents in an order. -/
def Orders (finder : Finder) (among : Value → Prop) : Prop :=
  Sorting.Orders (fun left right => orderBy left right finder.sort == .lt) among

theorem GoesBy.orders {κ : Type} [LinearOrder κ] {key : Value → κ}
    (goesBy : finder.GoesBy key among) : finder.Orders among := by
  apply Sorting.Orders.of_key key
  intro left right first second
  rw [beq_iff_eq]
  exact goesBy.ordered left right first second

theorem Orders.page_steady (orders : finder.Orders among) {now : Holdings}
    (candidates : ∀ id source, now.document? finder.root.index id = some source →
      finder.finds partitions cutoff source = true → among source)
    (limit : Nat) (cursor : Option (List Value)) :
    now.breaksOff (.search (finder.pageSearch partitions cutoff limit cursor)) = false := by
  have known : ∀ record ∈ (finder.pageSearch partitions cutoff limit cursor).listing
      (Holdings.records finder.root.index (now.documents finder.root.index)),
      among record.source := by
    intro record member
    rw [Search.mem_listing, Holdings.mem_records, now.mem_documents_iff,
      accepts_pageSearch] at member
    obtain ⟨⟨_, held⟩, found⟩ := member
    exact candidates record.id record.source held found
  have records : Sorting.Orders (finder.pageSearch partitions cutoff limit cursor).precedes
      fun record => among record.source := by
    constructor
    · intro left right
      exact orders.asymm left.source right.source
    · intro left middle right
      exact orders.between left.source middle.source right.source
  exact (Search.listing_sorted records known).1

end Finder

namespace Archiver

variable {archiver : Archiver} {cutoff : Instant} {cycle : Cycle}

def opening (archiver : Archiver) (cutoff : Instant) : Discovery :=
  ⟨archiver.finder, archiver.partitions.ids, max archiver.batchSize 1, cutoff, none, [], false⟩

/-- A cycle searches for pages of what is due and for what it has copied, and it copies only what is
live. -/
def MayCall (archiver : Archiver) (cutoff : Instant) : Call → Prop
  | .search request => request.sort = [] ∨ ∃ limit cursor,
    request = archiver.finder.pageSearch archiver.partitions.ids cutoff limit cursor
  | .reindex source _ _ => archiver.mover.IsLive source
  | .bulkWrite .. | .bulkDelete .. => False
  | .ensureExists _ | .deleteByQuery .. | .refresh _ => True

theorem allows_mayCall (suffix : String) (ids : List String) :
    archiver.mover.Allows suffix ids (archiver.MayCall cutoff) where
  verifies := Or.inl rfl
  refreshes _ _ := trivial
  makes _ _ := trivial
  copies _ planned := Mover.isLive_source planned
  deletes _ _ := trivial

theorem mayCall_search {discovery : Discovery}
    (pursues : (archiver.opening cutoff).Pursues discovery) :
    archiver.MayCall cutoff (.search discovery.search) := by
  apply Or.inr
  rw [Discovery.search, pursues.finder, pursues.partitions, pursues.cutoff]
  exact ⟨discovery.pageSize, discovery.cursor, rfl⟩

theorem makes_fail {calls : Call → Prop} (failure : CycleFailure) :
    (Work.making calls).Ensures (fun _ _ => True) (Cycle.fail failure) () := by
  rw [Cycle.fail]
  apply Work.makes_enter
  apply Work.makes_count
  apply Work.makes_count
  apply Work.makes_count
  exact Work.makes_enter .idle trivial

theorem makes_succeed {calls : Call → Prop} (archived : Nat) :
    (Work.making calls).Ensures (fun _ _ => True) (Cycle.succeed archived) () := by
  rw [Cycle.succeed]
  apply Work.makes_enter
  apply Work.makes_count
  apply Work.makes_count
  exact Work.makes_enter .idle trivial

/-- A cycle that goes on after a turn looks for the same roots. -/
def Proceeds (archiver : Archiver) (cutoff : Instant) (turned : Cycle ⊕ Cycle.Outcome) : Prop :=
  ∀ next, turned = .inl next → (archiver.opening cutoff).Pursues next.discovery

theorem makes_moveBatch (batch : Batch)
    (pursues : (archiver.opening cutoff).Pursues cycle.discovery) :
    (Work.making (archiver.MayCall cutoff)).Ensures
      (fun turned _ => archiver.Proceeds cutoff turned)
      (Cycle.moveBatch archiver.mover batch cycle) () := by
  rw [Cycle.moveBatch]
  apply Work.makes_enter
  rw [Setting.ensures_do]
  apply (Work.makes_within (Mover.asks_move batch fun suffix _ =>
    ⟨allows_mayCall suffix batch.ids, trivial⟩)).mono
  intro result after _
  cases result with
  | ok count =>
    intro next same
    cases same
    exact pursues
  | error cause =>
    simp only [Setting.ensures_do, Namer.suffixOrCrash]
    cases archiver.mover.namer.suffix batch.finishDate with
    | none => trivial
    | some finishDate =>
      apply (makes_fail _).mono
      intro outcome _ _ next same
      cases same

theorem makes_turn (pursues : (archiver.opening cutoff).Pursues cycle.discovery) :
    (Work.making (archiver.MayCall cutoff)).Ensures
      (fun turned _ => archiver.Proceeds cutoff turned)
      (Cycle.turn archiver.mover cycle) () := by
  rw [Cycle.turn_eq]
  apply Work.makes_enter
  rw [Setting.ensures_do]
  apply (Work.makes_within (cycle.discovery.asks_turn (mayCall_search pursues))).mono
  intro searched _ further
  have onward := pursues.trans further
  rcases searched with next | ⟨rest, cause | batch?⟩
  · intro other same
    cases same
    exact onward
  · apply (makes_fail _).bind
    intro outcome _ _ next same
    cases same
  · cases batch? with
    | none =>
      apply (makes_succeed _).bind
      intro outcome _ _ next same
      cases same
    | some batch => exact makes_moveBatch batch onward

theorem makes_cycle {now : Instant} (begins : archiver.finder.cutoff now = some cutoff)
    (fuel : Nat) :
    (Work.making (archiver.MayCall cutoff)).Ensures (fun _ _ => True)
      (archiver.cycle fuel now) () := by
  rw [Archiver.cycle]
  apply Work.makes_enter
  split
  · apply Work.makes_count
    exact Work.makes_enter .idle trivial
  · rename_i owned
    have owns : archiver.partitions.ids.isEmpty = false := Bool.eq_false_iff.mpr owned
    rw [Finder.begin_of_cutoff _ _ begins, owns]
    apply Setting.Ensures.unfold (fun _ cycle _ => (archiver.opening cutoff).Pursues cycle.discovery)
    · intro _ _ _
      trivial
    · intro left cycle _ pursues
      apply (makes_turn pursues).mono
      intro turned _ proceeds
      cases turned with
      | inl next => exact proceeds next rfl
      | inr outcome => trivial
    · exact (archiver.opening cutoff).pursues_refl

/-- No search of a cycle breaks off where the candidates have an order. -/
theorem mayCall_steady {among : Value → Prop} (orders : archiver.finder.Orders among)
    {now : Holdings}
    (candidates : ∀ id source, now.document? archiver.finder.root.index id = some source →
      archiver.finds cutoff source = true → among source)
    {call : Call} (made : archiver.MayCall cutoff call) : now.breaksOff call = false := by
  cases call with
  | search request =>
    rcases made with unsorted | ⟨limit, cursor, rfl⟩
    · exact Search.unsorted_steady unsorted _
    · exact orders.page_steady candidates limit cursor
  | bulkWrite _ _ | bulkDelete _ _ => rfl
  | reindex _ _ _ | deleteByQuery _ _ | ensureExists _ | refresh _ => rfl

end Archiver

end Archivist
