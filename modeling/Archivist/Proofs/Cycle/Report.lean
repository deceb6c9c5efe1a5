import Archivist.Proofs.Cycle.Phases
import Archivist.Proofs.Move.Effect
import Archivist.Proofs.Move.Failing

set_option autoImplicit false

namespace Archivist

open Calendar (Instant)
open Logbook (service Explained CallEntry)

def Call.filter? : Call → Option Filter
  | .reindex _ _ filter | .deleteByQuery _ filter => some filter
  | .search _ | .bulkWrite .. | .bulkDelete .. | .ensureExists _ | .refresh _ => none

def Call.destination? : Call → Option String
  | .ensureExists destination | .reindex _ destination _ | .refresh destination => some destination
  | .search request => some request.index
  | .bulkWrite .. | .bulkDelete .. | .deleteByQuery .. => none

namespace Logbook

abbrev GoesOn (kind : Call → Prop) : List CallEntry → List CallEntry → Prop :=
  Grows fun entry => kind entry.event.call

/-- All that was copied or deleted was asked for by the ids of some batches. -/
def NamesOnly (log : Logbook) (batches : List Batch) : Prop :=
  ∀ entry ∈ log.calls, ∀ filter, entry.event.call.filter? = some filter →
    ∃ batch ∈ batches, ∃ field, filter = .terms field (Mover.texts batch.ids)

theorem Extends.goesOn {kind : Call → Prop} {log after : Logbook} (extended : log.Extends kind after) :
    GoesOn kind log.calls after.calls := by
  obtain ⟨more, same, all⟩ := extended.calls
  exact ⟨more, same, fun entry member => (all entry member).2⟩

end Logbook

open Logbook (GoesOn)

namespace Discovery

variable {log after : Logbook}

theorem explained_fetch (discovery : Discovery) :
    (Logbook.setting fun _ => True).Ensures (fun fetched after => Explained fetched.2 after)
      discovery.fetch log := by
  rw [fetch]
  refine (Logbook.ends_call _ _ (.search discovery.search)).bind ?_
  intro reply after ends
  rcases reply with failure | page
  · simp only
    split
    · rename_i failed
      split at failed <;> cases failed
      rintro _ ⟨⟩
      exact ends
    · split
      · rintro _ ⟨⟩
      · trivial
  · simp only
    split
    · rintro _ ⟨⟩
    · trivial

theorem explained_turn (discovery : Discovery) :
    (Logbook.setting fun _ => True).Ensures (fun turned after => ∀ rest result,
      turned = .inr (rest, result) → Explained result after) discovery.turn log := by
  rw [turn]
  cases discovery.draw with
  | batch batch rest =>
    rintro _ _ ⟨⟩ _ ⟨⟩
  | finished =>
    rintro _ _ ⟨⟩ _ ⟨⟩
  | fetch =>
    refine discovery.explained_fetch.bind ?_
    rintro ⟨next, failure | _⟩ after explained
    · rintro _ _ ⟨⟩ _ ⟨⟩
      exact explained failure rfl
    · rintro _ _ ⟨⟩

theorem Brings.explained {discovery rest : Discovery} {result : Except ArchiveFailure (Option Batch)}
    (brings : discovery.Brings log rest result after) : Explained result after := by
  obtain ⟨fuel, reached⟩ := brings
  have ensured : (Logbook.setting fun _ => True).Ensures (fun found after => Explained found.2 after)
      (discovery.next fuel) log := by
    refine Setting.Ensures.unfold (fun _ _ _ => True) (fun _ _ _ => trivial) ?_ fuel discovery log
      trivial
    intro left next now _
    refine next.explained_turn.mono ?_
    intro turned after explained
    rcases turned with onward | ⟨rest, result⟩
    · trivial
    · exact explained rest result rfl
  exact (ensured.holds trivial reached).2

end Discovery

namespace Mover

variable {mover : Mover} {suffix : String} {ids : List String} {batch : Batch} {call : Call}

theorem filter_of_planned {transfer : Transfer} (planned : transfer ∈ mover.transfers suffix ids) :
    ∃ field, transfer.filter = .terms field (texts ids) := by
  obtain ⟨collection, _, rfl⟩ := exists_collection planned
  exact ⟨_, rfl⟩

theorem Makes.names {filter : Filter} (makes : mover.Makes suffix ids call)
    (chosen : call.filter? = some filter) :
    ∃ field, filter = .terms field (texts ids) := by
  cases call with
  | reindex source destination own =>
    cases chosen
    exact filter_of_planned makes
  | deleteByQuery index own =>
    cases chosen
    obtain ⟨transfer, planned, _, rfl⟩ := makes
    exact filter_of_planned planned
  | search _ | bulkWrite _ _ | bulkDelete _ _ | ensureExists _ | refresh _ => cases chosen

theorem Makes.destined {destination : String} (makes : mover.Makes suffix ids call)
    (used : call.destination? = some destination) :
    ∃ base, mover.IsLive base ∧ destination = base ++ suffix := by
  have planned : ∃ transfer ∈ mover.transfers suffix ids, transfer.destination = destination := by
    cases call with
    | ensureExists _ | refresh _ =>
      cases used
      exact makes
    | reindex source _ filter =>
      cases used
      exact ⟨_, makes, rfl⟩
    | search request =>
      cases used
      exact ⟨_, List.mem_cons_self, congrArg Search.index makes.symm⟩
    | bulkWrite _ _ | bulkDelete _ _ | deleteByQuery _ _ => cases used
  obtain ⟨transfer, listed, rfl⟩ := planned
  exact ⟨transfer.source, isLive_source listed, destination_eq listed⟩

end Mover

namespace Cycle

variable {mover : Mover} {discovery rest : Discovery} {log begun after : Logbook}
  {batches : List Batch} {batch : Batch} {ending : Ending}

def Calls (mover : Mover) (finder : Finder) (batches : List Batch) (call : Call) : Prop :=
  finder.Seeks call ∨ ∃ batch ∈ batches, mover.MakesFor batch call

theorem Calls.mono {finder : Finder} {more : List Batch} {call : Call}
    (calls : Calls mover finder batches call) (further : batches ⊆ more) :
    Calls mover finder more call :=
  calls.imp_right fun ⟨batch, among, made⟩ => ⟨batch, further among, made⟩

theorem goesOn_of_move {found moved : Logbook} {result : Except ArchiveFailure Nat}
    (brings : discovery.Brings log rest (.ok (some batch)) found)
    (move : (mover.move batch).Reaches service (found.enter .moving) moved (.finish result)) :
    GoesOn (Calls mover discovery.finder [batch]) log.calls moved.calls := by
  have making := (Mover.extends_of_move move).2.goesOn
  rw [found.calls_enter] at making
  exact (brings.extended.2.goesOn.imp fun _ => Or.inl).trans
    (making.imp fun _ made => Or.inr ⟨batch, List.mem_singleton_self batch, made⟩)

theorem Archives.calls (archives : Archives mover discovery log batches rest begun) :
    rest.finder = discovery.finder ∧
      GoesOn (Calls mover discovery.finder batches) log.calls begun.calls := by
  induction archives with
  | nothing => exact ⟨rfl, .refl _⟩
  | @further discovery rest last log found moved final batch batches count brings move onward ih =>
    obtain ⟨finder, later⟩ := ih
    rw [moved.calls_enter, brings.extended.1] at later
    refine ⟨finder.trans brings.extended.1, ?_⟩
    exact ((goesOn_of_move brings move).imp fun _ calls =>
        calls.mono (List.cons_subset_cons batch (List.nil_subset batches))).trans
      (later.imp fun _ calls => calls.mono (List.subset_cons_self batch batches))

theorem namesOnly_of_goesOn {finder : Finder} {first : List CallEntry} (none_ : first = [])
    (goesOn : GoesOn (Calls mover finder batches) first after.calls) : after.NamesOnly batches := by
  obtain ⟨more, same, all⟩ := goesOn
  rw [none_, List.nil_append] at same
  intro entry member filter chosen
  rw [same] at member
  rcases all entry member with ⟨request, searches, _⟩ | ⟨batch, among, suffix, _, makes⟩
  · rw [searches] at chosen
    cases chosen
  · exact ⟨batch, among, makes.names chosen⟩

/-- The next page cannot be fetched after some batches have been moved. The failure names neither a
date nor ids. -/
structure FailsToFetch (batches : List Batch) (rest : Discovery) (begun after : Logbook)
    (failure : CycleFailure) : Prop where
  unfetched : ∃ further, rest.Brings begun further (.error failure.cause) after
  finishDate : failure.finishDate = ""
  idCount : failure.idCount = 0
  archivedBefore : failure.archivedBefore = rootCount batches
  /-- The last call is the one that failed. -/
  explained : after.Ends fun last => last.Explains failure.cause
  namesOnly : after.NamesOnly batches

/-- The next batch cannot be moved after some others have been. The failure names the date that its
destinations carry, and how many ids it has. -/
structure FailsToMove (mover : Mover) (batches : List Batch) (batch : Batch) (rest : Discovery)
    (begun after : Logbook) (failure : CycleFailure) : Prop where
  unmoved : ∃ further found, rest.Brings begun further (.ok (some batch)) found ∧
    (mover.move batch).Reaches service (found.enter .moving) after
      (.finish (.error failure.cause)) ∧
    GoesOn (fun call => ∀ destination, call.destination? = some destination →
      ∃ base, mover.IsLive base ∧ destination = base ++ failure.finishDate) found.calls after.calls
  finishDate : mover.namer.suffix batch.finishDate = some failure.finishDate
  idCount : failure.idCount = batch.ids.length
  archivedBefore : failure.archivedBefore = rootCount batches
  /-- The last call is the one that failed or found too little. -/
  explained : after.Ends fun last => last.Explains failure.cause
  namesOnly : after.NamesOnly (batches ++ [batch])

section Ends

variable {failure : CycleFailure}

theorem Stops.tells (archives : Archives mover discovery (.enter .blank .fetching) batches rest begun)
    (stops : Stops mover rest begun ending after)
    (failed : ending.outcome (rootCount batches) = .error failure) :
    FailsToFetch batches rest begun after failure ∨
      ∃ batch, FailsToMove mover batches batch rest begun after failure := by
  obtain ⟨finder, calls⟩ := archives.calls
  cases stops with
  | finished => cases failed
  | unfetched brings =>
    cases failed
    refine Or.inl ⟨⟨_, brings⟩, rfl, rfl, rfl, brings.explained _ rfl, ?_⟩
    have seeking := brings.extended.2.goesOn
    rw [finder] at seeking
    exact namesOnly_of_goesOn (Logbook.calls_enter _ _)
      (calls.trans (seeking.imp fun _ => Or.inl))
  | @unmoved _ found _ batch finishDate _ brings named refused =>
    cases failed
    refine Or.inr ⟨batch, ⟨_, found, brings, refused, ?_⟩, named, rfl, rfl,
      Mover.explained_move refused, ?_⟩
    · have making := (Mover.extends_of_move refused).2.goesOn
      rw [found.calls_enter] at making
      refine making.imp fun call made => ?_
      obtain ⟨suffix, same, makes⟩ := made
      rw [named] at same
      cases same
      exact fun destination used => makes.destined used
    · have last := goesOn_of_move brings refused
      rw [finder] at last
      refine namesOnly_of_goesOn (Logbook.calls_enter _ _) (.trans
        (calls.imp fun _ made => made.mono (List.subset_append_left batches [batch]))
        (last.imp fun _ made => made.mono (List.subset_append_right batches [batch])))

theorem FailsToFetch.stops (fails : FailsToFetch batches rest begun after failure) :
    Stops mover rest begun (.unfetched failure.cause) after ∧
      (Ending.unfetched failure.cause).outcome (rootCount batches) = .error failure := by
  obtain ⟨⟨_, brings⟩, finishDate, idCount, archivedBefore, _, _⟩ := fails
  refine ⟨.unfetched brings, ?_⟩
  rw [Ending.outcome, ← finishDate, ← idCount, ← archivedBefore]

theorem FailsToMove.stops (fails : FailsToMove mover batches batch rest begun after failure) :
    Stops mover rest begun (.unmoved batch failure.finishDate failure.cause) after ∧
      (Ending.unmoved batch failure.finishDate failure.cause).outcome (rootCount batches) =
        .error failure := by
  obtain ⟨⟨_, _, brings, refused, _⟩, finishDate, idCount, archivedBefore, _, _⟩ := fails
  refine ⟨.unmoved brings finishDate refused, ?_⟩
  rw [Ending.outcome, ← idCount, ← archivedBefore]

end Ends

end Cycle

/-- Whatever is answered, a cycle fails just when it has archived some batches and then cannot fetch
the next page or cannot move the next batch. It tells which it is, and makes no call after the one
that failed. -/
theorem Archiver.failed_cycles_tell_where_they_stopped (archiver : Archiver) (now : Instant)
    (failure : CycleFailure) (last : Logbook) :
    (∃ fuel, (archiver.cycle fuel now).Reaches service .blank last (.finish (.error failure))) ↔
      archiver.partitions.isEmpty = false ∧ ∃ discovery batches rest begun after,
        archiver.finder.begin archiver.partitions.ids archiver.batchSize now = some discovery ∧
        Cycle.Archives archiver.mover discovery (.enter .blank .fetching) batches rest begun ∧
        (Cycle.FailsToFetch batches rest begun after failure ∨
          ∃ batch, Cycle.FailsToMove archiver.mover batches batch rest begun after failure) ∧
        last = after.conclude (.error failure) ∧ last.calls = after.calls := by
  rw [archiver.exists_reaches_cycle]
  constructor
  · intro followed
    split at followed <;> rename_i owned
    · cases followed.1
    · obtain ⟨discovery, batches, ending, after, begins, course, failed, rfl⟩ := followed
      obtain ⟨rest, begun, archives, stops⟩ := course
      exact ⟨Bool.eq_false_iff.mpr owned, discovery, batches, rest, begun, after, begins, archives,
        stops.tells archives failed, rfl, after.calls_conclude _⟩
  · rintro ⟨owned, discovery, batches, rest, begun, after, begins, archives, fails, rfl, _⟩
    rw [if_neg (Bool.eq_false_iff.mp owned)]
    rcases fails with fails | ⟨batch, fails⟩
    · obtain ⟨stops, failed⟩ := fails.stops
      exact ⟨discovery, batches, _, after, begins, ⟨rest, begun, archives, stops⟩, failed, rfl⟩
    · obtain ⟨stops, failed⟩ := fails.stops
      exact ⟨discovery, batches, _, after, begins, ⟨rest, begun, archives, stops⟩, failed, rfl⟩

/-- When the destination of the events of a first batch is refused, the failure names its date and
counts its one root. -/
example : (Dialogue.follow (Logbook.serve fun call log =>
      if log.calls.length = 4 then some (.error (.rejected 400 ""))
      else Archiver.specimenReply call log) 60 .blank
    (Archiver.specimen.cycle 5 Archiver.specimenWorld.now)).2.result? = some (.error ⟨"x", 1, 0,
      .preparation "eventsx" (.rejected 400 "")⟩) := by
  decide +kernel

end Archivist
