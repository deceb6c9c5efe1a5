import Archivist.Proofs.Dialogue.Account
import Archivist.Proofs.Move.Warrant

set_option autoImplicit false

namespace Archivist

variable {calls : Call → Prop} {state : Unit}

namespace Work

theorem asks_ensure (policy : RetryPolicy) {destination : String}
    (made : calls (.ensureExists destination)) :
    (within calls).Ensures (fun _ _ => True) (Work.ensure policy destination) state := by
  refine ⟨trivial, fun known after _ => ⟨trivial, ?_⟩⟩
  simp only [Dialogue.finish_bind]
  split
  · trivial
  · rw [Setting.ensures_andThen, Setting.ensures_mapFailure]
    refine (asks_call policy _ made).mono ?_
    intro reply after _
    cases reply with
    | error failure => trivial
    | ok outcome => exact ⟨trivial, fun _ _ _ => ⟨trivial, trivial⟩⟩

end Work

namespace Discovery

/-- One search for batches looks for the same roots as another. -/
structure Pursues (discovery next : Discovery) : Prop where
  finder : next.finder = discovery.finder
  partitions : next.partitions = discovery.partitions
  cutoff : next.cutoff = discovery.cutoff

theorem pursues_refl (discovery : Discovery) : discovery.Pursues discovery := ⟨rfl, rfl, rfl⟩

theorem Pursues.trans {discovery next last : Discovery} (first : discovery.Pursues next)
    (second : next.Pursues last) : discovery.Pursues last where
  finder := second.finder.trans first.finder
  partitions := second.partitions.trans first.partitions
  cutoff := second.cutoff.trans first.cutoff

theorem pursues_of_absorb {discovery next : Discovery} {page : List Record}
    (absorbed : discovery.absorb page = some next) : discovery.Pursues next := by
  rw [absorb, Option.map_eq_some_iff] at absorbed
  obtain ⟨batches, _, rfl⟩ := absorbed
  exact ⟨rfl, rfl, rfl⟩

theorem asks_fetch (discovery : Discovery) (searches : calls (.search discovery.search)) :
    (Work.within calls).Ensures (fun fetched _ => discovery.Pursues fetched.1) discovery.fetch
      state := by
  rw [fetch]
  refine (Work.asks_call _ _ searches).bind ?_
  intro reply after _
  simp only
  split
  · exact ⟨rfl, rfl, rfl⟩
  · split
    · rename_i absorbed
      exact pursues_of_absorb absorbed
    · trivial

end Discovery

namespace Mover

variable {mover : Mover} {suffix : String} {ids : List String}

theorem deleteAll_append (first second : List Transfer) :
    mover.deleteAll (first ++ second) =
      (mover.deleteAll first).andThen fun _ => mover.deleteAll second := by
  induction first with
  | nil => rfl
  | cons transfer rest ih =>
    simp only [List.cons_append, deleteAll, Dialogue.andThen_andThen, ih]

variable (mover suffix ids)

/-- The steps of a move before its roots are deleted. -/
def clear : Work (Except ArchiveFailure Unit) :=
  let roots := mover.rootTransfer suffix ids
  ((mover.copy roots).onFailure (Work.count .reindexFailures 1)).andThen fun _ =>
  (mover.countArchived roots.destination ids).andThen fun found =>
    if found < ids.length then
      (Work.count .reindexFailures 1).bind fun _ =>
        .finish (.error (.incomplete roots.source roots.destination ids.length found))
    else
      (mover.copyDependents suffix ids mover.separateDependents).andThen fun others =>
      (mover.refreshAll (roots :: others)).andThen fun _ => mover.deleteAll others.reverse

/-- The roots are the last to be deleted. -/
theorem moveTo_eq : mover.moveTo suffix ids = (mover.clear suffix ids).andThen fun _ =>
    (mover.deleteAll [mover.rootTransfer suffix ids]).andThen fun _ =>
      .finish (.ok ids.length) := by
  simp only [moveTo, clear, Dialogue.andThen_andThen]
  congr 1
  funext _
  congr 1
  funext found
  split
  · rfl
  · simp only [Dialogue.andThen_andThen, List.reverse_cons, deleteAll_append]

/-- The calls that a move makes before it deletes its roots. -/
structure Allows (calls : Call → Prop) : Prop where
  verifies : calls (.search (mover.verification (mover.rootTransfer suffix ids).destination ids))
  refreshes : ∀ transfer ∈ mover.transfers suffix ids, calls (.refresh transfer.destination)
  makes : ∀ transfer ∈ mover.transfers suffix ids, calls (.ensureExists transfer.destination)
  copies : ∀ transfer ∈ mover.transfers suffix ids, calls transfer.copying
  deletes : ∀ dependent ∈ mover.separateDependents,
    calls (dependentTransfer dependent suffix ids).deletion

variable {mover suffix ids}

theorem asks_copy (allows : mover.Allows suffix ids calls) {transfer : Transfer}
    (planned : transfer ∈ mover.transfers suffix ids) :
    (Work.within calls).Ensures (fun _ _ => True) (mover.copy transfer) state := by
  rw [copy, Setting.ensures_andThen]
  refine (Work.asks_ensure _ (allows.makes transfer planned)).mono ?_
  intro made after _
  cases made with
  | error failure => trivial
  | ok made =>
    rw [Setting.ensures_andThen, Setting.ensures_mapFailure]
    refine (Work.asks_call _ _ (allows.copies transfer planned)).mono ?_
    intro reply after _
    cases reply <;> trivial

theorem asks_copyDependents (allows : mover.Allows suffix ids calls) (dependents : List Dependent)
    (separate : ∀ dependent ∈ dependents, dependent ∈ mover.separateDependents) :
    (Work.within calls).Ensures (fun result _ => ∀ others, result = .ok others →
      ∀ transfer ∈ others, ∃ dependent ∈ mover.separateDependents,
        transfer = dependentTransfer dependent suffix ids)
      (mover.copyDependents suffix ids dependents) state := by
  induction dependents generalizing state with
  | nil =>
    intro others same
    cases same
    simp only [List.not_mem_nil, false_implies, implies_true]
  | cons dependent rest ih =>
    have listed := separate dependent List.mem_cons_self
    have later := fun other (member : other ∈ rest) =>
      separate other (List.mem_cons_of_mem dependent member)
    have planned : dependentTransfer dependent suffix ids ∈ mover.transfers suffix ids :=
      List.mem_cons_of_mem _ (List.mem_map_of_mem listed)
    rw [copyDependents, Setting.ensures_bind]
    refine (asks_copy allows planned).mono ?_
    intro copied after _
    rcases copied with failure | _
    · simp only
      split
      · exact (Work.asks_count rfl 1).bind fun _ _ _ => ih later
      · exact (Work.asks_count rfl 1).bind fun _ _ _ _ same => by cases same
    · simp only
      rw [Setting.ensures_andThen]
      refine (ih later).mono ?_
      intro result after among
      rcases result with failure | others
      · exact nofun
      · intro transfers same transfer member
        cases same
        rcases List.mem_cons.mp member with rfl | further
        · exact ⟨dependent, listed, rfl⟩
        · exact among others rfl transfer further

theorem asks_refreshAll (allows : mover.Allows suffix ids calls) (transfers : List Transfer)
    (planned : ∀ transfer ∈ transfers, transfer ∈ mover.transfers suffix ids) :
    (Work.within calls).Ensures (fun _ _ => True) (mover.refreshAll transfers) state := by
  induction transfers generalizing state with
  | nil => trivial
  | cons transfer rest ih =>
    have listed := planned transfer List.mem_cons_self
    rw [refreshAll, Setting.ensures_andThen, Setting.ensures_mapFailure]
    refine (Work.asks_call _ _ (allows.refreshes transfer listed)).mono ?_
    intro reply after _
    cases reply with
    | error failure => trivial
    | ok done => exact ih fun other member => planned other (List.mem_cons_of_mem transfer member)

theorem asks_deleteAll (transfers : List Transfer)
    (deletes : ∀ transfer ∈ transfers, calls transfer.deletion) :
    (Work.within calls).Ensures (fun _ _ => True) (mover.deleteAll transfers) state := by
  induction transfers generalizing state with
  | nil => trivial
  | cons transfer rest ih =>
    rw [deleteAll, Setting.ensures_andThen, Setting.ensures_mapFailure, Setting.ensures_onFailure]
    refine (Work.asks_call _ _ (deletes transfer List.mem_cons_self)).mono ?_
    intro reply after _
    cases reply with
    | error failure => exact Work.asks_count rfl 1
    | ok count => exact ih fun other member => deletes other (List.mem_cons_of_mem transfer member)

theorem asks_clear (allows : mover.Allows suffix ids calls) :
    (Work.within calls).Ensures (fun _ _ => True) (mover.clear suffix ids) state := by
  rw [clear, Setting.ensures_andThen, Setting.ensures_onFailure]
  refine (asks_copy allows List.mem_cons_self).mono ?_
  intro copied after _
  rcases copied with failure | _
  · exact Work.asks_count rfl 1
  simp only
  rw [Setting.ensures_andThen, countArchived, Setting.ensures_andThen, Setting.ensures_mapFailure]
  refine (Work.asks_call _ _ allows.verifies).mono ?_
  intro found after _
  rcases found with failure | found
  · trivial
  simp only [Except.mapError, Setting.Ensures]
  split
  · exact (Work.asks_count rfl 1).bind fun _ _ _ => trivial
  rw [Setting.ensures_andThen]
  refine (asks_copyDependents allows mover.separateDependents fun _ => id).mono ?_
  intro copied after among
  rcases copied with failure | others
  · trivial
  simp only
  rw [Setting.ensures_andThen]
  refine (asks_refreshAll allows _ fun transfer member => ?_).mono ?_
  · rcases List.mem_cons.mp member with rfl | later
    · exact List.mem_cons_self
    · obtain ⟨dependent, listed, rfl⟩ := among others rfl transfer later
      exact List.mem_cons_of_mem _ (List.mem_map_of_mem listed)
  intro refreshed after _
  rcases refreshed with failure | _
  · trivial
  refine asks_deleteAll _ fun transfer member => ?_
  obtain ⟨dependent, listed, rfl⟩ := among others rfl transfer (List.mem_reverse.mp member)
  exact allows.deletes dependent listed

theorem asks_moveTo (allows : mover.Allows suffix ids calls)
    (last : calls (mover.rootTransfer suffix ids).deletion) :
    (Work.within calls).Ensures (fun result _ => ∀ count, result = .ok count → count = ids.length)
      (mover.moveTo suffix ids) state := by
  rw [moveTo_eq, Setting.ensures_andThen]
  refine (asks_clear allows).mono ?_
  intro cleared after _
  rcases cleared with failure | _
  · exact nofun
  simp only
  rw [Setting.ensures_andThen]
  refine (asks_deleteAll _ ?_).mono ?_
  · intro transfer member
    cases List.mem_singleton.mp member
    exact last
  · intro deleted after _
    rcases deleted with failure | _
    · exact nofun
    · intro count same
      cases same
      rfl

def Makes (mover : Mover) (suffix : String) (ids : List String) : Call → Prop
  | .ensureExists destination | .refresh destination =>
    ∃ transfer ∈ mover.transfers suffix ids, transfer.destination = destination
  | .reindex source destination filter =>
    ⟨source, destination, filter⟩ ∈ mover.transfers suffix ids
  | .search request =>
    request = mover.verification (mover.rootTransfer suffix ids).destination ids
  | .deleteByQuery index filter =>
    ∃ transfer ∈ mover.transfers suffix ids, transfer.source = index ∧ transfer.filter = filter
  | .bulkWrite .. | .bulkDelete .. => False

theorem Allows.imp {others : Call → Prop} (allows : mover.Allows suffix ids calls)
    (implies : ∀ call, calls call → others call) : mover.Allows suffix ids others where
  verifies := implies _ allows.verifies
  refreshes transfer planned := implies _ (allows.refreshes transfer planned)
  makes transfer planned := implies _ (allows.makes transfer planned)
  copies transfer planned := implies _ (allows.copies transfer planned)
  deletes dependent listed := implies _ (allows.deletes dependent listed)

theorem allows_makes : mover.Allows suffix ids (mover.Makes suffix ids) where
  verifies := rfl
  refreshes transfer planned := ⟨transfer, planned, rfl⟩
  makes transfer planned := ⟨transfer, planned, rfl⟩
  copies _ planned := planned
  deletes _ listed := ⟨_, List.mem_cons_of_mem _ (List.mem_map_of_mem listed), rfl, rfl⟩

theorem asks_move (batch : Batch)
    (allows : ∀ suffix, mover.namer.suffix batch.finishDate = some suffix →
      mover.Allows suffix batch.ids calls ∧ calls (mover.rootTransfer suffix batch.ids).deletion) :
    (Work.within calls).Ensures
      (fun result _ => ∀ count, result = .ok count → count = batch.ids.length)
      (mover.move batch) state := by
  rw [move]
  split
  · rename_i empty
    intro count same
    cases same
    rw [List.isEmpty_iff.mp empty, List.length_nil]
  rw [Namer.suffixOrCrash]
  split
  · rename_i suffix named
    exact asks_moveTo (allows suffix named).1 (allows suffix named).2
  · trivial

def MakesFor (mover : Mover) (batch : Batch) (call : Call) : Prop :=
  ∃ suffix, mover.namer.suffix batch.finishDate = some suffix ∧
    mover.Makes suffix batch.ids call

theorem asks_move_for (batch : Batch) :
    (Work.within (mover.MakesFor batch)).Ensures
      (fun result _ => ∀ count, result = .ok count → count = batch.ids.length)
      (mover.move batch) state := by
  refine asks_move batch fun suffix named => ⟨?_, suffix, named, ?_⟩
  · exact allows_makes.imp fun call made => ⟨suffix, named, made⟩
  · exact ⟨_, List.mem_cons_self, rfl, rfl⟩

end Mover

end Archivist
