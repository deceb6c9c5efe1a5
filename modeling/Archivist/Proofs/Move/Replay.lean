import Archivist.Proofs.Move.Calm

set_option autoImplicit false

namespace Archivist

open Json (Value)

namespace Mover

/-- A type that is moved on its own lives in the index of the roots all the same. It takes a
document which the roots leave behind, and which is no root of the batch, to where such a root lies
already. -/
def Displaces (mover : Mover) (suffix : String) (ids : List String) (start : Holdings) : Prop :=
  ∃ dependent ∈ mover.separateDependents, dependent.index = mover.root.index ∧
    ∃ id source root, start.document? mover.root.index id = some source ∧
      (dependentTransfer dependent suffix ids).filter.accepts source = true ∧
      (mover.rootTransfer suffix ids).filter.accepts source = false ∧
      ¬mover.IsBatchRoot ids source ∧
      start.document? (mover.root.index ++ suffix) id = some root ∧ mover.IsBatchRoot ids root

variable {mover : Mover} {suffix : String} {ids : List String} {start now final : Holdings}

theorem isLive_root : mover.IsLive mover.root.index := isLive_of_mem List.mem_cons_self

/-- The document under an id that the roots take along, or else the one that is in their destination
already. -/
theorem document?_after_rootTransfer (now : Holdings) (id : String) :
    (now.after (mover.rootTransfer suffix ids).copying).document? (mover.root.index ++ suffix) id =
      ((now.document? mover.root.index id).filter fun source =>
        (mover.rootTransfer suffix ids).filter.accepts source).or
          (now.document? (mover.root.index ++ suffix) id) := by
  rw [Transfer.copying, Holdings.document?_after_reindex]
  exact if_pos rfl

theorem Lands.between {id : String} (lands : mover.Lands suffix ids start id)
    (apart : mover.Apart suffix) (spares : ¬mover.Displaces suffix ids start)
    (between : mover.Between (· = suffix) (mover.Along suffix ids) start now) :
    mover.Lands suffix ids now id := by
  obtain ⟨source, landed, root⟩ := lands
  have elsewhere : ¬mover.IsLive (mover.root.index ++ suffix) :=
    fun live => apart _ _ isLive_root live rfl
  rw [document?_after_rootTransfer] at landed
  simp only [Lands, document?_after_rootTransfer]
  cases copied : (now.document? mover.root.index id).filter fun source =>
      (mover.rootTransfer suffix ids).filter.accepts source with
  | some moved =>
    -- What is copied now was there to be copied at the start.
    obtain ⟨held, accepted⟩ := Option.filter_eq_some_iff.mp copied
    rw [between.stays _ isLive_root id moved held, Option.filter_some, accepted, if_pos rfl,
      Option.some_or] at landed
    exact ⟨source, landed, root⟩
  | none =>
    rw [Option.none_or]
    rcases Option.or_eq_some_iff.mp landed with taken | ⟨left, there⟩
    · -- What was to be copied at the start has been copied.
      obtain ⟨held, accepted⟩ := Option.filter_eq_some_iff.mp taken
      rcases between.found _ isLive_root id source held with still | ⟨another, along, there⟩
      · rw [still, Option.filter_some, accepted, if_pos rfl] at copied
        cases copied
      · rw [along.1] at there
        exact ⟨source, there, root⟩
    · -- What lay there at the start has kept its place, or a root has taken it.
      rcases between.arrived _ elsewhere id with
        unchanged | ⟨base, another, moved, live, same, held, along, arrived⟩
      · rw [unchanged]
        exact ⟨source, there, root⟩
      · obtain ⟨rfl, transfer, planned, from_, accepted⟩ := along
        obtain rfl := String.append_left_inj another |>.mp same
        refine ⟨moved, arrived, ?_⟩
        by_contra stranger
        rcases List.mem_cons.mp planned with rfl | later
        · rw [held, Option.filter_some, accepted, if_pos rfl] at left
          cases left
        · obtain ⟨dependent, listed, rfl⟩ := List.mem_map.mp later
          rw [held] at left
          have ignored := Option.filter_eq_none_iff.mp left moved rfl
          exact spares ⟨dependent, listed, from_, id, moved, source, held, accepted,
            Bool.eq_false_iff.mpr ignored, stranger, there, root⟩

theorem Movable.between (movable : mover.Movable suffix ids start) (apart : mover.Apart suffix)
    (spares : ¬mover.Displaces suffix ids start)
    (between : mover.Between (· = suffix) (mover.Along suffix ids) start now) :
    mover.Movable suffix ids now where
  rooted := between.kept _ movable.rooted
  present dependent listed := (movable.present dependent listed).imp_left (between.kept _)
  counted := by
    obtain ⟨names, once, enough, landed⟩ := movable.counted
    exact ⟨names, once, enough, fun id member => (landed id member).between apart spares between⟩

theorem Moved.from_start (moved : mover.Moved suffix ids now final) (apart : mover.Apart suffix)
    (between : mover.Between (· = suffix) (mover.Along suffix ids) start now) :
    mover.Moved suffix ids start final where
  between := between.trans apart.separates (fun _ _ _ => And.left) moved.between
  gone := moved.gone
  made := moved.made

theorem moved_unique {other : Holdings} (moved : mover.Moved suffix ids start final)
    (also : mover.Moved suffix ids start other) : final = other :=
  settled_unique moved.settled also.settled

/-- From any point on the way a move that nothing goes wrong in comes to the same end. -/
theorem Moved.ensures_again (moved : mover.Moved suffix ids start final)
    (movable : mover.Movable suffix ids start) (apart : mover.Apart suffix)
    (spares : ¬mover.Displaces suffix ids start) (site : Site Holdings)
    (between : mover.Between (· = suffix) (mover.Along suffix ids) start site.store)
    (mindful : ∀ destination, site.recalls destination = true →
      (site.store.documents? destination).isSome = true) :
    Backend.calm.Ensures (fun result later => result = .ok ids.length ∧ later.store = final)
      (mover.moveTo suffix ids) site := by
  refine (ensures_moveTo_calm apart site mindful).mono ?_
  intro result later reached
  rcases result with failure | count
  · exact absurd (movable.between apart spares between) reached
  · obtain ⟨rfl, _, again, _⟩ := reached
    exact ⟨rfl, moved_unique (again.from_start apart between) moved⟩

theorem Runs.along {troubles : Troubles} {batch : Batch} {batches : List Batch}
    (runs : mover.Runs troubles start batches now) (again : ∀ other ∈ batches, other = batch)
    (apart : mover.Apart suffix) (named : mover.namer.suffix batch.finishDate = some suffix) :
    mover.Between (· = suffix) (mover.Along suffix batch.ids) start now := by
  have among : ∀ other ∈ batches, other ∈ [batch] :=
    fun other member => List.mem_singleton.mpr (again other member)
  refine runs.takes among apart.separates (fun _ _ _ => And.left) ?used ?leaving
  case used =>
    intro another used
    obtain ⟨other, member, same⟩ := used
    rw [List.mem_singleton.mp member, named] at same
    exact (Option.some.inj same).symm
  case leaving =>
    intro other member another same
    cases List.mem_singleton.mp member
    cases named.symm.trans same
    exact takesLeaving_along mover suffix batch.ids start

theorem Runs.eq_of_empty {troubles : Troubles} {batches : List Batch}
    (runs : mover.Runs troubles start batches now) (empty : ∀ batch ∈ batches, batch.ids = []) :
    now = start := by
  induction runs with
  | begun => rfl
  | moved earlier policy batch recalls after rest reached ih =>
    have nothing := empty batch (List.mem_append_right _ List.mem_cons_self)
    rw [move, nothing] at reached
    cases reached
    exact ih fun other member => empty other (List.mem_append_left _ member)

/-- If nothing goes wrong in moving a batch and it succeeds, then whatever went wrong before, and
however often, the batch can still be moved: a move that nothing goes wrong in says the same and
leaves the same contents. So does a second move after the first one. -/
theorem replays_converge (mover : Mover) (batch : Batch) (start : Holdings)
    (recalls : String → Bool) (after : Site Holdings) (count : Nat)
    (apart : ∀ base destination, mover.IsLive base →
      mover.namer.resolve base (some batch.finishDate) = some destination →
        ¬mover.IsLive destination)
    (spares : ∀ suffix, mover.namer.suffix batch.finishDate = some suffix →
      ¬mover.Displaces suffix batch.ids start)
    (mindful : ∀ destination, recalls destination = true →
      (start.documents? destination).isSome = true)
    (first : (mover.move batch).Reaches Backend.calm.service ⟨start, recalls⟩ after
      (.finish (.ok count))) :
    (∀ batches now recalled, (∀ other ∈ batches, other = batch) →
      mover.Runs .any start batches now →
      (∀ destination, recalled destination = true →
        (now.documents? destination).isSome = true) →
        Backend.calm.Ensures (fun result later => result = .ok count ∧ later.store = after.store)
          (mover.move batch) ⟨now, recalled⟩) ∧
      Backend.calm.Ensures (fun result later => result = .ok count ∧ later.store = after.store)
        (mover.move batch) after := by
  by_cases empty : batch.ids = []
  · rw [move, if_pos (List.isEmpty_iff.mpr empty)] at first ⊢
    cases first
    refine ⟨fun batches now recalled again runs _ => ⟨rfl, ?_⟩, rfl, rfl⟩
    refine runs.eq_of_empty fun other member => ?_
    rw [again other member, empty]
  · cases named : mover.namer.suffix batch.finishDate with
    | none =>
      rw [move_of_unnamed empty named] at first
      cases first
    | some suffix =>
      have separate : mover.Apart suffix := by
        intro base other live also same
        refine apart base other live ?_ also
        rw [Namer.resolve, named, Option.map_some, same]
      rw [move_of_named empty named] at first ⊢
      have ended := ((ensures_moveTo_calm separate ⟨start, recalls⟩ mindful).holds trivial first).2
      obtain ⟨rfl, movable, moved, remembered⟩ := ended
      have onward := moved.ensures_again movable separate (spares suffix named)
      refine ⟨fun batches now recalled again runs known => ?_, ?_⟩
      · exact onward ⟨now, recalled⟩ (runs.along again separate named) known
      · exact onward after moved.between remembered

def specimenBatch : Batch := ⟨⟨2024, 1, 1⟩, ["7"]⟩

def specimenMoving (mover : Mover) (site : Site Holdings) :
    Site Holdings × Work (Except ArchiveFailure Nat) :=
  (mover.move specimenBatch).follow (Backend.serve Backend.oblige) 40 site

theorem reaches_specimenMoving (mover : Mover) (site : Site Holdings) :
    (mover.move specimenBatch).Reaches Backend.calm.service site (specimenMoving mover site).1
      (specimenMoving mover site).2 :=
  Dialogue.reaches_follow _ (Backend.service_serve _ _ (Backend.outages_oblige .calm)) 40 site _

/-- A store that never acknowledges a deletion is left with an archived event and a root that is
still live; the batch can be moved all the same. -/
theorem unacknowledged_deletion_is_replayed :
    ∃ now after, specimen.Runs .any specimenStart [specimenBatch] now ∧
      (now.document? "operate-list-view_" "r").isSome = true ∧
      (now.document? "events" "e").isSome = false ∧
      (after.document? "operate-list-view_" "r").isSome = false ∧
      Backend.calm.Ensures (fun result later => result = .ok 1 ∧ later.store = after)
        (specimen.move specimenBatch) ⟨now, fun _ => false⟩ := by
  have interrupted := Dialogue.reaches_follow (Backend.serve (Backend.lose .deleteByQuery))
    (Backend.service_serve (Backend.outages .any) _ (Backend.outages_lose .deleteByQuery)) 40
    ⟨specimenStart, fun _ => false⟩ (specimen.move specimenBatch)
  have runs : specimen.Runs .any specimenStart [specimenBatch] _ :=
    .moved .begun specimen.policy _ _ _ _ interrupted
  have first := reaches_specimenMoving specimen ⟨specimenStart, fun _ => false⟩
  have ended : (specimenMoving specimen ⟨specimenStart, fun _ => false⟩).2 = .finish (.ok 1) :=
    Dialogue.eq_finish_ok (by decide +kernel)
  rw [ended] at first
  have separates := specimen_separates (· = "x") fun _ marked => marked
  refine ⟨_, _, runs, by decide +kernel, by decide +kernel, by decide +kernel,
    (replays_converge specimen specimenBatch specimenStart _ _ 1 ?apart ?spares (fun _ => Bool.noConfusion) first).1
      _ _ _ (fun _ => List.mem_singleton.mp) runs fun _ => Bool.noConfusion⟩
  case apart =>
    intro base _ live equal
    cases equal
    exact fun other => separates.apart "x" rfl base _ live other rfl
  case spares =>
    intro suffix _ displaces
    obtain ⟨dependent, listed, same, _⟩ := displaces
    cases List.mem_singleton.mp listed
    exact absurd same (by decide)

def specimenSharing : Mover :=
  { specimen with dependents := [
    { Dependent.separate "activity" "operate-list-view_" with foreignKey := "parent" }] }

def specimenDisplaced : Holdings :=
  (Holdings.empty.write "operate-list-view_" [("r", .ofMembers [("parent", .nat 7)])]).write
    "operate-list-view_x" [("r", specimenRoot)]

/-- The activity takes the place of the archived root, which a second move misses. -/
theorem displaced_root_stops_replays :
    ¬∀ (mover : Mover) (batch : Batch) (start : Holdings) (recalls : String → Bool)
      (after : Site Holdings) (count : Nat),
      (∀ base destination, mover.IsLive base →
        mover.namer.resolve base (some batch.finishDate) = some destination →
          ¬mover.IsLive destination) →
      (∀ base other destination, mover.IsLive base → mover.IsLive other →
        mover.namer.resolve base (some batch.finishDate) = some destination →
          mover.namer.resolve other (some batch.finishDate) = some destination → base = other) →
      (∀ destination, recalls destination = true →
        (start.documents? destination).isSome = true) →
      (mover.move batch).Reaches Backend.calm.service ⟨start, recalls⟩ after
        (.finish (.ok count)) →
      Backend.calm.Ensures (fun result later => result = .ok count ∧ later.store = after.store)
        (mover.move batch) after := by
  intro claimed
  let site : Site Holdings := ⟨specimenDisplaced, fun _ => false⟩
  let between := (specimenMoving specimenSharing site).1
  have first := reaches_specimenMoving specimenSharing site
  have ended : (specimenMoving specimenSharing site).2 = .finish (.ok 1) :=
    Dialogue.eq_finish_ok (by decide +kernel)
  rw [ended] at first
  have again := claimed specimenSharing specimenBatch specimenDisplaced _ between 1 ?apart
    ?distinct (fun _ => Bool.noConfusion) first
  case apart =>
    intro base _ live equal
    cases equal
    rw [isLive_iff, show specimenSharing.collections.map Collection.index =
      ["operate-list-view_", "operate-list-view_"] from rfl] at live ⊢
    simp only [List.mem_cons, List.not_mem_nil, or_false, or_self] at live
    subst live
    decide
  case distinct =>
    intro base other _ _ _ equal same
    cases equal
    exact (String.append_left_inj "x").mp (Option.some.inj same).symm
  obtain ⟨result, came⟩ := Option.isSome_iff_exists.mp
    (show (specimenMoving specimenSharing between).2.result?.isSome = true by decide +kernel)
  have second := reaches_specimenMoving specimenSharing between
  rw [Dialogue.eq_finish came] at second
  have succeeded := (again.holds trivial second).2.1
  have failed : (specimenMoving specimenSharing between).2.result?.bind Except.toOption = none := by
    decide +kernel
  rw [came, succeeded] at failed
  cases failed

end Mover

end Archivist
