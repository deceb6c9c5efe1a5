import Archivist.Proofs.Cycle.Drawing
import Archivist.Proofs.Cycle.Outcome
import Archivist.Proofs.Cycle.Recovery

set_option autoImplicit false

namespace Archivist

open Calendar (Instant)
open Json (Value)

/-- Root records have scalar ids whose texts tell them apart, and are linked to themselves. -/
structure RootDescriptor.Identifies (root : RootDescriptor) (now : Holdings) : Prop where
  linked : ∀ id source, now.document? root.index id = some source → root.isRoot source = true →
    ∃ text, source.textAt root.idField = some text ∧ source.textAt root.linkField = some text
  distinct : ∀ id other source another text,
    now.document? root.index id = some source → now.document? root.index other = some another →
    root.isRoot source = true → root.isRoot another = true →
    source.textAt root.idField = some text → another.textAt root.idField = some text → id = other

theorem RootDescriptor.Identifies.of_stays {root : RootDescriptor} {start now : Holdings}
    (identifies : root.Identifies start) (stays : ∀ id source,
      now.document? root.index id = some source → start.document? root.index id = some source) :
    root.Identifies now where
  linked id source held tagged := identifies.linked id source (stays id source held) tagged
  distinct id other source another text held also tagged alike named same :=
    identifies.distinct id other source another text (stays id source held)
      (stays other another also) tagged alike named same

namespace Mover

/-- Live documents have only gone away, and only those that may leave. -/
structure Thins (mover : Mover) (leaves : String → Value → Prop) (start now : Holdings) : Prop where
  stays : ∀ index, mover.IsLive index → ∀ id source,
    now.document? index id = some source → start.document? index id = some source
  gone : ∀ index, mover.IsLive index → ∀ id source, start.document? index id = some source →
    now.document? index id = some source ∨ leaves index source

theorem thins_refl (mover : Mover) (leaves : String → Value → Prop) (start : Holdings) :
    mover.Thins leaves start start :=
  ⟨fun _ _ _ _ held => held, fun _ _ _ _ held => Or.inl held⟩

variable {mover : Mover} {suffix : String} {ids : List String} {leaves : String → Value → Prop}
  {start now after : Holdings}

theorem Thins.effect {call : Call} (thins : mover.Thins leaves start now)
    (leaving : mover.TakesLeaving suffix ids start fun index source _ => leaves index source)
    (planned : mover.Plans suffix ids call) (effect : mover.Effect suffix ids call now after) :
    mover.Thins leaves start after where
  stays index live id source held :=
    thins.stays index live id source (effect.live index live id source held)
  gone := by
    intro index live id source held
    rcases thins.gone index live id source held with still | left
    · apply (effect.gone index live id source still).imp_right
      intro removed
      obtain ⟨filter, rfl, accepted⟩ := removed
      obtain ⟨transfer, among, rfl, rfl⟩ := planned
      exact leaving transfer among id source held accepted
    · exact Or.inr left

theorem Thins.ensures_moveTo {troubles : Troubles} {site : Site Holdings} (excuses : Crash → Prop)
    (thins : mover.Thins leaves start site.store) (apart : mover.Apart suffix)
    (leaving : mover.TakesLeaving suffix ids start fun index source _ => leaves index source) :
    ((Backend.outages troubles).setting (fun _ => True)
      (fun after => mover.Thins leaves start after.store) excuses).Ensures
      (fun _ after => mover.Thins leaves start after.store) (mover.moveTo suffix ids) site := by
  have ensured := ensures_moveTo_outages troubles (fun _ => True) (mover.Thins leaves start)
    excuses mover suffix ids apart site (fun _ _ _ _ _ _ => trivial)
    (fun _ _ _ _ obeys demanded _ _ effect holds =>
      holds.effect leaving (plans_of_demands obeys demanded) effect) thins
  exact (ensured.mono fun _ _ => And.left).relax (fun _ _ _ _ => id) (fun _ _ => id)
    (fun _ => And.left) fun _ => id

end Mover

namespace Archiver

/-- A root record of a partition that the archiver owns, which finished long enough before. -/
structure IsEligible (archiver : Archiver) (now : Instant) (source : Value) : Prop where
  isRoot : archiver.finder.root.isRoot source = true
  owned : ∃ partition ∈ archiver.partitions.ids,
    source.textAt archiver.finder.root.partitionField = some (Numeral.ofNat partition)
  aged : ∃ endDate limit, source.instantAt archiver.finder.root.endDateField = some endDate ∧
    archiver.finder.cutoff now = some limit ∧ endDate.isAtMost limit = true

/-- A document of a live index belongs to a root that is eligible. -/
def Departs (archiver : Archiver) (now : Instant) (start : Holdings) (index : String)
    (source : Value) : Prop :=
  ∃ collection ∈ archiver.mover.collections, collection.index = index ∧
    ∃ text, source.textAt collection.field = some text ∧
      ∃ id root, start.document? archiver.finder.root.index id = some root ∧
        archiver.IsEligible now root ∧ root.textAt archiver.finder.root.idField = some text

variable {archiver : Archiver} {now cutoff : Instant} {start : Holdings}

theorem isEligible_of_finds (begins : archiver.finder.cutoff now = some cutoff) {source : Value}
    (found : archiver.finds cutoff source = true) : archiver.IsEligible now source := by
  obtain ⟨tagged, owned, endDate, timed, early⟩ := finds_iff.mp found
  exact ⟨tagged, owned, endDate, cutoff, timed, begins, early⟩

theorem departs_of_leaves (begins : archiver.finder.cutoff now = some cutoff) {index suffix : String}
    {source : Value} (leaves : archiver.Leaves cutoff start index source suffix) :
    archiver.Departs now start index source := by
  obtain ⟨collection, member, same, text, linked, id, root, held, found, named, _⟩ := leaves
  exact ⟨collection, member, same, text, linked, id, root, held, isEligible_of_finds begins found,
    named⟩

theorem showsDue_of_thins {after : Holdings} {leaves : String → Value → Prop}
    (thins : archiver.mover.Thins leaves start after)
    (sameRoot : archiver.mover.root = archiver.finder.root)
    (identifies : archiver.finder.root.Identifies start) :
    archiver.ShowsDue cutoff start after := by
  intro record held found
  have live := isLive_root sameRoot
  have original := thins.stays _ live _ _ held
  obtain ⟨text, named, _⟩ := identifies.linked _ _ original (isRoot_of_finds found)
  exact ⟨original, found, text, named⟩

section Cycle

variable (sameRoot : archiver.mover.root = archiver.finder.root)
  (apart : ∀ date suffix, archiver.mover.namer.suffix date = some suffix →
    archiver.mover.Apart suffix)
  (identifies : archiver.finder.root.Identifies start)
include sameRoot apart identifies

/-- Wherever a cycle is cut off, only what belongs to eligible roots may have gone. -/
theorem ensures_cycle_thins {troubles : Troubles} {recalls : String → Bool} (fuel : Nat) :
    ((Backend.outages troubles).setting (fun _ => True)
      (fun after => archiver.mover.Thins (archiver.Departs now start) start after.store)
      fun _ => True).Ensures
      (fun _ after => archiver.mover.Thins (archiver.Departs now start) start after.store)
      (archiver.cycle fuel now) ⟨start, recalls⟩ := by
  refine ensures_cycle_outages start fuel (Mover.thins_refl archiver.mover _ start) ?shown ?moved
  case shown =>
    intro cutoff after _ thins
    exact showsDue_of_thins thins sameRoot identifies
  case moved =>
    intro cutoff after batch suffix begins thins gathers named
    have leaving := takesLeaving_of_isDue start (gathers.isDue named)
    exact thins.ensures_moveTo (fun _ => True) (apart _ _ named)
      fun transfer planned id source held accepted =>
        departs_of_leaves begins (leaving transfer planned id source held accepted)

end Cycle

/-- A cycle's clock reading, and what was held when it began and when it ended or was cut off. -/
structure Run where
  now : Instant
  before : Holdings
  after : Holdings

/-- Cycles of an archiver one after the other. Any call may fail in any way, and a cycle may be cut
off anywhere. In between others may write what they like, as long as roots are told apart. -/
inductive Chronicle (archiver : Archiver) : List Run → Site Holdings → Prop where
  | begun (site : Site Holdings) (identifies : archiver.finder.root.Identifies site.store) :
    Chronicle archiver [] site
  | cycled {runs : List Run} {before : Site Holdings} (earlier : Chronicle archiver runs before)
      (now : Instant) (fuel : Nat) (after : Site Holdings) (rest : Work Cycle.Outcome)
      (reached : (archiver.cycle fuel now).Reaches (Backend.outages .any).service before after
        rest) :
    Chronicle archiver (runs ++ [⟨now, before.store, after.store⟩]) after
  | written {runs : List Run} {before : Site Holdings} (earlier : Chronicle archiver runs before)
      (after : Site Holdings) (identifies : archiver.finder.root.Identifies after.store) :
    Chronicle archiver runs after

theorem Chronicle.thins {runs : List Run} {site : Site Holdings}
    (chronicle : archiver.Chronicle runs site)
    (sameRoot : archiver.mover.root = archiver.finder.root)
    (apart : ∀ date suffix, archiver.mover.namer.suffix date = some suffix →
      archiver.mover.Apart suffix) :
    archiver.finder.root.Identifies site.store ∧ ∀ run ∈ runs,
      archiver.finder.root.Identifies run.before ∧
        archiver.mover.Thins (archiver.Departs run.now run.before) run.before run.after := by
  induction chronicle with
  | begun site identifies =>
    exact ⟨identifies, by simp only [List.not_mem_nil, false_implies, implies_true]⟩
  | @cycled _ before earlier now fuel after rest reached ih =>
    obtain ⟨identifies, each⟩ := ih
    have thins := ((ensures_cycle_thins sameRoot apart identifies fuel).holds
      (Mover.thins_refl archiver.mover _ before.store) reached).1
    refine ⟨identifies.of_stays (thins.stays _ (isLive_root sameRoot)), fun run member => ?_⟩
    rcases List.mem_append.mp member with among | last
    · exact each run among
    · cases List.mem_singleton.mp last
      exact ⟨identifies, thins⟩
  | written earlier after identifies ih => exact ⟨identifies, ih.2⟩

/-- Only eligible roots ever leave, and with them only what is linked to them. -/
theorem only_eligible_roots_leave (archiver : Archiver)
    (sameRoot : archiver.mover.root = archiver.finder.root)
    (elsewhere : ∀ dependent ∈ archiver.mover.separateDependents,
      dependent.index ≠ archiver.finder.root.index)
    (apart : ∀ base date destination, archiver.mover.IsLive base →
      archiver.mover.namer.resolve base (some date) = some destination →
        ¬archiver.mover.IsLive destination)
    (runs : List Run) (site : Site Holdings) (chronicle : archiver.Chronicle runs site) :
    ∀ run ∈ runs,
      (∀ id source, run.before.document? archiver.finder.root.index id = some source →
        archiver.finder.root.isRoot source = true →
          run.after.document? archiver.finder.root.index id ≠ some source →
            archiver.IsEligible run.now source) ∧
      ∀ index, archiver.mover.IsLive index → ∀ id source,
        run.before.document? index id = some source →
          run.after.document? index id ≠ some source →
            ∃ collection ∈ archiver.mover.collections, collection.index = index ∧
              ∃ text, source.textAt collection.field = some text ∧
                ∃ rootId root,
                  run.before.document? archiver.finder.root.index rootId = some root ∧
                  archiver.IsEligible run.now root ∧
                  root.textAt archiver.finder.root.idField = some text := by
  have separate : ∀ date suffix, archiver.mover.namer.suffix date = some suffix →
      archiver.mover.Apart suffix := by
    intro date suffix named base other live also same
    have resolved : archiver.mover.namer.resolve base (some date) = some other := by
      rw [Namer.resolve, named, Option.map_some, same]
    exact apart base date other live resolved also
  intro run member
  obtain ⟨identifies, thins⟩ := (chronicle.thins sameRoot separate).2 run member
  have departs : ∀ index, archiver.mover.IsLive index → ∀ id source,
      run.before.document? index id = some source → run.after.document? index id ≠ some source →
        archiver.Departs run.now run.before index source :=
    fun index live id source held removed =>
      (thins.gone index live id source held).resolve_left removed
  refine ⟨?_, departs⟩
  intro id source held tagged removed
  have live := isLive_root sameRoot
  obtain ⟨collection, listed, here, text, linked, other, root, found, eligible, named⟩ :=
    departs _ live id source held removed
  -- Dependents live elsewhere, so the document was removed by its link, which is its id.
  rcases List.mem_cons.mp listed with rfl | dependent
  · obtain ⟨own, written, points⟩ := identifies.linked id source held tagged
    rw [sameRoot] at linked
    cases linked.symm.trans points
    have same := identifies.distinct id other source root text held found tagged eligible.isRoot
      written named
    subst same
    cases held.symm.trans found
    exact eligible
  · obtain ⟨owner, separated, rfl⟩ := List.mem_map.mp dependent
    exact absurd here (elsewhere owner separated)

/-- The only root of a store leaves as it may. -/
theorem finished_root_leaves : ∃ run site, specimen.Chronicle [run] site ∧
    run.before.document? "operate-list-view_" "r" = some Mover.specimenRoot ∧
    run.after.document? "operate-list-view_" "r" ≠ some Mover.specimenRoot ∧
    specimen.IsEligible run.now Mover.specimenRoot := by
  have identifies : specimen.finder.root.Identifies Mover.specimenStart := by
    constructor
    · intro id source held _
      obtain ⟨_, numbered, linked, _⟩ := specimen_root held
      refine ⟨Numeral.ofNat 7, ?_, linked⟩
      rw [Value.textAt, numbered]
      rfl
    · intro id other source another text held also _ _ _ _
      exact (specimen_root held).1.trans (specimen_root also).1.symm
  have reached := Dialogue.reaches_follow
    (Backend.serve fun call now => (some (now.perform call).1, now.after call))
    (Backend.service_serve (Backend.outages .any) _ fun _ _ => Or.inl ⟨rfl, rfl⟩) 60
    ⟨Mover.specimenStart, fun _ => false⟩ (specimen.cycle 4 specimenWorld.now)
  have chronicle : specimen.Chronicle [⟨specimenWorld.now, Mover.specimenStart, _⟩] _ :=
    .cycled (.begun ⟨Mover.specimenStart, fun _ => false⟩ identifies) specimenWorld.now 4 _ _ reached
  have held : Mover.specimenStart.document? "operate-list-view_" "r" = some Mover.specimenRoot := rfl
  have removed : ∀ after : Holdings, (after.document? "operate-list-view_" "r").isSome = false →
      after.document? "operate-list-view_" "r" ≠ some Mover.specimenRoot := by
    intro after none same
    rw [same] at none
    cases none
  refine ⟨_, _, chronicle, held, removed _ (by decide +kernel), ?_⟩
  refine (only_eligible_roots_leave specimen rfl (by decide) ?_ _ _ chronicle _
    List.mem_cons_self).1 "r" _ held (by decide +kernel) (removed _ (by decide +kernel))
  intro base date destination live resolved also
  cases resolved
  have separates := Mover.specimen_separates (· = "x") fun _ marked => marked
  exact separates.apart "x" rfl base _ live also rfl

end Archiver

end Archivist
