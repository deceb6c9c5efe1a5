import Archivist.Proofs.Cycle.Outcome
import Archivist.Proofs.Dialogue.Duo

set_option autoImplicit false

namespace Archivist

open Calendar (Instant)
open Json (Value)
open Rehearsal (World carryOn)

namespace Partitions

def union (left right : Partitions) : Partitions := .ofList (left.ids ++ right.ids)

def IsApart (left right : Partitions) : Prop := ∀ id ∈ left.ids, id ∉ right.ids

instance (left right : Partitions) : Decidable (left.IsApart right) :=
  inferInstanceAs (Decidable (∀ id ∈ left.ids, id ∉ right.ids))

theorem mem_union (left right : Partitions) (id : Nat) :
    id ∈ (left.union right).ids ↔ id ∈ left.ids ∨ id ∈ right.ids := by
  rw [union, mem_ofList, List.mem_append]

end Partitions

namespace Archiver

/-- How many roots have left their live index. -/
def departedCount (archiver : Archiver) (start after : Holdings) : Nat :=
  ((start.documents archiver.finder.root.index).filter fun document =>
    archiver.finder.root.isRoot document.2 &&
      (after.document? archiver.finder.root.index document.1).isNone).length

def duo (archiver : Archiver) (left right : Partitions) (fuel : Nat) (now : Instant)
    (held : Holdings) (recalls others : String → Bool) : Duo Cycle.Outcome where
  held := held
  left := ⟨recalls, (archiver.owning left).cycle fuel now⟩
  right := ⟨others, (archiver.owning right).cycle fuel now⟩

variable {archiver : Archiver} {left right own theirs : Partitions} {cutoff : Instant}
  {start after : Holdings}

theorem finds_union {source : Value} :
    (archiver.owning (left.union right)).finds cutoff source = true ↔
      (archiver.owning left).finds cutoff source = true ∨
        (archiver.owning right).finds cutoff source = true := by
  simp only [finds_iff, owning, Partitions.mem_union, or_and_right, exists_or, and_or_left]

theorem finds_of_isApart (apart : left.IsApart right) {source : Value}
    (found : (archiver.owning left).finds cutoff source = true) :
    (archiver.owning right).finds cutoff source = false := by
  refine Bool.eq_false_iff.mpr fun also => ?_
  obtain ⟨_, ⟨id, here, written⟩, _⟩ := finds_iff.mp found
  obtain ⟨_, ⟨other, there, shown⟩, _⟩ := finds_iff.mp also
  cases Numeral.ofNat_injective (Option.some.inj (written.symm.trans shown))
  exact apart id here there

theorem listing_union (none : (archiver.owning left).listing cutoff start = [])
    (also : (archiver.owning right).listing cutoff start = []) :
    (archiver.owning (left.union right)).listing cutoff start = [] := by
  refine List.eq_nil_iff_forall_not_mem.mpr fun record member => ?_
  obtain ⟨here, held, found⟩ := (mem_listing record).mp member
  rcases finds_union.mp found with mine | theirs
  · have listed : record ∈ (archiver.owning left).listing cutoff start :=
      (mem_listing record).mpr ⟨here, held, mine⟩
    rw [none] at listed
    cases listed
  · have listed : record ∈ (archiver.owning right).listing cutoff start :=
      (mem_listing record).mpr ⟨here, held, theirs⟩
    rw [also] at listed
    cases listed

theorem dueCount_union (apart : left.IsApart right) :
    (archiver.owning (left.union right)).dueCount cutoff start =
      (archiver.owning left).dueCount cutoff start +
        (archiver.owning right).dueCount cutoff start := by
  rw [dueCount, List.length_eq_length_filter_add fun document : String × Value =>
    (archiver.owning left).finds cutoff document.2, List.filter_filter, List.filter_filter]
  congr 2 <;> refine List.filter_congr fun document _ => Bool.eq_iff_iff.mpr ?_
  · rw [Bool.and_eq_true, finds_union]
    exact ⟨fun both => both.1, fun found => ⟨found, Or.inl found⟩⟩
  · rw [Bool.and_eq_true, finds_union, Bool.not_eq_true']
    constructor
    · intro both
      refine both.2.resolve_left fun found => ?_
      rw [both.1] at found
      cases found
    · intro found
      refine ⟨Bool.eq_false_iff.mpr fun also => ?_, Or.inr found⟩
      rw [finds_of_isApart apart also] at found
      cases found

theorem Archived.departedCount_eq (archived : archiver.Archived cutoff start after)
    (healthy : archiver.Healthy cutoff start) :
    archiver.departedCount start after = archiver.dueCount cutoff start := by
  rw [departedCount, dueCount]
  refine congrArg List.length (List.filter_congr fun document member => Bool.eq_iff_iff.mpr ?_)
  obtain ⟨id, source⟩ := document
  have held := (start.mem_documents_iff _ _ _).mp member
  rw [Bool.and_eq_true, Option.isNone_iff_eq_none]
  constructor
  · intro left
    obtain ⟨root, gone⟩ := left
    by_contra unfound
    have stays := (archived.stays _ healthy.isLive_root id source).mpr ⟨held, ?_⟩
    · rw [gone] at stays
      cases stays
    · -- What leaves is linked to a root that was due, and a root is linked to itself.
      intro leaves
      obtain ⟨_, collection, listed, same, text, linked, other, another, there, found, named, _⟩ :=
        leaves
      rw [← healthy.sameRoot] at same
      cases healthy.collection_eq listed List.mem_cons_self same
      obtain ⟨_, _, _, written, points⟩ := healthy.exists_text held root
      rw [← healthy.sameRoot] at points
      cases points.symm.trans linked
      obtain ⟨_, rfl⟩ := healthy.eq_of_text held there root (isRoot_of_finds found) written named
      exact unfound found
  · intro found
    have root := isRoot_of_finds found
    refine ⟨root, Option.eq_none_iff_forall_not_mem.mpr fun source still => ?_⟩
    obtain ⟨original, stays⟩ := (archived.stays _ healthy.isLive_root id source).mp still
    cases held.symm.trans original
    obtain ⟨suffix, goes⟩ := healthy.dated id source held found
    obtain ⟨_, _, _, written, points⟩ := healthy.exists_text held root
    refine stays ⟨suffix, _, List.mem_cons_self, ?_, _, ?_, id, source, held, found, written, goes⟩
    · rw [healthy.sameRoot]
    · rw [healthy.sameRoot]
      exact points

theorem chains_steps (healthy : archiver.Healthy cutoff start) (own : Partitions) :
    Chains (archiver.Steps own cutoff start) :=
  ⟨advances_refl _ _ _ _, fun earlier later => earlier.trans later healthy⟩

theorem keeps_cycle (own theirs : Partitions) (healthy : archiver.Healthy cutoff start)
    (covers : archiver.Covers own) (now : Instant)
    (begins : archiver.finder.cutoff now = some cutoff) (recalls : String → Bool)
    (mindful : IsMindful ⟨start, recalls⟩) (fuel : Nat)
    (enough : 2 * archiver.dueCount cutoff start + 2 ≤ fuel) :
    Party.Keeps (archiver.Steps own cutoff start) (archiver.Steps theirs cutoff start)
      (archiver.HasSwept own theirs cutoff start start)
      ⟨recalls, (archiver.owning own).cycle fuel now⟩ start := by
  refine ⟨[], fun later others => ?_⟩
  have recoverable := (recoverable_refl archiver cutoff start).advance others healthy
  have safe : archiver.IsSafe cutoff start ⟨later, recalls⟩ :=
    ⟨recoverable, fun destination recalled =>
      others.between.kept _ (mindful destination recalled)⟩
  have fewer : ((archiver.owning own).listing cutoff later).length ≤
      archiver.dueCount cutoff start := recoverable.length_listing_le healthy covers
  have lasting : 2 * ((archiver.owning own).listing cutoff later).length + 2 ≤ fuel := by omega
  exact ensures_cycle_company own theirs healthy covers now begins ⟨⟨later, []⟩, recalls⟩ safe
    nofun others fuel lasting

/-- Two cycles of archivers that differ in their partitions both succeed, whoever is served when.
They leave the store as a single cycle of all the partitions would have left it, and where no
partition belongs to both archivers they count just the roots that have left. -/
theorem two_cycles_archive_as_one (archiver : Archiver) (left right : Partitions)
    (now cutoff : Instant) (begins : archiver.finder.cutoff now = some cutoff) (world : World)
    (quiet : world.IsQuiet) (mindful : IsMindful (world.site .job))
    (healthy : (archiver.owning (left.union right)).Healthy cutoff world.store.holdings)
    (recalls others : String → Bool) (recalled : IsMindful ⟨world.store.holdings, recalls⟩)
    (remembered : IsMindful ⟨world.store.holdings, others⟩) (fuel : Nat)
    (enough :
      2 * (archiver.owning (left.union right)).dueCount cutoff world.store.holdings + 2 ≤ fuel)
    (schedule : Nat → Side) :
    ∃ (steps first second : Nat) (final : Duo Cycle.Outcome) (alone : World),
      (archiver.duo left right fuel now world.store.holdings recalls others).run steps schedule =
        final ∧
      final.left.work = .finish (.ok first) ∧ final.right.work = .finish (.ok second) ∧
      carryOn .job world ((archiver.owning (left.union right)).cycle fuel now) =
        (alone, .finished (.ok
          ((archiver.owning (left.union right)).dueCount cutoff world.store.holdings))) ∧
      final.held = alone.store.holdings ∧
      (left.IsApart right →
        first + second = archiver.departedCount world.store.holdings final.held) := by
  have covers : (archiver.owning (left.union right)).Covers left :=
    fun id member => (Partitions.mem_union left right id).mpr (Or.inl member)
  have alsoCovers : (archiver.owning (left.union right)).Covers right :=
    fun id member => (Partitions.mem_union left right id).mpr (Or.inr member)
  have keeps := keeps_cycle left right healthy covers now begins recalls recalled fuel enough
  have alsoKeeps :=
    keeps_cycle right left healthy alsoCovers now begins others remembered fuel enough
  obtain ⟨steps, _, _, ended, alsoEnded, ⟨moved, rfl, swept⟩, ⟨taken, rfl, alsoSwept⟩⟩ :=
    Duo.exists_ended (chains_steps healthy left) (chains_steps healthy right) schedule
      (archiver.duo left right fuel now world.store.holdings recalls others) keeps alsoKeeps
  have archived := swept.recoverable.archived_of_listing healthy
    (listing_union swept.emptied alsoSwept.emptied)
  have safe : (archiver.owning (left.union right)).IsSafe cutoff world.store.holdings
      (world.site .job) := ⟨recoverable_refl _ cutoff _, mindful⟩
  obtain ⟨alone, finished, single⟩ := safe.carryOn_cycle healthy begins quiet fuel enough
  refine ⟨steps, moved.length, taken.length, _, alone, rfl, ended, alsoEnded, finished,
    archived_unique archived single, fun apart => ?_⟩
  have mine := swept.length_eq (healthy.owning covers) fun _ => finds_of_isApart apart
  have theirs := alsoSwept.length_eq (healthy.owning alsoCovers) fun _ =>
    finds_of_isApart fun id there here => apart id here there
  rw [length_listing] at mine theirs
  calc moved.length + taken.length
      = (archiver.owning left).dueCount cutoff world.store.holdings +
          (archiver.owning right).dueCount cutoff world.store.holdings :=
        congrArg₂ (· + ·) mine theirs
    _ = (archiver.owning (left.union right)).dueCount cutoff world.store.holdings :=
        (dueCount_union apart).symm
    _ = archiver.departedCount world.store.holdings _ := (archived.departedCount_eq healthy).symm

def specimenOther : Value := .ofMembers [
  ("joinRelation", .text "workflowInstance"), ("key", .nat 8), ("workflowInstanceKey", .nat 8),
  ("partitionId", .nat 2), ("endDate", .text "2024-01-01T13:00:00Z")]

def specimenPairWorld : World :=
  { specimenWorld with
    store := ⟨Mover.specimenStart.write "operate-list-view_" [("s", specimenOther)], [], []⟩ }

theorem specimenPairWorld_root {id : String} {source : Value}
    (held :
      specimenPairWorld.store.holdings.document? specimen.finder.root.index id = some source) :
    specimen.suffix? source = some "x" ∧
      ∃ number < Nat.pow 2 53, source.member? specimen.finder.root.idField = some (.nat number) ∧
        source.textAt specimen.finder.root.linkField = some (Numeral.ofNat number) ∧
        id = if number = 7 then "r" else "s" := by
  have both : specimenPairWorld.store.holdings.documents specimen.finder.root.index =
      [("r", Mover.specimenRoot), ("s", specimenOther)] := rfl
  rw [← Holdings.mem_documents_iff, both, List.mem_cons, List.mem_singleton] at held
  rcases held with same | same <;> obtain ⟨rfl, rfl⟩ := Prod.mk.inj same
  · exact ⟨by decide +kernel, 7, by decide, rfl, by decide +kernel, rfl⟩
  · exact ⟨by decide +kernel, 8, by decide, rfl, by decide +kernel, rfl⟩

theorem specimenPairWorld_healthy (partitions : Partitions) :
    (specimen.owning partitions).Healthy ⟨1704196400, 0⟩ specimenPairWorld.store.holdings where
  sameRoot := rfl
  numbered _ _ held _ := by
    obtain ⟨_, number, small, member, linked, _⟩ := specimenPairWorld_root held
    exact ⟨number, small, member, linked⟩
  distinct _ _ _ _ held also _ _ same := by
    obtain ⟨_, number, _, member, _, rfl⟩ := specimenPairWorld_root held
    obtain ⟨_, other, _, found, _, rfl⟩ := specimenPairWorld_root also
    have numbers := Option.some.inj (member.symm.trans (same.trans found))
    simp only [Value.nat, Value.number.injEq, Json.Number.integer.injEq, Int.natCast_inj] at numbers
    rw [numbers]
  listedOnce := specimen_healthy.listedOnce
  present := show ∀ dependent ∈ Mover.specimen.separateDependents, _ by decide +kernel
  dated _ _ held _ := ⟨"x", (specimenPairWorld_root held).1⟩
  separates := by
    refine Mover.specimen_separates _ ?_
    intro suffix inUse
    obtain ⟨_, _, _, held, _, _, goes⟩ := inUse
    exact Option.some.inj (goes.symm.trans (specimenPairWorld_root held).1)

/-- Two archivers that take turns have a root each to archive. -/
theorem two_archivers_archive_a_root_each :
    (specimen.owning ⟨[1]⟩).dueCount ⟨1704196400, 0⟩ specimenPairWorld.store.holdings = 1 ∧
    (specimen.owning ⟨[2]⟩).dueCount ⟨1704196400, 0⟩ specimenPairWorld.store.holdings = 1 ∧
    Partitions.IsApart ⟨[1]⟩ ⟨[2]⟩ ∧
      ∃ (steps first second : Nat) (final : Duo Cycle.Outcome) (alone : World),
        (specimen.duo ⟨[1]⟩ ⟨[2]⟩ 6 specimenPairWorld.now specimenPairWorld.store.holdings
          (fun _ => false) fun _ => false).run steps
            (fun turn => if turn % 2 = 0 then .left else .right) = final ∧
        final.left.work = .finish (.ok first) ∧ final.right.work = .finish (.ok second) ∧
        carryOn .job specimenPairWorld
            ((specimen.owning (Partitions.union ⟨[1]⟩ ⟨[2]⟩)).cycle 6 specimenPairWorld.now) =
          (alone, .finished (.ok ((specimen.owning (Partitions.union ⟨[1]⟩ ⟨[2]⟩)).dueCount
            ⟨1704196400, 0⟩ specimenPairWorld.store.holdings))) ∧
        final.held = alone.store.holdings ∧
        (Partitions.IsApart ⟨[1]⟩ ⟨[2]⟩ → first + second =
          specimen.departedCount specimenPairWorld.store.holdings final.held) :=
  ⟨by decide +kernel, by decide +kernel, by decide,
    two_cycles_archive_as_one specimen ⟨[1]⟩ ⟨[2]⟩ specimenPairWorld.now ⟨1704196400, 0⟩
      specimen_begins specimenPairWorld ⟨nofun, nofun⟩ nofun (specimenPairWorld_healthy _)
      (fun _ => false) (fun _ => false) nofun nofun 6 (by decide +kernel) _⟩

end Archiver

end Archivist
