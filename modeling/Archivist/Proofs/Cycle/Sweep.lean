import Archivist.Proofs.Cycle.Company
import Archivist.Proofs.Cycle.Outage
import Archivist.Proofs.Cycle.Paging

set_option autoImplicit false

namespace Archivist

open Calendar (Instant)
open Json (Value)

namespace Archiver

variable {archiver : Archiver} {own theirs : Partitions} {cutoff : Instant}
  {start begun now after : Holdings} {moved ids : List String}

theorem listing_of_isEmpty (cutoff : Instant) (now : Holdings)
    (none : archiver.partitions.isEmpty = true) : archiver.listing cutoff now = [] := by
  refine List.eq_nil_iff_forall_not_mem.mpr fun record member => ?_
  obtain ⟨_, _, found⟩ := (mem_listing record).mp member
  obtain ⟨_, ⟨_, owned, _⟩, _⟩ := finds_iff.mp found
  rw [Partitions.isEmpty, List.isEmpty_iff] at none
  rw [none] at owned
  cases owned

theorem Recoverable.archived_of_listing (recoverable : archiver.Recoverable cutoff start now)
    (healthy : archiver.Healthy cutoff start) (nothing : archiver.listing cutoff now = []) :
    archiver.Archived cutoff start now := by
  refine recoverable.archived healthy ?_
  intro text suffix due
  obtain ⟨id, source, held, found, _⟩ := due
  have member := (mem_listing ⟨id, archiver.finder.root.index, source⟩).mpr ⟨rfl, held, found⟩
  rw [nothing] at member
  cases member

theorem Recoverable.showsDue_owning (recoverable : archiver.Recoverable cutoff start now)
    (healthy : archiver.Healthy cutoff start) (covers : archiver.Covers own) :
    (archiver.owning own).ShowsDue cutoff start now := by
  intro record held found
  obtain ⟨original, _, named⟩ :=
    recoverable.showsDue healthy record held (finds_of_owning covers found)
  exact ⟨original, found, named⟩

theorem IsLinked.append_right {source : Value} (linked : archiver.IsLinked moved source)
    (ids : List String) : archiver.IsLinked (moved ++ ids) source := by
  obtain ⟨text, among, points⟩ := linked
  exact ⟨text, List.mem_append_left ids among, points⟩

theorem IsLinked.append_left {source : Value} (linked : archiver.IsLinked ids source)
    (moved : List String) : archiver.IsLinked (moved ++ ids) source := by
  obtain ⟨text, among, points⟩ := linked
  exact ⟨text, List.mem_append_right moved among, points⟩

theorem Advances.mem_listing {takes : Value → Prop}
    (advances : archiver.Advances cutoff start takes now after)
    (healthy : archiver.Healthy cutoff start) {record : Record}
    (member : record ∈ (archiver.owning own).listing cutoff after) :
    record ∈ (archiver.owning own).listing cutoff now := by
  obtain ⟨here, held, found⟩ := (Archiver.mem_listing record).mp member
  exact (Archiver.mem_listing record).mpr
    ⟨here, advances.between.stays _ healthy.isLive_root _ _ held, found⟩

/-- A cycle in company between two turns: it has moved some roots, and what else has gone others
have taken. -/
structure Sweeps (archiver : Archiver) (own theirs : Partitions) (cutoff : Instant)
    (start begun : Holdings) (moved : List String) (cycle : Cycle) (site : Site Ledger) : Prop where
  draws : (archiver.owning own).Draws cutoff start cycle.discovery
  safe : archiver.IsSafe cutoff start site.contents
  proper : Backend.Proper (archiver.Steps own cutoff start) site
  since : archiver.Advances cutoff start (archiver.Takes theirs cutoff moved) begun site.store.held
  seeks : (archiver.owning own).Seeks cutoff site.store.held cycle.discovery moved
  listed : ∀ text ∈ moved ++ cycle.discovery.pending.flatMap Batch.ids,
    text ∈ ((archiver.owning own).listing cutoff begun).map (archiver.owning own).idText
  count : cycle.archived = moved.length

/-- What a cycle in company has come to: it has moved some roots, others may have taken more, and
none of its own are left. -/
structure Swept (archiver : Archiver) (own theirs : Partitions) (cutoff : Instant)
    (start begun : Holdings) (moved : List String) (after : Holdings) : Prop where
  recoverable : archiver.Recoverable cutoff start after
  since : archiver.Advances cutoff start (archiver.Takes theirs cutoff moved) begun after
  listed : ∀ text ∈ moved,
    text ∈ ((archiver.owning own).listing cutoff begun).map (archiver.owning own).idText
  once : moved.Nodup
  emptied : (archiver.owning own).listing cutoff after = []

theorem Swept.length_eq (swept : archiver.Swept own theirs cutoff start begun moved after)
    (still : (archiver.owning own).Healthy cutoff begun)
    (apart : ∀ source, (archiver.owning own).finds cutoff source = true →
      (archiver.owning theirs).finds cutoff source = false) :
    moved.length = ((archiver.owning own).listing cutoff begun).length := by
  have alike : moved.Perm
      (((archiver.owning own).listing cutoff begun).map (archiver.owning own).idText) := by
    refine (List.perm_ext_iff_of_nodup swept.once still.idTexts_nodup).mpr fun text => ?_
    refine ⟨swept.listed text, fun member => ?_⟩
    obtain ⟨record, listed, rfl⟩ := List.mem_map.mp member
    obtain ⟨here, held, found⟩ := (mem_listing record).mp listed
    have tagged := isRoot_of_finds found
    -- Nothing of what was listed is left, and nobody else takes it.
    rcases swept.since.spares record.id record.source held tagged with
      stays | theirs | ⟨text, among, points⟩
    · have left := (mem_listing record).mpr ⟨here, stays, found⟩
      rw [swept.emptied] at left
      cases left
    · rw [apart _ found] at theirs
      cases theirs
    · cases (still.idText_eq listed).2.symm.trans points
      exact among
  rw [alike.length_eq, List.length_map]

section Company

variable {cycle : Cycle} {site : Site Ledger}

theorem Sweeps.healthy
    (sweeps : archiver.Sweeps own theirs cutoff start begun moved cycle site)
    (healthy : archiver.Healthy cutoff start) (covers : archiver.Covers own) :
    (archiver.owning own).Healthy cutoff site.store.held :=
  (healthy.between sweeps.safe.recoverable.between).owning covers

theorem Sweeps.goOn {later : Site Ledger}
    (sweeps : archiver.Sweeps own theirs cutoff start begun moved cycle site)
    (healthy : archiver.Healthy cutoff start)
    (others : archiver.Steps theirs cutoff start site.store.held later.store.held)
    (proper : Backend.Proper (archiver.Steps own cutoff start) later)
    (same : later.recalls = site.recalls) :
    archiver.Sweeps own theirs cutoff start begun moved cycle later where
  draws := sweeps.draws
  safe := by
    refine ⟨sweeps.safe.recoverable.advance others healthy, fun destination recalled => ?_⟩
    rw [Site.contents, same] at recalled
    exact others.between.kept _ (sweeps.safe.mindful destination recalled)
  proper := proper
  since := sweeps.since.trans (others.mono fun _ _ _ _ => Or.inl) healthy
  seeks := sweeps.seeks.fewer fun _ => others.mem_listing healthy
  listed := sweeps.listed
  count := sweeps.count

theorem Sweeps.absorb {next : Discovery}
    (sweeps : archiver.Sweeps own theirs cutoff start begun moved cycle site)
    (healthy : archiver.Healthy cutoff start) (covers : archiver.Covers own)
    (pending : cycle.discovery.pending = [])
    (absorbed : cycle.discovery.absorb
      ((archiver.owning own).nextPage cutoff site.store.held cycle.discovery) = some next) :
    archiver.Sweeps own theirs cutoff start begun moved { cycle with discovery := next } site where
  draws := by
    refine sweeps.draws.absorb (fun record member => ?_) absorbed
    obtain ⟨_, held, found⟩ := (mem_listing record).mp (mem_listing_of_mem_nextPage member)
    exact sweeps.safe.recoverable.showsDue_owning healthy covers record held found
  safe := sweeps.safe
  proper := sweeps.proper
  since := sweeps.since
  seeks := sweeps.seeks.absorb (sweeps.healthy healthy covers) sweeps.draws pending absorbed
  listed := by
    intro text member
    rcases List.mem_append.mp member with before | new
    · exact sweeps.listed text (List.mem_append_left _ before)
    · rw [sweeps.draws.ids_of_absorb pending absorbed] at new
      obtain ⟨record, shown, rfl⟩ := List.mem_map.mp new
      have member := sweeps.since.mem_listing healthy (mem_listing_of_mem_nextPage shown)
      exact List.mem_map_of_mem member
  count := sweeps.count

/-- A page is taken in, and others may move roots away as soon as it has been fetched. -/
theorem Sweeps.ensures_fetch
    (sweeps : archiver.Sweeps own theirs cutoff start begun moved cycle site)
    (healthy : archiver.Healthy cutoff start) (covers : archiver.Covers own)
    (drawn : cycle.discovery.draw = .fetch) :
    (Backend.company (archiver.Steps theirs cutoff start)
      (archiver.Steps own cutoff start)).Ensures
      (fun outcome after => outcome.2 = .ok () ∧
        archiver.Sweeps own theirs cutoff start begun moved
          { cycle with discovery := outcome.1 } after ∧
        (archiver.owning own).turns cutoff after.store.held outcome.1 <
          (archiver.owning own).turns cutoff site.store.held cycle.discovery)
      cycle.discovery.fetch site := by
  have still := sweeps.healthy healthy covers
  have pending := (Discovery.draw_fetch drawn).1
  obtain ⟨next, absorbed⟩ := still.exists_absorb sweeps.draws
  have further := sweeps.absorb healthy covers pending absorbed
  have less := sweeps.seeks.turns_absorb still sweeps.draws drawn absorbed
  have searched : archiver.Steps own cutoff start site.store.held
      (site.store.held.after (.search cycle.discovery.search)) := by
    rw [Holdings.after_search]
    exact advances_refl _ _ _ _ _
  refine Discovery.ensures_fetch ?_
  refine Backend.ensures_call_company _ _ _ site _ sweeps.proper searched ?_
  intro held others
  -- The page shows the store as it was; what others do to it since only takes roots away.
  have proper := sweeps.proper.record searched held
  rw [Holdings.after_search] at others
  have onward := further.goOn healthy others proper rfl
  have fewer : (archiver.owning own).turns cutoff held next ≤
      (archiver.owning own).turns cutoff site.store.held next :=
    turns_le_of_fewer next fun _ => others.mem_listing healthy
  have reached := And.intro onward (Nat.lt_of_le_of_lt fewer less)
  rcases sweeps.draws.answer_eq site.store.held with answer | ⟨⟨failure, answer, missing⟩, empty⟩
  · simp only [answer, Discovery.TakesIn, absorbed]
    exact ⟨trivial, reached⟩
  · rw [empty] at absorbed
    simp only [answer, missing, ↓reduceIte, Discovery.TakesIn, absorbed]
    exact ⟨trivial, reached⟩

/-- A move in company leaves none of its roots, and the cycle has one turn less before it. -/
theorem Sweeps.move {later : Site Ledger} {batch : Batch} {others : List Batch}
    (sweeps : archiver.Sweeps own theirs cutoff start begun moved cycle site)
    (healthy : archiver.Healthy cutoff start) (covers : archiver.Covers own)
    (pending : cycle.discovery.pending = batch :: others)
    (done : archiver.Moved own theirs cutoff start batch.ids site later) :
    archiver.Sweeps own theirs cutoff start begun (moved ++ batch.ids)
        ⟨{ cycle.discovery with pending := others }, cycle.archived + batch.ids.length⟩ later ∧
      (archiver.owning own).turns cutoff later.store.held
          { cycle.discovery with pending := others } <
        (archiver.owning own).turns cutoff site.store.held cycle.discovery := by
  have still : (archiver.owning own).Healthy cutoff later.store.held :=
    (healthy.between done.safe.recoverable.between).owning covers
  have fewer : ∀ record ∈ (archiver.owning own).listing cutoff later.store.held,
      record ∈ (archiver.owning own).listing cutoff site.store.held :=
    fun _ => done.since.mem_listing healthy
  have gone : ∀ record ∈ (archiver.owning own).listing cutoff later.store.held,
      (archiver.owning own).idText record ∉ batch.ids := by
    intro record member among
    obtain ⟨_, held, _⟩ := (mem_listing record).mp member
    exact done.gone _ _ held ⟨_, among, (still.idText_eq member).2⟩
  constructor
  · constructor
    case draws => exact sweeps.draws.tail pending
    case safe => exact done.safe
    case proper => exact done.proper
    case since =>
      refine (sweeps.since.mono ?_).trans (done.since.mono ?_) healthy
      · exact fun _ _ _ _ => Or.imp_right fun linked => linked.append_right batch.ids
      · exact fun _ _ _ _ => Or.imp_right fun linked => linked.append_left moved
    case seeks => exact (sweeps.seeks.fewer fewer).move pending gone
    case listed =>
      have listed := sweeps.listed
      rwa [pending, List.flatMap_cons, ← List.append_assoc] at listed
    case count =>
      rw [List.length_append, ← sweeps.count]
  · have bound := turns_le_of_fewer cycle.discovery fewer
    simp only [turns, pending, List.length_cons] at bound ⊢
    omega

theorem Sweeps.ensures_move {batch : Batch} {others : List Batch}
    (sweeps : archiver.Sweeps own theirs cutoff start begun moved cycle site)
    (healthy : archiver.Healthy cutoff start) (covers : archiver.Covers own)
    (pending : cycle.discovery.pending = batch :: others) :
    (Backend.company (archiver.Steps theirs cutoff start)
      (archiver.Steps own cutoff start)).Ensures
      (fun result after => result = .ok batch.ids.length ∧
        archiver.Moved own theirs cutoff start batch.ids site after)
      (archiver.mover.move batch) site := by
  have gathers := sweeps.draws.pending batch (pending ▸ List.mem_cons_self)
  obtain ⟨suffix, named⟩ := gathers.exists_suffix (healthy.owning covers)
  have once := sweeps.seeks.once
  rw [pending, List.flatMap_cons, ← List.append_assoc] at once
  have inBatch := (List.nodup_append.mp (List.nodup_append.mp once).1).2.1
  have moving : archiver.mover.move batch = archiver.mover.moveTo suffix batch.ids :=
    Mover.move_of_named gathers.nonempty named
  rw [moving]
  exact ensures_moveTo_company healthy covers gathers.nonempty inBatch (gathers.isDue named) site
    sweeps.safe sweeps.proper

theorem Sweeps.swept (sweeps : archiver.Sweeps own theirs cutoff start begun moved cycle site)
    (drawn : cycle.discovery.draw = .finished) :
    archiver.Swept own theirs cutoff start begun moved site.store.held where
  recoverable := sweeps.safe.recoverable
  since := sweeps.since
  listed text member := sweeps.listed text (List.mem_append_left _ member)
  once := (List.nodup_append.mp sweeps.seeks.once).1
  emptied := sweeps.seeks.listing_of_finished drawn

def HasSwept (archiver : Archiver) (own theirs : Partitions) (cutoff : Instant)
    (start begun : Holdings) (outcome : Cycle.Outcome) (after : Holdings) : Prop :=
  ∃ moved, outcome = .ok moved.length ∧ archiver.Swept own theirs cutoff start begun moved after

theorem Sweeps.ensures_turn
    (sweeps : archiver.Sweeps own theirs cutoff start begun moved cycle site)
    (healthy : archiver.Healthy cutoff start) (covers : archiver.Covers own) :
    (Backend.company (archiver.Steps theirs cutoff start)
      (archiver.Steps own cutoff start)).Ensures (Cycle.Leads
        (fun next after =>
          (∃ moved, archiver.Sweeps own theirs cutoff start begun moved next after) ∧
          (archiver.owning own).turns cutoff after.store.held next.discovery <
            (archiver.owning own).turns cutoff site.store.held cycle.discovery)
        fun outcome after =>
          archiver.HasSwept own theirs cutoff start begun outcome after.store.held)
      (Cycle.turn archiver.mover cycle) site := by
  refine Cycle.ensures_turn sweeps.proper (fun drawn => ?finished) (fun drawn => ?fetched) ?moved
  case finished =>
    exact ⟨moved, congrArg Except.ok sweeps.count, sweeps.swept drawn⟩
  case fetched =>
    refine (sweeps.ensures_fetch healthy covers drawn).mono ?_
    intro fetched after reached
    obtain ⟨discovery, _⟩ := fetched
    obtain ⟨rfl, further, fewer⟩ := reached
    exact ⟨further.proper, ⟨moved, further⟩, fewer⟩
  case moved =>
    intro batch others pending
    refine (sweeps.ensures_move healthy covers pending).mono ?_
    intro _ after reached
    obtain ⟨rfl, done⟩ := reached
    obtain ⟨further, fewer⟩ := sweeps.move healthy covers pending done
    exact ⟨done.proper, ⟨_, further⟩, fewer⟩

end Company

/-- Whatever others do meanwhile to roots of their own, a cycle succeeds and leaves none of its
roots behind. -/
theorem ensures_cycle_company (own theirs : Partitions) (healthy : archiver.Healthy cutoff start)
    (covers : archiver.Covers own) (now : Instant)
    (begins : archiver.finder.cutoff now = some cutoff) (site : Site Ledger)
    (safe : archiver.IsSafe cutoff start site.contents)
    (proper : Backend.Proper (archiver.Steps own cutoff start) site)
    (since : archiver.Steps theirs cutoff start begun site.store.held) (fuel : Nat)
    (enough : 2 * ((archiver.owning own).listing cutoff site.store.held).length + 2 ≤ fuel) :
    (Backend.company (archiver.Steps theirs cutoff start)
      (archiver.Steps own cutoff start)).Ensures
      (fun outcome after =>
        archiver.HasSwept own theirs cutoff start begun outcome after.store.held)
      ((archiver.owning own).cycle fuel now) site := by
  have since : archiver.Advances cutoff start (archiver.Takes theirs cutoff []) begun
      site.store.held := since.mono fun _ _ _ _ => Or.inl
  refine ensures_cycle (fun left cycle after =>
    (∃ moved, archiver.Sweeps own theirs cutoff start begun moved cycle after) ∧
      (archiver.owning own).turns cutoff after.store.held cycle.discovery < left) proper ?unowned
    (fun untimely => ?untimely) ?begun (fun _ _ ready => Nat.not_lt_zero _ ready.2) ?turned
  case unowned =>
    intro none
    exact ⟨[], rfl, safe.recoverable, since, nofun, List.nodup_nil,
      listing_of_isEmpty cutoff site.store.held none⟩
  case untimely =>
    rw [show (archiver.owning own).finder.cutoff now = some cutoff from begins] at untimely
    cases untimely
  case begun =>
    intro other same _
    cases begins.symm.trans same
    refine ⟨⟨[], draws_begun (archiver.owning own) cutoff start _, safe, proper, since, ?_, nofun,
      rfl⟩, ?_⟩
    · exact ⟨fun _ => Or.inr, fun _ _ => List.not_mem_nil, List.nodup_nil, nofun,
        Nat.le_max_right _ _⟩
    · simp only [turns, unseen, List.length_nil, Bool.false_eq_true, ↓reduceIte]
      omega
  case turned =>
    intro left cycle after ready
    obtain ⟨⟨moved, sweeps⟩, fewer⟩ := ready
    refine (sweeps.ensures_turn healthy covers).mono ?_
    intro turned later reached
    rcases turned with next | outcome
    · exact ⟨reached.1, Nat.lt_of_lt_of_le reached.2 (Nat.le_of_lt_succ fewer)⟩
    · exact reached

end Archiver

end Archivist
