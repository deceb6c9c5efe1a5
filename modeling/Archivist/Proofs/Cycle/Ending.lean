import Archivist.Proofs.Cycle.Drawing
import Archivist.Proofs.Cycle.Searches
import Archivist.Proofs.Move.Outage

set_option autoImplicit false

namespace Archivist

open Calendar (Instant)
open Json (Value)

namespace Holdings

/-- What some indices hold, some of them held at the start. -/
def Stems (live : String → Prop) (start now : Holdings) : Prop :=
  ∀ index id source, live index → now.document? index id = some source →
    ∃ other, live other ∧ start.document? other id = some source

def CopiesFrom (live : String → Prop) : Call → Prop
  | .reindex source _ _ => live source
  | .bulkWrite .. | .bulkDelete .. => False
  | .search _ | .ensureExists _ | .deleteByQuery .. | .refresh _ => True

theorem Stems.after {live : String → Prop} {start now : Holdings} {call : Call}
    (stems : Stems live start now) (copies : CopiesFrom live call) :
    Stems live start (now.after call) := by
  intro index id source here held
  cases call with
  | search request =>
    rw [after_search] at held
    exact stems index id source here held
  | refresh refreshed => exact stems index id source here held
  | ensureExists made =>
    rw [document?_after_ensureExists] at held
    exact stems index id source here held
  | reindex origin destination filter =>
    rw [document?_after_reindex] at held
    split at held
    · rcases Option.or_eq_some_iff.mp held with copied | ⟨_, before⟩
      · exact stems origin id source copies (Option.filter_eq_some_iff.mp copied).1
      · exact stems index id source here before
    · exact stems index id source here held
  | deleteByQuery emptied filter =>
    rw [document?_after_deleteByQuery] at held
    split at held
    · exact stems index id source here (Option.filter_eq_some_iff.mp held).1
    · exact stems index id source here held
  | bulkWrite _ _ | bulkDelete _ _ => cases copies

/-- Whether its calls take effect or not, work that only copies what is live leaves what stems from
the start. -/
theorem Stems.ensures {live : String → Prop} {start : Holdings} {calls : Call → Prop}
    {Result : Type} {work : Work Result} (troubles : Troubles) (site : Site Holdings)
    (stems : Stems live start site.store)
    (makes : (Work.making calls).Ensures (fun _ _ => True) work ())
    (copies : ∀ call, calls call → CopiesFrom live call) :
    ((Backend.outages troubles).setting (fun _ => True)
      (fun after => Stems live start after.store) fun _ => True).Ensures
      (fun _ after => Stems live start after.store) work site := by
  apply Backend.ensures_making makes (Stems live start)
  · intro call now reply after made held served
    rcases Backend.outages_effect served with rfl | rfl
    · exact held
    · exact held.after (copies call made)
  · exact fun _ => id
  · exact stems

end Holdings

open Holdings (Stems CopiesFrom)

namespace Backend

/-- Work in front of a store that may fail in any way, which is to end with a result. -/
def anyhow : Setting Action.Yield (Site Holdings) :=
  (outages .any).setting (fun _ => True) (fun _ => True) fun _ => False

/-- Work in front of a store that may fail in any way, which may run out of turns. -/
def tireless : Setting Action.Yield (Site Holdings) :=
  (outages .any).setting (fun _ => True) (fun _ => True) fun cause => cause = .exhausted

theorem tireless_of_anyhow {Result : Type} {done : Result → Site Holdings → Prop}
    {work : Work Result} {site : Site Holdings} (ensured : anyhow.Ensures done work site) :
    tireless.Ensures done work site :=
  ensured.relax (fun _ _ _ _ => id) (fun _ _ => id) (fun _ => id) fun _ => False.elim

end Backend

theorem Discovery.ensures_fetch_anyhow {discovery : Discovery}
    (near : discovery.finder.offset.natAbs < 86400) (site : Site Holdings) :
    Backend.anyhow.Ensures (fun outcome after => after = site ∧ (outcome.2 = .ok () →
      ∃ page, (page = [] ∨ page = discovery.page site.store) ∧
        discovery.absorb page = some outcome.1)) discovery.fetch site := by
  have takesIn (page : List Record) (given : page = [] ∨ page = discovery.page site.store) :
      TakesIn (fun outcome after => after = site ∧ (outcome.2 = .ok () →
        ∃ page, (page = [] ∨ page = discovery.page site.store) ∧
          discovery.absorb page = some outcome.1)) (fun _ => False) discovery page site := by
    obtain ⟨next, absorbed⟩ : ∃ next, discovery.absorb page = some next := by
      rcases given with rfl | rfl
      · exact ⟨_, rfl⟩
      · exact discovery.exists_absorb near site.store
    rw [TakesIn, absorbed]
    exact ⟨rfl, fun _ => ⟨page, given, absorbed⟩⟩
  refine ensures_fetch ?_
  refine Backend.ensures_search _ _ discovery.search site _ (fun _ _ _ _ _ _ => trivial) trivial ?_
  intro reply truthful
  cases reply with
  | ok page =>
    refine takesIn page (Or.inr ?_)
    have answered := truthful page rfl
    rcases discovery.answer_eq site.store with whole | ⟨⟨failure, failed, _⟩, _⟩
    · exact Except.ok.inj (answered.symm.trans whole)
    · cases answered.symm.trans failed
  | error failure =>
    dsimp only
    split
    · exact takesIn [] (Or.inl rfl)
    · exact ⟨rfl, fun reported => by cases reported⟩

namespace Mover

variable {mover : Mover} {suffix : String} {ids : List String}

theorem allows_copiesFrom : mover.Allows suffix ids (CopiesFrom mover.IsLive) where
  verifies := trivial
  refreshes _ _ := trivial
  makes _ _ := trivial
  copies _ planned := isLive_source planned
  deletes _ _ := trivial

theorem ends_moveTo (site : Site Holdings) :
    Backend.anyhow.Ensures (fun _ _ => True) (mover.moveTo suffix ids) site := by
  have maintains : mover.Maintains suffix ids site.recalls (Backend.outages .any)
      fun _ _ => True := fun _ _ _ _ _ _ _ _ _ => trivial
  have ensured := ensures_moveTo_maintained (fun _ => True) (fun _ => False) mover suffix ids site
    (fun _ _ _ _ _ _ => trivial) maintains trivial
  exact (ensured.mono fun _ _ _ => trivial).relax (fun _ _ _ _ => id) (fun _ _ => id)
    (fun _ _ => trivial) fun _ => id

theorem ends_move (dated : ∀ date, (mover.namer.suffix date).isSome = true) (batch : Batch)
    (site : Site Holdings) :
    Backend.anyhow.Ensures (fun _ _ => True) (mover.move batch) site := by
  obtain ⟨suffix, named⟩ := Option.isSome_iff_exists.mp (dated batch.finishDate)
  by_cases empty : batch.ids = []
  · rw [move, empty]
    trivial
  · rw [move_of_named empty named]
    exact ends_moveTo site

theorem ensures_move_anyhow (dated : ∀ date, (mover.namer.suffix date).isSome = true)
    {start : Holdings} {site : Site Holdings} (stems : Stems mover.IsLive start site.store)
    (batch : Batch) :
    Backend.anyhow.Ensures (fun _ after => Stems mover.IsLive start after.store)
      (mover.move batch) site := by
  have asked : (Work.within (CopiesFrom mover.IsLive)).Ensures (fun _ _ => True)
      (mover.move batch) () :=
    (asks_move batch fun suffix _ => ⟨allows_copiesFrom, trivial⟩).mono fun _ _ _ => trivial
  have keeps := stems.ensures .any site (Work.makes_within asked) fun _ => id
  exact ((ends_move dated batch site).both keeps fun _ _ _ _ served _ => served).mono
    fun _ _ => And.right

end Mover

namespace Archiver

variable (archiver : Archiver) (cutoff : Instant) (start : Holdings)

/-- The documents that may be candidates at some time. -/
def prospects : List Value :=
  archiver.mover.collections.flatMap fun collection =>
    ((start.documents collection.index).map Prod.snd).filter (archiver.finds cutoff)

def ahead (cursor : Option (List Value)) : List Value :=
  match cursor with
  | none => archiver.prospects cutoff start
  | some values => (archiver.prospects cutoff start).filter fun source =>
    isAfter source archiver.finder.sort values

/-- A bound on the turns before nothing is left to do. -/
def turnsAhead (discovery : Discovery) : Nat :=
  discovery.pending.length + if discovery.exhausted then 0
    else (archiver.ahead cutoff start discovery.cursor).length * (discovery.pageSize + 1) + 1

def Alike (kind : Kind) : Prop :=
  ∀ source ∈ archiver.prospects cutoff start,
    ∃ value, source.member? archiver.finder.root.idField = some value ∧ value.kind = kind

/-- A search for batches that goes on from a root it has seen. -/
structure Goes (kind : Kind) (discovery : Discovery) : Prop where
  sameFinder : discovery.finder = archiver.finder
  samePartitions : discovery.partitions = archiver.partitions.ids
  sameCutoff : discovery.cutoff = cutoff
  sized : 1 ≤ discovery.pageSize
  stands : Finder.GoesBy.Stands archiver.finder (archiver.finder.HasKind kind) discovery.cursor

variable {archiver cutoff start} {kind : Kind} {discovery next : Discovery}

theorem copiesFrom_of_mayCall {call : Call} (made : archiver.MayCall cutoff call) :
    CopiesFrom archiver.mover.IsLive call := by
  cases call with
  | reindex source _ _ => exact made
  | bulkWrite _ _ | bulkDelete _ _ => exact made
  | search _ | ensureExists _ | deleteByQuery _ _ | refresh _ => trivial

theorem mem_prospects {source : Value} :
    source ∈ archiver.prospects cutoff start ↔ archiver.finds cutoff source = true ∧
      ∃ index id, archiver.mover.IsLive index ∧ start.document? index id = some source := by
  simp only [prospects, List.mem_flatMap, List.mem_filter, List.mem_map]
  constructor
  · rintro ⟨collection, member, ⟨document, held, rfl⟩, found⟩
    exact ⟨found, collection.index, document.1, Mover.isLive_of_mem member,
      (start.mem_documents_iff _ _ _).mp held⟩
  · rintro ⟨found, _, id, ⟨collection, member, rfl⟩, held⟩
    exact ⟨collection, member, ⟨(id, source), (start.mem_documents_iff _ _ _).mpr held, rfl⟩, found⟩

theorem Alike.hasKind (alike : archiver.Alike cutoff start kind) {source : Value}
    (member : source ∈ archiver.prospects cutoff start) : archiver.finder.HasKind kind source :=
  ⟨Finder.exists_written_of_finds (mem_prospects.mp member).1, alike source member⟩

theorem mem_ahead {cursor : Option (List Value)} {source : Value} :
    source ∈ archiver.ahead cutoff start cursor ↔ source ∈ archiver.prospects cutoff start ∧
      ∀ values, cursor = some values → isAfter source archiver.finder.sort values = true := by
  cases cursor with
  | none => simp only [ahead, reduceCtorEq, false_implies, implies_true, and_true]
  | some values => simp only [ahead, List.mem_filter, Option.some.injEq, forall_eq']

theorem mem_ahead_of_mem_page {held : Holdings} {record : Record}
    (goes : archiver.Goes cutoff kind discovery)
    (sameRoot : archiver.finder.root = archiver.mover.root)
    (stems : Stems archiver.mover.IsLive start held) (member : record ∈ discovery.page held) :
    record.source ∈ archiver.ahead cutoff start discovery.cursor := by
  have unseen := List.mem_of_mem_take member
  obtain ⟨_, held, found⟩ :=
    (Finder.mem_listing record).mp (Finder.mem_listing_of_mem_unseen unseen)
  rw [goes.sameFinder, goes.samePartitions, goes.sameCutoff] at found unseen
  rw [goes.sameFinder] at held
  have live : archiver.mover.IsLive archiver.finder.root.index :=
    sameRoot ▸ Mover.isLive_of_mem List.mem_cons_self
  obtain ⟨index, here, there⟩ := stems _ _ _ live held
  refine mem_ahead.mpr ⟨mem_prospects.mpr ⟨found, index, record.id, here, there⟩, ?_⟩
  intro values same
  rw [same] at unseen
  exact (List.mem_filter.mp unseen).2

theorem length_ahead_lt (alike : archiver.Alike cutoff start kind) {cursor : Option (List Value)}
    (stands : Finder.GoesBy.Stands archiver.finder (archiver.finder.HasKind kind) cursor)
    (record : Record) (member : record.source ∈ archiver.ahead cutoff start cursor) :
    (archiver.ahead cutoff start (some (archiver.finder.cursorOf record))).length <
      (archiver.ahead cutoff start cursor).length := by
  have goesBy := archiver.finder.goesBy_size kind
  have recordKind := alike.hasKind (mem_ahead.mp member).1
  -- What comes after the root came after the cursor before.
  have onward : archiver.ahead cutoff start (some (archiver.finder.cursorOf record)) =
      (archiver.ahead cutoff start cursor).filter fun source =>
        decide (archiver.finder.size record.source < archiver.finder.size source) := by
    have after : archiver.ahead cutoff start (some (archiver.finder.cursorOf record)) =
        (archiver.prospects cutoff start).filter fun source =>
          decide (archiver.finder.size record.source < archiver.finder.size source) :=
      List.filter_congr fun source among =>
        goesBy.after source record (alike.hasKind among) recordKind
    rw [after]
    cases cursor with
    | none => rfl
    | some values =>
      obtain ⟨other, otherKind, rfl⟩ := stands values rfl
      have above := (mem_ahead.mp member).2 _ rfl
      rw [goesBy.after _ other recordKind otherKind, decide_eq_true_eq] at above
      rw [ahead, List.filter_filter]
      refine List.filter_congr fun source among => ?_
      rw [goesBy.after source other (alike.hasKind among) otherKind, Bool.eq_iff_iff]
      simp only [decide_eq_true_eq, Bool.and_eq_true]
      exact ⟨fun further => ⟨further, above.trans further⟩, And.left⟩
  rw [onward]
  refine List.length_filter_lt_length_iff_exists.mpr ⟨record.source, member, ?_⟩
  simp only [lt_self_iff_false, decide_false, Bool.false_eq_true, not_false_eq_true]

/-- Each batch takes a root of the page at least, so a page costs fewer turns than it saves. -/
theorem Goes.absorb (goes : archiver.Goes cutoff kind discovery)
    (alike : archiver.Alike cutoff start kind) (drawn : discovery.draw = .fetch)
    {page : List Record} (short : page.length ≤ discovery.pageSize)
    (shown : ∀ record ∈ page, record.source ∈ archiver.ahead cutoff start discovery.cursor)
    (absorbed : discovery.absorb page = some next) :
    archiver.Goes cutoff kind next ∧
      archiver.turnsAhead cutoff start next < archiver.turnsAhead cutoff start discovery := by
  obtain ⟨pending, notSpent⟩ := Discovery.draw_fetch drawn
  have batches := Discovery.length_pending_absorb pending absorbed
  obtain ⟨sameSize, exhausted⟩ := Discovery.exhausted_of_absorb absorbed
  rw [Discovery.absorb, Option.map_eq_some_iff] at absorbed
  obtain ⟨_, _, made⟩ := absorbed
  have finds : next.finder = discovery.finder := by rw [← made]
  have owns : next.partitions = discovery.partitions := by rw [← made]
  have limits : next.cutoff = discovery.cutoff := by rw [← made]
  have sized := goes.sized
  rw [notSpent, Bool.false_or] at exhausted
  suffices stands : Finder.GoesBy.Stands archiver.finder (archiver.finder.HasKind kind)
      next.cursor ∧
        archiver.turnsAhead cutoff start next < archiver.turnsAhead cutoff start discovery from
    ⟨⟨finds.trans goes.sameFinder, owns.trans goes.samePartitions, limits.trans goes.sameCutoff,
      sameSize ▸ sized, stands.1⟩, stands.2⟩
  simp only [turnsAhead, pending, notSpent, exhausted, sameSize, List.length_nil,
    Bool.false_eq_true, ↓reduceIte, decide_eq_true_eq]
  rcases List.eq_nil_or_concat page with rfl | ⟨front, last, whole⟩
  · have unmoved : next.cursor = discovery.cursor := by
      rw [← made]
      rfl
    rw [List.length_nil] at batches ⊢
    rw [if_pos (show 0 < discovery.pageSize from sized), unmoved]
    exact ⟨goes.stands, by omega⟩
  · rw [List.concat_eq_append] at whole
    have seen := shown last (whole ▸ List.mem_append_right front List.mem_cons_self)
    have fewer := length_ahead_lt alike goes.stands last seen
    have cost := Nat.mul_le_mul_right (discovery.pageSize + 1) (Nat.succ_le_of_lt fewer)
    rw [Nat.succ_mul] at cost
    have moved : next.cursor = some (archiver.finder.cursorOf last) := by
      rw [← made]
      simp only [whole, List.getLast?_concat, goes.sameFinder]
    rw [moved]
    refine ⟨fun values same => ⟨last, alike.hasKind (mem_ahead.mp seen).1,
      (Option.some.inj same).symm⟩, ?_⟩
    split <;> omega

theorem Alike.orders (alike : archiver.Alike cutoff start kind) :
    archiver.finder.Orders (· ∈ archiver.prospects cutoff start) :=
  (archiver.finder.goesBy_size kind).orders.mono fun _ member => alike.hasKind member

/-- No cycle over candidates that have an order breaks off in a search of the store. -/
theorem ensures_cycle_steady {now : Instant} (begins : archiver.finder.cutoff now = some cutoff)
    (sameRoot : archiver.finder.root = archiver.mover.root)
    (orders : archiver.finder.Orders (· ∈ archiver.prospects cutoff start))
    {done : Cycle.Outcome → Site Holdings → Prop} {excuses : Crash → Prop} {fuel : Nat}
    {recalls : String → Bool}
    (ensured : ((Backend.outages .any).setting (fun _ => True) (fun _ => True) excuses).Ensures done
      (archiver.cycle fuel now) ⟨start, recalls⟩) :
    (Backend.steady .any (fun _ => True) excuses).Ensures done (archiver.cycle fuel now)
      ⟨start, recalls⟩ := by
  have makes := makes_cycle begins fuel
  have live : archiver.mover.IsLive archiver.finder.root.index :=
    sameRoot ▸ Mover.isLive_of_mem List.mem_cons_self
  have begun : Stems archiver.mover.IsLive start start := fun index id source here held =>
    ⟨index, here, held⟩
  have keeps := begun.ensures .any ⟨start, recalls⟩ makes fun _ => copiesFrom_of_mayCall
  refine Backend.ensures_steady makes keeps ?_ begun ensured
  intro call site made stems
  refine mayCall_steady orders (fun id source held found => ?_) made
  obtain ⟨other, here, there⟩ := stems _ _ _ live held
  exact mem_prospects.mpr ⟨found, other, id, here, there⟩

/-- Whatever fails on the way and whatever the store holds, a cycle stops by itself without a result
only when it runs out of turns. -/
theorem ensures_tireless (dated : ∀ date, (archiver.mover.namer.suffix date).isSome = true)
    (near : archiver.finder.offset.natAbs < 86400) {now : Instant}
    (timely : ∃ cutoff, archiver.finder.cutoff now = some cutoff) (fuel : Nat)
    (site : Site Holdings) :
    Backend.tireless.Ensures (fun _ _ => True) (archiver.cycle fuel now) site := by
  obtain ⟨cutoff, begins⟩ := timely
  apply ensures_cycle (fun _ cycle _ => cycle.discovery.finder = archiver.finder)
    trivial (fun _ => trivial)
  case untimely =>
    intro untimely
    cases begins.symm.trans untimely
  case begun => exact fun _ _ _ => rfl
  case spent => exact fun _ _ _ => rfl
  case turned =>
    intro left cycle after same
    refine Cycle.ensures_turn trivial (fun _ => trivial) (fun _ => ?fetched) ?moved
    case fetched =>
      refine (Backend.tireless_of_anyhow
        (Discovery.ensures_fetch_anyhow (same ▸ near) after)).mono ?_
      intro fetched later reached
      obtain ⟨discovery, _ | _⟩ := fetched
      · exact ⟨trivial, trivial⟩
      · obtain ⟨_, _, absorbed⟩ := reached.2 rfl
        rw [Discovery.absorb, Option.map_eq_some_iff] at absorbed
        obtain ⟨_, _, rfl⟩ := absorbed
        exact ⟨trivial, same⟩
    case moved =>
      intro batch others _
      refine (Backend.tireless_of_anyhow (Mover.ends_move dated batch after)).mono ?_
      intro moved _ _
      refine ⟨trivial, ?_⟩
      rcases moved with failure | count
      · obtain ⟨suffix, named⟩ := Option.isSome_iff_exists.mp (dated batch.finishDate)
        simp only [named]
      · exact same

section Ending

variable (dated : ∀ date, (archiver.mover.namer.suffix date).isSome = true)
  (near : archiver.finder.offset.natAbs < 86400)
  (sameRoot : archiver.finder.root = archiver.mover.root)
  (alike : archiver.Alike cutoff start kind)

include near sameRoot alike

theorem Goes.ensures_fetch (goes : archiver.Goes cutoff kind discovery)
    (drawn : discovery.draw = .fetch) {site : Site Holdings}
    (stems : Stems archiver.mover.IsLive start site.store) :
    Backend.anyhow.Ensures (fun outcome after => after = site ∧ (outcome.2 = .ok () →
      archiver.Goes cutoff kind outcome.1 ∧
        archiver.turnsAhead cutoff start outcome.1 < archiver.turnsAhead cutoff start discovery))
      discovery.fetch site := by
  refine (Discovery.ensures_fetch_anyhow (goes.sameFinder ▸ near) site).mono ?_
  intro outcome after reached
  refine ⟨reached.1, fun fetched => ?_⟩
  obtain ⟨page, given, absorbed⟩ := reached.2 fetched
  have short : page.length ≤ discovery.pageSize := by
    rcases given with rfl | rfl
    · exact Nat.zero_le _
    · exact List.length_take_le _ _
  have shown : ∀ record ∈ page, record.source ∈ archiver.ahead cutoff start discovery.cursor := by
    rcases given with rfl | rfl
    · simp only [List.not_mem_nil, false_implies, implies_true]
    · exact fun record => mem_ahead_of_mem_page goes sameRoot stems
  exact goes.absorb alike drawn short shown absorbed

include dated

theorem Goes.ensures_turn {cycle : Cycle} (goes : archiver.Goes cutoff kind cycle.discovery)
    {site : Site Holdings} (stems : Stems archiver.mover.IsLive start site.store) :
    Backend.anyhow.Ensures (Cycle.Leads (fun next after =>
        archiver.Goes cutoff kind next.discovery ∧ archiver.turnsAhead cutoff start next.discovery <
          archiver.turnsAhead cutoff start cycle.discovery ∧
        Stems archiver.mover.IsLive start after.store) fun _ _ => True)
      (Cycle.turn archiver.mover cycle) site := by
  refine Cycle.ensures_turn trivial (fun _ => trivial) ?fetched ?moved
  case fetched =>
    intro drawn
    refine (goes.ensures_fetch near sameRoot alike drawn stems).mono ?_
    intro fetched _ reached
    obtain ⟨rfl, further⟩ := reached
    obtain ⟨discovery, _ | _⟩ := fetched
    · exact ⟨trivial, trivial⟩
    · exact ⟨trivial, (further rfl).1, (further rfl).2, stems⟩
  case moved =>
    intro batch others pending
    refine (Mover.ensures_move_anyhow dated stems batch).mono ?_
    intro moved after still
    refine ⟨trivial, ?_⟩
    rcases moved with failure | count
    · obtain ⟨suffix, named⟩ := Option.isSome_iff_exists.mp (dated batch.finishDate)
      simp only [named]
    · refine ⟨⟨goes.sameFinder, goes.samePartitions, goes.sameCutoff, goes.sized, goes.stands⟩, ?_,
        still⟩
      simp only [turnsAhead, pending, List.length_cons]
      omega

/-- Whatever fails on the way, a cycle ends with a result when it has enough turns. -/
theorem ensures_ends {now : Instant} (begins : archiver.finder.cutoff now = some cutoff)
    (fuel : Nat) (enough : (archiver.prospects cutoff start).length *
      (max archiver.batchSize 1 + 1) + 2 ≤ fuel) (recalls : String → Bool) :
    Backend.anyhow.Ensures (fun _ _ => True) (archiver.cycle fuel now) ⟨start, recalls⟩ := by
  apply ensures_cycle (fun left cycle after => archiver.Goes cutoff kind cycle.discovery ∧
      archiver.turnsAhead cutoff start cycle.discovery < left ∧
      Stems archiver.mover.IsLive start after.store)
    trivial (fun _ => trivial)
  case untimely =>
    intro untimely
    cases begins.symm.trans untimely
  case begun =>
    intro other same _
    cases begins.symm.trans same
    refine ⟨⟨rfl, rfl, rfl, Nat.le_max_right _ _, nofun⟩, ?_, fun index id source live held =>
      ⟨index, live, held⟩⟩
    simp only [turnsAhead, ahead, List.length_nil, Bool.false_eq_true, ↓reduceIte]
    omega
  case spent => exact fun _ _ ready => Nat.not_lt_zero _ ready.2.1
  case turned =>
    intro left cycle after ready
    obtain ⟨goes, below, stems⟩ := ready
    refine (goes.ensures_turn dated near sameRoot alike stems).mono ?_
    intro turned later reached
    rcases turned with next | outcome
    · obtain ⟨further, fewer, still⟩ := reached
      exact ⟨further, by omega, still⟩
    · exact reached

end Ending

end Archiver

end Archivist
