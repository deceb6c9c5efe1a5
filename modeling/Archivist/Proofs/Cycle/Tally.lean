import Archivist.Proofs.Cycle.Books
import Archivist.Proofs.Cycle.Departure
import Archivist.Proofs.Cycle.Pair
import Archivist.Proofs.Discovery.Ranks
import Archivist.Proofs.Move.Leaving

set_option autoImplicit false

namespace Archivist

open Calendar (Instant)
open Json (Value)
open Rehearsal (World carryOn)

namespace RootDescriptor

def countRoots (root : RootDescriptor) (documents : Documents) : Nat :=
  documents.countP fun document => root.isRoot document.2

def Holds (root : RootDescriptor) (held : Holdings) (text : String) : Prop :=
  ∃ id source, held.document? root.index id = some source ∧ root.isRoot source = true ∧
    source.textAt root.idField = some text

def linkedTo (root : RootDescriptor) (ids : List String) (document : String × Value) : Bool :=
  (Filter.terms root.linkField (Mover.texts ids)).accepts document.2

theorem identifies_of_numbered {root : RootDescriptor} {held : Holdings}
    (numbered : ∀ id source, held.document? root.index id = some source →
      root.isRoot source = true → ∃ number,
        source.member? root.idField = some (.nat number) ∧
          source.textAt root.linkField = some (Numeral.ofNat number))
    (distinct : ∀ id other source another,
      held.document? root.index id = some source →
      held.document? root.index other = some another →
      root.isRoot source = true → root.isRoot another = true →
      source.member? root.idField = another.member? root.idField → id = other) :
    root.Identifies held := by
  have named : ∀ (source : Value) (number : Nat), source.member? root.idField = some (.nat number) →
      source.textAt root.idField = some (Numeral.ofNat number) := by
    intro source number found
    rw [Value.textAt, found]
    rfl
  constructor
  · intro id source there tagged
    obtain ⟨number, found, linked⟩ := numbered id source there tagged
    exact ⟨Numeral.ofNat number, named source number found, linked⟩
  · intro id other source another text there also tagged alike shown same
    obtain ⟨number, found, _⟩ := numbered id source there tagged
    obtain ⟨second, likewise, _⟩ := numbered other another also alike
    have texts := shown.symm.trans (named source number found)
    have others := same.symm.trans (named another second likewise)
    have numbers := Numeral.ofNat_injective (Option.some.inj (texts.symm.trans others))
    refine distinct id other source another there also tagged alike ?_
    rw [found, likewise, numbers]

variable {root : RootDescriptor} {start now held : Holdings} {ids : List String}

def linkedRoots (root : RootDescriptor) (held : Holdings) (ids : List String) : Documents :=
  (held.documents root.index).filter fun document =>
    root.isRoot document.2 && root.linkedTo ids document

def nameOf (root : RootDescriptor) (document : String × Value) : String :=
  (document.2.textAt root.idField).getD ""

theorem Identifies.mem_linkedRoots (identifies : root.Identifies held)
    (document : String × Value) : document ∈ root.linkedRoots held ids ↔
      held.document? root.index document.1 = some document.2 ∧ root.isRoot document.2 = true ∧
        ∃ text ∈ ids, document.2.textAt root.idField = some text := by
  rw [linkedRoots, List.mem_filter, held.mem_documents_iff, Bool.and_eq_true]
  refine and_congr_right fun here => and_congr_right fun tagged => ?_
  obtain ⟨own, written, points⟩ := identifies.linked _ _ here tagged
  rw [linkedTo, Filter.accepts_terms, written, points]

theorem Identifies.names_nodup (identifies : root.Identifies held) :
    ((root.linkedRoots held ids).map root.nameOf).Nodup := by
  refine List.Nodup.map_on ?_ ((held.nodup_documents root.index).filter _)
  intro left member right also same
  obtain ⟨here, tagged, text, _, written⟩ := (identifies.mem_linkedRoots left).mp member
  obtain ⟨there, alike, other, _, shown⟩ := (identifies.mem_linkedRoots right).mp also
  simp only [nameOf, written, shown, Option.getD_some] at same
  subst same
  have ids := identifies.distinct _ _ _ _ _ here there tagged alike written shown
  rw [ids] at here
  exact Prod.ext ids (Option.some.inj (here.symm.trans there))

theorem Identifies.countRoots_linked (identifies : root.Identifies held) (once : ids.Nodup)
    (there : ∀ text ∈ ids, root.Holds held text) :
    root.countRoots ((held.documents root.index).filter (root.linkedTo ids)) = ids.length := by
  have names : ∀ text, text ∈ (root.linkedRoots held ids).map root.nameOf ↔ text ∈ ids := by
    intro text
    rw [List.mem_map]
    constructor
    · intro given
      obtain ⟨document, member, rfl⟩ := given
      obtain ⟨_, _, own, among, written⟩ := (identifies.mem_linkedRoots document).mp member
      rw [nameOf, written]
      exact among
    · intro among
      obtain ⟨id, source, here, tagged, written⟩ := there text among
      refine ⟨(id, source), (identifies.mem_linkedRoots _).mpr ?_, ?_⟩
      · exact ⟨here, tagged, text, among, written⟩
      · rw [nameOf, written, Option.getD_some]
  rw [countRoots, List.countP_filter, List.countP_eq_length_filter, ← List.length_map root.nameOf]
  exact ((List.perm_ext_iff_of_nodup identifies.names_nodup once).mpr names).length_eq

theorem Identifies.countRoots_gone (identifies : root.Identifies held) (once : ids.Nodup)
    (there : ∀ text ∈ ids, root.Holds held text)
    (gone : now.documents root.index =
      (held.documents root.index).filter fun document => !root.linkedTo ids document) :
    root.countRoots (now.documents root.index) + ids.length =
      root.countRoots (held.documents root.index) := by
  have parts := List.countP_eq_countP_filter_add (held.documents root.index)
    (fun document => root.isRoot document.2) (root.linkedTo ids)
  have linked := identifies.countRoots_linked once there
  rw [gone]
  simp only [countRoots] at linked ⊢
  omega

theorem departed_add_countRoots (stays : ∀ id source,
      now.document? root.index id = some source → start.document? root.index id = some source) :
    ((start.documents root.index).filter fun document =>
      root.isRoot document.2 && (now.document? root.index document.1).isNone).length +
        root.countRoots (now.documents root.index) =
      root.countRoots (start.documents root.index) := by
  have still : (now.documents root.index).Perm ((start.documents root.index).filter
      fun document => (now.document? root.index document.1).isSome) := by
    refine (List.perm_ext_iff_of_nodup (now.nodup_documents root.index)
      ((start.nodup_documents root.index).filter _)).mpr ?_
    intro document
    obtain ⟨id, source⟩ := document
    rw [List.mem_filter, now.mem_documents_iff, start.mem_documents_iff]
    constructor
    · intro held
      exact ⟨stays id source held, by rw [held]; rfl⟩
    · intro both
      obtain ⟨held, there⟩ := both
      obtain ⟨other, found⟩ := Option.isSome_iff_exists.mp there
      cases held.symm.trans (stays id other found)
      exact found
  have parts := List.countP_eq_countP_filter_add (start.documents root.index)
    (fun document => root.isRoot document.2)
    fun document => (now.document? root.index document.1).isSome
  have gone := List.countP_filter (p := fun document : String × Value => root.isRoot document.2)
    (q := fun document => !(now.document? root.index document.1).isSome)
    (l := start.documents root.index)
  simp only [Option.not_isSome] at parts gone
  rw [countRoots, countRoots, parts, still.countP_eq, gone, ← List.countP_eq_length_filter]
  exact Nat.add_comm _ _

end RootDescriptor

namespace Archiver

variable {archiver : Archiver} {start now after : Holdings} {troubles : Troubles}

/-- Documents of the index of the roots have only gone away, and a number says how many roots. -/
structure Counts (archiver : Archiver) (start now : Holdings) (archived : Nat) : Prop where
  stays : ∀ id source, now.document? archiver.finder.root.index id = some source →
    start.document? archiver.finder.root.index id = some source
  counted : archiver.finder.root.countRoots (now.documents archiver.finder.root.index) + archived =
    archiver.finder.root.countRoots (start.documents archiver.finder.root.index)

/-- A cycle that has counted the roots that have left, and whose batches wait for roots that have
not. -/
structure Tallies (archiver : Archiver) (start : Holdings) (cycle : Cycle) (now : Holdings) : Prop
    extends archiver.Counts start now cycle.archived where
  sameFinder : cycle.discovery.finder = archiver.finder
  once : (cycle.discovery.pending.flatMap Batch.ids).Nodup
  waits : ∀ text ∈ cycle.discovery.pending.flatMap Batch.ids, archiver.finder.root.Holds now text

theorem Counts.departedCount_eq {archived : Nat} (counts : archiver.Counts start now archived) :
    archiver.departedCount start now = archived := by
  have parts := RootDescriptor.departed_add_countRoots counts.stays
  have counted := counts.counted
  rw [departedCount]
  omega

theorem Counts.same {archived : Nat} (counts : archiver.Counts start now archived)
    (same : after.documents archiver.finder.root.index =
      now.documents archiver.finder.root.index) : archiver.Counts start after archived where
  stays id source held := by
    rw [Holdings.document?, same] at held
    exact counts.stays id source held
  counted := same ▸ counts.counted

theorem idTexts_of_page (identifies : archiver.finder.root.Identifies now) {partitions : List Nat}
    {cutoff : Instant} {page : List Record}
    (part : page.Sublist (archiver.finder.listing partitions cutoff now)) :
    ((page.filterMap archiver.finder.candidate?).map Candidate.id).Nodup ∧
      ∀ text ∈ (page.filterMap archiver.finder.candidate?).map Candidate.id,
        archiver.finder.root.Holds now text := by
  have named : ∀ record ∈ page, ∀ candidate, archiver.finder.candidate? record = some candidate →
      now.document? archiver.finder.root.index record.id = some record.source ∧
        archiver.finder.root.isRoot record.source = true ∧
          record.source.textAt archiver.finder.root.idField = some candidate.id := by
    intro record member candidate chosen
    obtain ⟨_, held, found⟩ := (Finder.mem_listing record).mp (part.subset member)
    have tagged : archiver.finder.root.isRoot record.source = true := by
      simp only [Finder.finds, Bool.and_eq_true] at found
      exact found.1.1
    obtain ⟨text, written, _⟩ := identifies.linked _ _ held tagged
    rw [Finder.candidate?_eq, Option.map_eq_some_iff] at chosen
    obtain ⟨endDate, _, rfl⟩ := chosen
    simp only [written, Option.getD_some]
    exact ⟨held, tagged, trivial⟩
  constructor
  · refine List.pairwise_map.mpr (List.pairwise_filterMap.mpr ?_)
    refine (Finder.listing_apart.sublist part).imp_of_mem ?_
    intro left right member also apart first chosen second picked same
    obtain ⟨held, tagged, written⟩ := named left member first chosen
    obtain ⟨there, alike, shown⟩ := named right also second picked
    rw [← same] at shown
    exact apart (identifies.distinct _ _ _ _ _ held there tagged alike written shown)
  · intro text among
    obtain ⟨candidate, listed, rfl⟩ := List.mem_map.mp among
    obtain ⟨record, member, chosen⟩ := List.mem_filterMap.mp listed
    exact ⟨record.id, record.source, named record member candidate chosen⟩

namespace Tallies

variable {cycle : Cycle} (tallies : archiver.Tallies start cycle now)
include tallies

theorem absorb (identifies : archiver.finder.root.Identifies start)
    (pending : cycle.discovery.pending = []) {page : List Record}
    (part : page.Sublist
      (archiver.finder.listing cycle.discovery.partitions cycle.discovery.cutoff now))
    {next : Discovery} (absorbed : cycle.discovery.absorb page = some next) :
    archiver.Tallies start { cycle with discovery := next } now := by
  rw [Discovery.absorb, Option.map_eq_some_iff] at absorbed
  obtain ⟨batches, grouped, rfl⟩ := absorbed
  rw [tallies.sameFinder] at grouped
  obtain ⟨once, waits⟩ := idTexts_of_page (identifies.of_stays tallies.stays) part
  rw [← Finder.flatMap_ids_group grouped] at once waits
  refine ⟨⟨tallies.stays, tallies.counted⟩, tallies.sameFinder, ?_, ?_⟩
  · simpa only [pending, List.nil_append] using once
  · simpa only [pending, List.nil_append] using waits

theorem move (identifies : archiver.finder.root.Identifies start) {batch : Batch}
    {others : List Batch} (pending : cycle.discovery.pending = batch :: others)
    (gone : after.documents archiver.finder.root.index =
      (now.documents archiver.finder.root.index).filter fun document =>
        !archiver.finder.root.linkedTo batch.ids document) :
    archiver.Tallies start
      ⟨{ cycle.discovery with pending := others }, cycle.archived + batch.ids.length⟩ after := by
  have told := identifies.of_stays tallies.stays
  have once := tallies.once
  have waits := tallies.waits
  rw [pending, List.flatMap_cons] at once waits
  obtain ⟨onceHere, onceLater, apart⟩ := List.nodup_append.mp once
  have here : ∀ text ∈ batch.ids, archiver.finder.root.Holds now text :=
    fun text among => waits text (List.mem_append_left _ among)
  have fewer := told.countRoots_gone onceHere here gone
  have held : ∀ id source, after.document? archiver.finder.root.index id = some source ↔
      now.document? archiver.finder.root.index id = some source ∧
        archiver.finder.root.linkedTo batch.ids (id, source) = false := by
    intro id source
    rw [← after.mem_documents_iff, gone, List.mem_filter, now.mem_documents_iff,
      Bool.not_eq_true']
  refine ⟨⟨?stays, ?counted⟩, ?sameFinder, ?once, ?waits⟩
  case stays => exact fun id source there => tallies.stays id source ((held id source).mp there).1
  case counted =>
    have counted := tallies.counted
    simp only
    omega
  case sameFinder => exact tallies.sameFinder
  case once => exact onceLater
  case waits =>
    intro text among
    obtain ⟨id, source, there, tagged, written⟩ := waits text (List.mem_append_right _ among)
    refine ⟨id, source, (held id source).mpr ⟨there, ?_⟩, tagged, written⟩
    -- Its link is its own id, which is none of those that were moved.
    obtain ⟨own, shown, points⟩ := told.linked id source there tagged
    cases shown.symm.trans written
    refine Bool.eq_false_iff.mpr fun accepted => ?_
    obtain ⟨other, moved, same⟩ := (Filter.accepts_terms _ _ _).mp accepted
    cases points.symm.trans same
    exact apart _ moved _ among rfl

end Tallies

section Cycle

variable (sameRoot : archiver.mover.root = archiver.finder.root)
  (elsewhere : ∀ dependent ∈ archiver.mover.separateDependents,
    dependent.index ≠ archiver.finder.root.index)
  (apart : ∀ date suffix, archiver.mover.namer.suffix date = some suffix →
    archiver.mover.Apart suffix)
  (identifies : archiver.finder.root.Identifies start)
include identifies

/-- A page that could not be fetched, or was reported as missing, adds nothing. -/
theorem Tallies.ensures_fetch {cycle : Cycle} {site : Site Holdings}
    (tallies : archiver.Tallies start cycle site.store) (drawn : cycle.discovery.draw = .fetch) :
    (Backend.faults troubles).Ensures
      (Cycle.Fetches (fun next after => archiver.Tallies start next after.store)
        (fun outcome after => archiver.Counts start after.store (Cycle.moved outcome))
        (fun _ => True) cycle)
      cycle.discovery.fetch site := by
  have pending := (Discovery.draw_fetch drawn).1
  have takesIn : ∀ page : List Record, page.Sublist (archiver.finder.listing
      cycle.discovery.partitions cycle.discovery.cutoff site.store) →
      Discovery.TakesIn (Cycle.Fetches
        (fun next after => archiver.Tallies start next after.store)
        (fun outcome after => archiver.Counts start after.store (Cycle.moved outcome))
        (fun _ => True) cycle) (fun _ => True) cycle.discovery page site := by
    intro page part
    rw [Discovery.TakesIn]
    split
    · rename_i absorbed
      exact ⟨trivial, tallies.absorb identifies pending part absorbed⟩
    · trivial
  refine Discovery.ensures_fetch (Backend.ensures_call_faulty _ _ _ site _ ?answered ?failed)
  case answered =>
    intro page answered
    rw [Holdings.after_search]
    refine takesIn page ?_
    rcases cycle.discovery.answer_eq site.store with same | ⟨⟨_, missing, _⟩, _⟩
    · rw [same] at answered
      cases answered
      rw [← tallies.sameFinder]
      refine (List.take_sublist _ _).trans ?_
      cases cycle.discovery.cursor with
      | none => exact List.Sublist.refl _
      | some values => exact List.filter_sublist
    · rw [missing] at answered
      cases answered
  case failed =>
    intro failure
    simp only
    split
    · exact takesIn [] (List.nil_sublist _)
    · exact ⟨trivial, tallies.toCounts⟩

include sameRoot elsewhere apart

theorem Tallies.ensures_turn {cycle : Cycle} {site : Site Holdings}
    (tallies : archiver.Tallies start cycle site.store) :
    (Backend.faults troubles).Ensures
      (Cycle.Leads (fun next after => archiver.Tallies start next after.store)
        fun outcome after => archiver.Counts start after.store (Cycle.moved outcome))
      (Cycle.turn archiver.mover cycle) site := by
  refine Cycle.ensures_turn trivial (fun _ => tallies.toCounts)
    (fun drawn => tallies.ensures_fetch identifies drawn) ?_
  intro batch others pending
  rw [Mover.move]
  split
  · rename_i empty
    have none : batch.ids = [] := List.isEmpty_iff.mp empty
    refine ⟨trivial, ⟨tallies.stays, tallies.counted⟩, tallies.sameFinder, ?_, ?_⟩
    · simpa only [pending, List.flatMap_cons, none, List.nil_append] using tallies.once
    · simpa only [pending, List.flatMap_cons, none, List.nil_append] using tallies.waits
  rw [Namer.suffixOrCrash]
  split
  · rename_i suffix named
    have outside : ∀ dependent ∈ archiver.mover.separateDependents,
        dependent.index ≠ archiver.mover.root.index := sameRoot ▸ elsewhere
    refine (Mover.ensures_moveTo_faulty (apart _ suffix named) outside site).mono ?_
    intro result after left
    rw [sameRoot] at left
    refine ⟨trivial, ?_⟩
    rcases result with cause | count
    · rw [named]
      exact tallies.toCounts.same left
    · obtain ⟨rfl, gone⟩ := left
      rw [Mover.rootTransfer, sameRoot] at gone
      exact tallies.move identifies pending gone
  · trivial

/-- Where failures have no effect, a cycle counts just the roots that have left. -/
theorem ensures_cycle_counts (fuel : Nat) (now : Instant) (recalls : String → Bool) :
    (Backend.faults troubles).Ensures
      (fun outcome after => archiver.Counts start after.store (Cycle.moved outcome))
      (archiver.cycle fuel now) ⟨start, recalls⟩ := by
  have nothing : archiver.Counts start start 0 := ⟨fun _ _ held => held, rfl⟩
  refine ensures_cycle (fun _ cycle after => archiver.Tallies start cycle after.store) trivial
    (fun _ => nothing) (fun _ => trivial) ?_ (fun _ _ _ => trivial)
    fun _ _ _ tallies => tallies.ensures_turn sameRoot elsewhere apart identifies
  intro cutoff _ _
  exact ⟨nothing, rfl, .nil, by simp only [List.flatMap_nil, List.not_mem_nil, false_implies,
    implies_true]⟩

end Cycle

theorem Counts.trans {middle : Holdings} {first second : Nat}
    (earlier : archiver.Counts start middle first) (later : archiver.Counts middle now second) :
    archiver.Counts start now (first + second) where
  stays id source held := earlier.stays id source (later.stays id source held)
  counted := by
    have before := earlier.counted
    have since := later.counted
    omega

/-- Cycles of one job that came to their ends, one after the other, with nobody else at work. Any
call may fail, as long as it does nothing then. -/
inductive Calls (archiver : Archiver) (troubles : Troubles) (start : Workplace Holdings) :
    List Cycle.Outcome → Workplace Holdings → Prop where
  | begun : Calls archiver troubles start [] start
  | called {outcomes : List Cycle.Outcome} {before : Workplace Holdings}
      (earlier : Calls archiver troubles start outcomes before) (fuel : Nat) (now : Instant)
      (after : Workplace Holdings) (outcome : Cycle.Outcome)
      (reached : (archiver.cycle fuel now).Reaches (Backend.faulty troubles).workplace before
        after (.finish outcome)) :
    Calls archiver troubles start (outcomes ++ [outcome]) after

namespace Calls

variable {begun last : Workplace Holdings} {outcomes : List Cycle.Outcome}

theorem counts (calls : archiver.Calls troubles begun outcomes last)
    (sameRoot : archiver.mover.root = archiver.finder.root)
    (elsewhere : ∀ dependent ∈ archiver.mover.separateDependents,
      dependent.index ≠ archiver.finder.root.index)
    (apart : ∀ date suffix, archiver.mover.namer.suffix date = some suffix →
      archiver.mover.Apart suffix)
    (identifies : archiver.finder.root.Identifies begun.site.store) :
    archiver.Counts begun.site.store last.site.store (outcomes.map Cycle.moved).sum := by
  induction calls with
  | begun => exact ⟨fun _ _ held => held, rfl⟩
  | @called outcomes before earlier fuel now after outcome reached ih =>
    have counted := ((ensures_cycle_counts sameRoot elsewhere apart
      (identifies.of_stays ih.stays) fuel now before.site.recalls).holds trivial
        (Workplace.reaches_site reached)).2
    rw [List.map_append, List.sum_append]
    exact ih.trans counted

theorem shows (calls : archiver.Calls troubles begun outcomes last)
    (fresh : begun.desk = .fresh) :
    ∃ account, last.desk.Shows (fun _ => 0) account ∧ account.phase = .idle ∧
      ∀ counter, counter.isOfCycles = true → account.counted counter =
        (outcomes.map fun outcome => Cycle.books outcome counter).sum := by
  induction calls with
  | begun =>
    refine ⟨.begin .idle, ⟨fun counter => ?_, ?_⟩, rfl, fun _ _ => rfl⟩
    · rw [fresh]
      cases counter <;> rfl
    · rw [fresh]
      rfl
  | called earlier fuel now after outcome reached ih =>
    obtain ⟨account, shows, _, told⟩ := ih
    obtain ⟨later, shown, booked⟩ := Workplace.shows_of_reaches reached shows
      (archiver.account_cycle fuel now account)
    refine ⟨later, shown, booked.idle, fun counter ofCycles => ?_⟩
    rw [booked.counted counter ofCycles, told counter ofCycles, List.map_append, List.sum_append]
    rfl

end Calls

/-- After every cycle of a job whose calls fail without effect, its counters say how many roots have
left, how many cycles there were and how many of them failed, all within 64 bits; the outcomes say
the same, and the job is idle. -/
theorem counters_tell_the_truth (archiver : Archiver)
    (sameRoot : archiver.mover.root = archiver.finder.root)
    (elsewhere : ∀ dependent ∈ archiver.mover.separateDependents,
      dependent.index ≠ archiver.finder.root.index)
    (apart : ∀ base date destination, archiver.mover.IsLive base →
      archiver.mover.namer.resolve base (some date) = some destination →
        ¬archiver.mover.IsLive destination)
    (troubles : Troubles) (begun last : Workplace Holdings) (fresh : begun.desk = .fresh)
    (identifies : archiver.finder.root.Identifies begun.site.store)
    (outcomes : List Cycle.Outcome) (calls : archiver.Calls troubles begun outcomes last) :
    archiver.departedCount begun.site.store last.site.store = (outcomes.map Cycle.moved).sum ∧
      last.desk.counters.archivedInstances =
        Counters.wrap (archiver.departedCount begun.site.store last.site.store) ∧
      last.desk.counters.cycles = Counters.wrap outcomes.length ∧
      last.desk.counters.cycleFailures =
        Counters.wrap (outcomes.countP fun outcome => !outcome.isOk) ∧
      last.desk.phase = .idle := by
  have counts := calls.counts sameRoot elsewhere (Mover.apart_of_resolve apart) identifies
  obtain ⟨account, shows, idle, told⟩ := calls.shows fresh
  have shown : ∀ counter, counter.isOfCycles = true → last.desk.counters.get counter =
      Counters.wrap (outcomes.map fun outcome => Cycle.books outcome counter).sum := by
    intro counter ofCycles
    rw [shows.counters, told counter ofCycles, Nat.zero_add]
  refine ⟨counts.departedCount_eq, ?archived, ?cycles, ?failures, shows.phase.trans idle⟩
  case archived =>
    rw [counts.departedCount_eq]
    exact shown .archivedInstances rfl
  case cycles =>
    exact (shown .cycles rfl).trans (congrArg Counters.wrap (Cycle.sum_cycles outcomes))
  case failures =>
    exact (shown .cycleFailures rfl).trans (congrArg Counters.wrap (Cycle.sum_failures outcomes))

theorem specimen_identifies : specimen.finder.root.Identifies Mover.specimenStart := by
  refine RootDescriptor.identifies_of_numbered ?_ ?_
  · intro id source held _
    obtain ⟨_, numbered, linked, _⟩ := specimen_root held
    exact ⟨7, numbered, linked⟩
  · intro id other source another held also _ _ _
    exact (specimen_root held).1.trans (specimen_root also).1.symm

/-- A root whose deletion is refused once is counted when it leaves in the next cycle. -/
theorem refused_root_is_counted_once : ∃ (outcomes : List Cycle.Outcome) (last : World),
    specimen.Calls .outage (specimenOutage.workplace .job) outcomes (last.workplace .job) ∧
      outcomes.map Cycle.moved = [0, 1] ∧
      specimen.departedCount specimenOutage.store.holdings last.store.holdings = 1 ∧
      last.counters.archivedInstances =
        Counters.wrap (specimen.departedCount specimenOutage.store.holdings last.store.holdings) ∧
      last.counters.cycles = Counters.wrap outcomes.length ∧
      last.counters.cycleFailures =
        Counters.wrap (outcomes.countP fun outcome => !outcome.isOk) ∧
      last.phase = .idle := by
  have firstEnds : ((carryOn .job specimenOutage (specimen.cycle 4 specimenWorld.now)).2.result?.map
      Cycle.moved) = some 0 := by decide +kernel
  obtain ⟨first, came, none⟩ := Option.map_eq_some_iff.mp firstEnds
  have before := Rehearsal.reaches_workplace specimenOutage _ _ first nofun
    (Prod.ext rfl (Rehearsal.Progress.eq_finished came))
  have secondEnds : ((carryOn .job
      (carryOn .job specimenOutage (specimen.cycle 4 specimenWorld.now)).1
      (specimen.cycle 4 specimenWorld.now)).2.result?.map Cycle.moved) = some 1 := by decide +kernel
  obtain ⟨second, ended, one⟩ := Option.map_eq_some_iff.mp secondEnds
  have after := Rehearsal.reaches_workplace _ _ _ second (by decide +kernel)
    (Prod.ext rfl (Rehearsal.Progress.eq_finished ended))
  have calls : specimen.Calls .outage (specimenOutage.workplace .job) [first, second] _ :=
    .called (.called .begun 4 specimenWorld.now _ first before) 4 specimenWorld.now _ second after
  have apart : ∀ base date destination, specimen.mover.IsLive base →
      specimen.mover.namer.resolve base (some date) = some destination →
        ¬specimen.mover.IsLive destination := by
    intro base date destination live resolved also
    cases resolved
    have separates := Mover.specimen_separates (· = "x") fun _ marked => marked
    exact separates.apart "x" rfl base _ live also rfl
  have told := counters_tell_the_truth specimen rfl (by decide) apart .outage
    (specimenOutage.workplace .job) _ rfl specimen_identifies [first, second] calls
  obtain ⟨departed, archived, cycles, failures, idle⟩ := told
  have moved : [first, second].map Cycle.moved = [0, 1] := by
    rw [List.map_cons, List.map_singleton, none, one]
  refine ⟨[first, second], _, calls, moved, ?_, archived, cycles, failures, idle⟩
  rw [moved] at departed
  exact departed

end Archiver

end Archivist
