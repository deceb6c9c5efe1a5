import Archivist.Proofs.Dialogue.Rehearsal
import Archivist.Proofs.Discovery.Kinds
import Archivist.Proofs.Discovery.Pulls

set_option autoImplicit false

/-!
Searches for batches that come to an end. Every page that is full takes its roots off what is left,
so that a search pays for its pages with what it finds; `Discovery.collect_ends` counts them. That a
cursor is behind the root it was taken from cannot be done without: `Discovery.collect_never_ends`
shows a root that stays ahead of its own cursor.
-/

namespace Archivist

open Calendar (Instant)
open Json (Value)

def Backend.memory : Backend MemoryStore := fun call store reply after =>
  reply = some (store.handle call).1 ∧ after = (store.handle call).2

/-- How many documents of a store pass the filters of the pages. -/
def Finder.foundCount (finder : Finder) (partitions : List Nat) (cutoff : Instant)
    (held : Holdings) : Nat :=
  ((held.documents finder.root.index).filter fun document =>
    finder.finds partitions cutoff document.2).length

namespace Discovery

def OneKind (finder : Finder) (partitions : List Nat) (cutoff : Instant) (held : Holdings)
    (kind : Kind) : Prop :=
  ∀ id source, held.document? finder.root.index id = some source →
    finder.finds partitions cutoff source = true →
      ∃ value, source.member? finder.root.idField = some value ∧ value.kind = kind

/-- The roots that a search has not seen yet. -/
def left (discovery : Discovery) (held : Holdings) : List Record :=
  discovery.finder.unseen discovery.partitions discovery.cutoff held discovery.cursor

/-- A bound on the turns before a search is finished. -/
def turnsLeft (discovery : Discovery) (held : Holdings) : Nat :=
  discovery.pending.length + if discovery.exhausted then 0 else 2 * (discovery.left held).length + 1

/-- A search has paid for the pages it has fetched with the roots it has seen. -/
structure Pays (finder : Finder) (partitions : List Nat) (cutoff : Instant) (size : Nat)
    (held : Holdings) (kind : Kind) (searches : Nat) (discovery : Discovery) : Prop where
  sameFinder : discovery.finder = finder
  samePartitions : discovery.partitions = partitions
  sameCutoff : discovery.cutoff = cutoff
  sameSize : discovery.pageSize = size
  stands : Finder.GoesBy.Stands finder (finder.HasKind kind) discovery.cursor
  paid : discovery.exhausted = false → searches * size + (discovery.left held).length ≤
    finder.foundCount partitions cutoff held
  spent : discovery.exhausted = true →
    searches ≤ finder.foundCount partitions cutoff held / size + 1

variable {finder : Finder} {partitions : List Nat} {cutoff : Instant} {size searches : Nat}
  {held : Holdings} {kind : Kind} {discovery next : Discovery}

theorem OneKind.hasKind (oneKind : OneKind finder partitions cutoff held kind) {record : Record}
    (member : record ∈ finder.listing partitions cutoff held) :
    finder.HasKind kind record.source := by
  obtain ⟨_, there, found⟩ := (Finder.mem_listing record).mp member
  exact ⟨Finder.exists_written_of_finds found, oneKind _ _ there found⟩

namespace Pays

variable (pays : Pays finder partitions cutoff size held kind searches discovery)
include pays

theorem length_left_absorb (oneKind : OneKind finder partitions cutoff held kind)
    (absorbed : discovery.absorb (discovery.page held) = some next) :
    (next.left held).length ≤ (discovery.left held).length - (discovery.page held).length ∧
      Finder.GoesBy.Stands finder (finder.HasKind kind) next.cursor := by
  rw [Discovery.absorb, Option.map_eq_some_iff] at absorbed
  obtain ⟨batches, _, rfl⟩ := absorbed
  have stands := pays.stands
  obtain rfl := pays.sameFinder
  obtain rfl := pays.samePartitions
  obtain rfl := pays.sameCutoff
  rcases List.eq_nil_or_concat (discovery.page held) with nothing | ⟨front, last, whole⟩
  · simp only [nothing, List.getLast?_nil, List.length_nil, Nat.sub_zero]
    exact ⟨Nat.le_refl _, stands⟩
  · rw [List.concat_eq_append] at whole
    have lastKind := oneKind.hasKind (mem_listing_of_mem_page
      (whole ▸ List.mem_append_right front List.mem_cons_self))
    have rest := (discovery.finder.goesBy_size kind).unseen_after_page
      (fun _ member => oneKind.hasKind member) stands discovery.pageSize front last whole
    simp only [whole, List.getLast?_concat, left]
    refine ⟨?_, fun values same => ⟨last, lastKind, (Option.some.inj same).symm⟩⟩
    rw [rest, ← whole, page, List.length_take]
    refine (List.length_filter_le _ _).trans ?_
    rw [List.length_drop]
    omega

theorem absorb (sized : 1 ≤ size) (oneKind : OneKind finder partitions cutoff held kind)
    (drawn : discovery.draw = .fetch)
    (absorbed : discovery.absorb (discovery.page held) = some next) :
    Pays finder partitions cutoff size held kind (searches + 1) next := by
  obtain ⟨_, notSpent⟩ := draw_fetch drawn
  obtain ⟨fewer, stands⟩ := pays.length_left_absorb oneKind absorbed
  have paid := pays.paid notSpent
  obtain ⟨sameSize, exhausted⟩ := exhausted_of_absorb absorbed
  rw [notSpent, Bool.false_or, pays.sameSize] at exhausted
  have page : (discovery.page held).length ≤ (discovery.left held).length := by
    rw [Discovery.page, List.length_take]
    exact Nat.min_le_right _ _
  have same : next.finder = discovery.finder ∧ next.partitions = discovery.partitions ∧
      next.cutoff = discovery.cutoff := by
    rw [Discovery.absorb, Option.map_eq_some_iff] at absorbed
    obtain ⟨_, _, rfl⟩ := absorbed
    exact ⟨rfl, rfl, rfl⟩
  constructor
  case sameFinder => exact same.1.trans pays.sameFinder
  case samePartitions => exact same.2.1.trans pays.samePartitions
  case sameCutoff => exact same.2.2.trans pays.sameCutoff
  case sameSize => exact sameSize.trans pays.sameSize
  case stands => exact stands
  case paid =>
    intro more
    rw [more] at exhausted
    have full := of_decide_eq_false exhausted.symm
    rw [Nat.add_mul, Nat.one_mul]
    omega
  case spent =>
    intro _
    have earlier : searches ≤ finder.foundCount partitions cutoff held / size :=
      (Nat.le_div_iff_mul_le sized).mpr (by omega)
    omega

/-- Each batch takes a root of the page at least, so a page costs fewer turns than it saves. -/
theorem turns_absorb (sized : 1 ≤ size) (oneKind : OneKind finder partitions cutoff held kind)
    (drawn : discovery.draw = .fetch)
    (absorbed : discovery.absorb (discovery.page held) = some next) :
    next.turnsLeft held < discovery.turnsLeft held := by
  obtain ⟨pending, notSpent⟩ := draw_fetch drawn
  have batches := length_pending_absorb pending absorbed
  obtain ⟨fewer, _⟩ := pays.length_left_absorb oneKind absorbed
  obtain ⟨_, exhausted⟩ := exhausted_of_absorb absorbed
  rw [notSpent, Bool.false_or, pays.sameSize] at exhausted
  have page : (discovery.page held).length ≤ (discovery.left held).length := by
    rw [Discovery.page, List.length_take]
    exact Nat.min_le_right _ _
  simp only [turnsLeft, pending, notSpent, exhausted, List.length_nil, Bool.false_eq_true,
    ↓reduceIte, decide_eq_true_eq]
  split <;> omega

end Pays

def searched (store : MemoryStore) (index : String) (searches : Nat) : MemoryStore :=
  { store with history := List.replicate searches (.search, index) ++ store.history }

theorem handle_searched (store : MemoryStore) (spent : ∀ fault ∈ store.faults, fault.remaining = 0)
    (request : Search) (searches : Nat) :
    (searched store request.index searches).handle (.search request) =
      ((store.holdings.perform (.search request)).1,
        searched store request.index (searches + 1)) := by
  rw [(searched store request.index searches).handle_spent spent]
  simp only [searched, Holdings.after_search]
  rfl

/-- A turn of collecting batches in front of a store without faults leads on with a page less to pay
for, or ends with all batches. -/
theorem Pays.ensures_collectTurn {store : MemoryStore}
    (pays : Pays finder partitions cutoff size store.holdings kind searches discovery)
    (sized : 1 ≤ size) (near : finder.offset.natAbs < 86400)
    (oneKind : OneKind finder partitions cutoff store.holdings kind)
    (spent : ∀ fault ∈ store.faults, fault.remaining = 0) (batches : List Batch)
    (recalls : String → Bool) :
    (Backend.memory.setting (fun _ => False) (fun _ => True) fun _ => False).Ensures
      (fun outcome after =>
        match outcome with
        | .inl state => ∃ more, Pays finder partitions cutoff size store.holdings kind more state.1 ∧
            state.1.turnsLeft store.holdings < discovery.turnsLeft store.holdings ∧
            after = ⟨searched store finder.root.index more, recalls⟩
        | .inr result => (∃ all, result = .ok all) ∧
            ∃ more ≤ finder.foundCount partitions cutoff store.holdings / size + 1,
              after = ⟨searched store finder.root.index more, recalls⟩)
      (collect.collectTurn (discovery, batches))
      ⟨searched store finder.root.index searches, recalls⟩ := by
  rw [collect.collectTurn, Setting.ensures_bind]
  refine ensures_turn ?drawn ?finished ?fetched
  case drawn =>
    intro batch others pending
    refine ⟨searches, ⟨pays.sameFinder, pays.samePartitions, pays.sameCutoff, pays.sameSize,
      pays.stands, pays.paid, pays.spent⟩, ?_, rfl⟩
    have length : discovery.pending.length = others.length + 1 := congrArg List.length pending
    simp only [turnsLeft, left]
    omega
  case finished =>
    intro drawn
    obtain ⟨_, exhausted⟩ := draw_finished drawn
    exact ⟨⟨batches, rfl⟩, searches, pays.spent exhausted, rfl⟩
  case fetched =>
    intro drawn
    have index : discovery.search.index = finder.root.index :=
      congrArg (fun finder : Finder => finder.root.index) pays.sameFinder
    refine ensures_fetch_truly store.holdings fun reply after served => ?_
    obtain ⟨rfl, rfl⟩ := served
    simp only
    rw [← index, handle_searched store spent]
    refine ⟨rfl, trivial, ?_⟩
    obtain ⟨next, absorbed⟩ := discovery.exists_absorb (pays.sameFinder ▸ near) store.holdings
    rw [TakesIn, absorbed]
    exact ⟨searches + 1, pays.absorb sized oneKind drawn absorbed,
      pays.turns_absorb sized oneKind drawn absorbed, by rw [index]⟩

/-- In front of a store that nobody changes and that has no faults left, a search for batches ends,
whatever the size of its pages, when the roots it finds all have ids of one kind. It makes no more
searches than there are full pages among the documents that pass its filters, and one. -/
theorem collect_ends (finder : Finder) (partitions : List Nat) (pageSize : Nat)
    (now cutoff : Instant) (begins : finder.cutoff now = some cutoff) (begun : Discovery)
    (started : finder.begin partitions pageSize now = some begun)
    (near : finder.offset.natAbs < 86400) (store : MemoryStore)
    (spent : ∀ fault ∈ store.faults, fault.remaining = 0) (kind : Kind)
    (oneKind : OneKind finder partitions cutoff store.holdings kind) (fuel : Nat)
    (enough : 2 * finder.foundCount partitions cutoff store.holdings + 2 ≤ fuel)
    (recalls : String → Bool) :
    (Backend.memory.setting (fun _ => False) (fun _ => True) fun _ => False).Ensures
      (fun outcome after => (∃ batches, outcome = .ok batches) ∧
        ∃ searches ≤ finder.foundCount partitions cutoff store.holdings / max pageSize 1 + 1,
          after = ⟨searched store finder.root.index searches, recalls⟩)
      (begun.collect fuel) ⟨store, recalls⟩ := by
  rw [Finder.begin_of_cutoff partitions pageSize begins, Option.some.injEq] at started
  subst started
  refine Setting.Ensures.unfold (fun left state site => ∃ searches,
    Pays finder partitions cutoff (max pageSize 1) store.holdings kind searches state.1 ∧
    state.1.turnsLeft store.holdings < left ∧
    site = ⟨searched store finder.root.index searches, recalls⟩) ?spent ?turned fuel _ _ ?begun
  case spent =>
    intro state site ready
    obtain ⟨_, _, below, _⟩ := ready
    exact absurd below (Nat.not_lt_zero _)
  case turned =>
    intro left state site ready
    obtain ⟨searches, pays, below, rfl⟩ := ready
    have sized : 1 ≤ max pageSize 1 := Nat.le_max_right _ _
    refine (pays.ensures_collectTurn sized near oneKind spent state.2 recalls).mono ?_
    intro outcome after reached
    rcases outcome with next | result
    · obtain ⟨more, further, fewer, same⟩ := reached
      exact ⟨more, further, by omega, same⟩
    · exact reached
  case begun =>
    have all : (finder.listing partitions cutoff store.holdings).length =
        finder.foundCount partitions cutoff store.holdings := finder.length_listing _ _ _
    refine ⟨0, ⟨rfl, rfl, rfl, rfl, nofun, fun _ => ?_, fun _ => Nat.zero_le _⟩, ?_, rfl⟩
    · simp only [left, Finder.unseen, all]
      omega
    · simp only [turnsLeft, left, Finder.unseen, all, List.length_nil]
      split <;> omega

/-- Two roots with numbers for ids, on pages of one root. -/
theorem search_of_numbered_roots_ends :
    specimen.finder.foundCount [1] ⟨1704196400, 0⟩ firstStore = 2 ∧
      (Backend.memory.setting (fun _ => False) (fun _ => True) fun _ => False).Ensures
        (fun outcome after => (∃ batches, outcome = .ok batches) ∧
          ∃ searches ≤ specimen.finder.foundCount [1] ⟨1704196400, 0⟩ firstStore / max 1 1 + 1,
            after = ⟨searched ⟨firstStore, [], []⟩ "operate-list-view_" searches, fun _ => false⟩)
        (specimen.collect 6) ⟨⟨firstStore, [], []⟩, fun _ => false⟩ := by
  refine ⟨by decide +kernel, collect_ends specimen.finder [1] 1 ⟨1704200000, 0⟩ ⟨1704196400, 0⟩
    (by decide +kernel) specimen (by rfl) (by decide) ⟨firstStore, [], []⟩ nofun .number ?_ 6
    (by decide +kernel) fun _ => false⟩
  intro id source held _
  have only : firstStore.documents "operate-list-view_" =
      [("a", finishedRoot 5 "2024-01-01T11:00:00Z"), ("r", finishedRoot 7 "2024-01-01T12:00:00Z")] :=
    rfl
  rw [← Holdings.mem_documents_iff] at held
  change (id, source) ∈ firstStore.documents "operate-list-view_" at held
  rw [only, List.mem_cons, List.mem_singleton, Prod.mk.injEq, Prod.mk.injEq] at held
  rcases held with ⟨_, rfl⟩ | ⟨_, rfl⟩
  · exact ⟨.nat 5, rfl, rfl⟩
  · exact ⟨.nat 7, rfl, rfl⟩

/-- A root without an id of its own, which goes by that of its document. -/
def namelessRoot : Value := .ofMembers [
  ("joinRelation", .text "workflowInstance"), ("workflowInstanceKey", .nat 7),
  ("partitionId", .nat 1), ("endDate", .text "2024-01-01T12:00:00Z")]

def namelessRecord : Record := ⟨"r", "operate-list-view_", namelessRoot⟩

def namelessStore : MemoryStore :=
  ⟨Holdings.empty.write "operate-list-view_" [("r", namelessRoot)], [], []⟩

/-- A cursor that no root without an id is behind. -/
def IsFutile (cursor : Option (List Value)) : Prop :=
  cursor = none ∨ cursor = some (specimen.finder.cursorOf namelessRecord)

theorem page_nameless {cursor : Option (List Value)} (futile : IsFutile cursor) :
    page { specimen with cursor := cursor } namelessStore.holdings = [namelessRecord] := by
  have listed : specimen.finder.listing [1] ⟨1704196400, 0⟩ namelessStore.holdings =
      [namelessRecord] := rfl
  rcases futile with rfl | rfl
  · change List.take 1 (specimen.finder.listing [1] ⟨1704196400, 0⟩ namelessStore.holdings) = _
    rw [listed]
    rfl
  · change List.take 1 ((specimen.finder.listing [1] ⟨1704196400, 0⟩ namelessStore.holdings).filter
      fun record => isAfter record.source specimen.finder.sort
        (specimen.finder.cursorOf namelessRecord)) = _
    rw [listed]
    rfl

/-- A page is fetched, its only batch is taken, and the search is where it was. -/
theorem reaches_nameless {cursor : Option (List Value)} (futile : IsFutile cursor)
    (batches : List Batch) (fuel searches : Nat) (recalls : String → Bool) :
    ∃ more, (Dialogue.unfold collect.collectTurn (fuel + 2)
      ({ specimen with cursor := cursor }, batches)).Reaches Backend.memory.service
        ⟨searched namelessStore "operate-list-view_" searches, recalls⟩
        ⟨searched namelessStore "operate-list-view_" (searches + 1), recalls⟩
        (Dialogue.unfold collect.collectTurn fuel
          ({ specimen with cursor := some (specimen.finder.cursorOf namelessRecord) }, more)) := by
  let discovery : Discovery := { specimen with cursor := cursor }
  let next : Discovery :=
    { specimen with cursor := some (specimen.finder.cursorOf namelessRecord) }
  let batch : Batch := ⟨⟨2024, 1, 1⟩, ["r"]⟩
  have absorbed : discovery.absorb [namelessRecord] = some { next with pending := [batch] } := by
    have grouped : specimen.finder.group ([namelessRecord].filterMap specimen.finder.candidate?) =
        some [batch] := by decide +kernel
    simp only [absorb, discovery, grouped]
    rfl
  have page := page_nameless futile
  have answered : (namelessStore.holdings.perform (.search discovery.search)).1 =
      .ok [namelessRecord] := by
    rcases discovery.answer_eq namelessStore.holdings with answer | ⟨_, empty⟩
    · rw [answer]
      exact congrArg Except.ok page
    · rw [show discovery.page namelessStore.holdings = [namelessRecord] from page] at empty
      cases empty
  have served : Backend.memory (.search discovery.search)
      (searched namelessStore "operate-list-view_" searches) (some (.ok [namelessRecord]))
      (searched namelessStore "operate-list-view_" (searches + 1)) := by
    have unarmed : ∀ fault ∈ namelessStore.faults, fault.remaining = 0 := by
      intro fault member
      cases member
    have handled := handle_searched namelessStore unarmed discovery.search searches
    rw [answered] at handled
    exact ⟨congrArg (fun result => some result.1) handled.symm, (congrArg Prod.snd handled).symm⟩
  have fetched : discovery.fetch.Reaches Backend.memory.service
      ⟨searched namelessStore "operate-list-view_" searches, recalls⟩
      ⟨searched namelessStore "operate-list-view_" (searches + 1), recalls⟩
      (.finish ({ next with pending := [batch] }, .ok ())) := by
    exact reaches_fetch served absorbed
  have turned : discovery.turn.Reaches Backend.memory.service
      ⟨searched namelessStore "operate-list-view_" searches, recalls⟩
      ⟨searched namelessStore "operate-list-view_" (searches + 1), recalls⟩
      (.finish (.inl { next with pending := [batch] })) := by
    have drawn : discovery.draw = .fetch := rfl
    rw [turn, drawn]
    exact fetched.bind _
  have collected : (collect.collectTurn (discovery, batches)).Reaches Backend.memory.service
      ⟨searched namelessStore "operate-list-view_" searches, recalls⟩
      ⟨searched namelessStore "operate-list-view_" (searches + 1), recalls⟩
      (.finish (.inl ({ next with pending := [batch] }, batches))) := by
    rw [collect.collectTurn]
    exact turned.bind _
  -- The second turn takes the batch without asking anything.
  refine ⟨batches ++ [batch], ?_⟩
  rw [Dialogue.unfold]
  exact collected.bind _

/-- A root without an id is found again and again: it is ahead of the cursor that is taken from it.
In twice as many turns a search makes any number of searches, and is not finished. -/
theorem collect_never_ends :
    specimen.finder.foundCount [1] ⟨1704196400, 0⟩ namelessStore.holdings = 1 ∧
      ∀ searches, (specimen.collect (2 * searches)).Reaches Backend.memory.service
        ⟨namelessStore, fun _ => false⟩
        ⟨searched namelessStore "operate-list-view_" searches, fun _ => false⟩
        (.crash .exhausted) := by
  have onward : ∀ searches done cursor batches, IsFutile cursor →
      (Dialogue.unfold collect.collectTurn (2 * searches)
        ({ specimen with cursor := cursor }, batches)).Reaches Backend.memory.service
          ⟨searched namelessStore "operate-list-view_" done, fun _ => false⟩
          ⟨searched namelessStore "operate-list-view_" (done + searches), fun _ => false⟩
          (.crash .exhausted) := by
    intro searches
    induction searches with
    | zero => exact fun done cursor batches _ => .here _ _
    | succ searches ih =>
      intro done cursor batches futile
      obtain ⟨more, first⟩ := reaches_nameless futile batches (2 * searches) done fun _ => false
      have rest := ih (done + 1) _ more (Or.inr rfl)
      rw [show done + 1 + searches = done + (searches + 1) by omega] at rest
      exact first.trans rest
  refine ⟨by decide +kernel, fun searches => ?_⟩
  have all := onward searches 0 none [] (Or.inl rfl)
  rwa [Nat.zero_add] at all

end Discovery

end Archivist
