import Archivist.Proofs.Discovery.Grouping
import Archivist.Proofs.Discovery.Ranks
import Archivist.Proofs.Store.Ledger
import Mathlib.Data.List.ReduceOption

set_option autoImplicit false

namespace Archivist

open Calendar (Instant)
open Json (Value)

namespace Finder

variable {finder : Finder} {partitions : List Nat} {cutoff : Instant}

structure Fills (finder : Finder) (batch : Batch) (records : List Record) : Prop where
  nonempty : records ≠ []
  ids : batch.ids = records.map finder.idText
  dated : ∀ record ∈ records, ∃ endDate,
    record.source.instantAt finder.root.endDateField = some endDate ∧
    finder.rollover.bucket endDate finder.offset = some batch.finishDate

theorem exists_fills_of_group {page : List Record} {batches : List Batch}
    (timed : ∀ record ∈ page, ∃ endDate,
      record.source.instantAt finder.root.endDateField = some endDate)
    (grouped : finder.group (page.filterMap finder.candidate?) = some batches) :
    ∃ parts, List.Forall₂ finder.Fills batches parts ∧ parts.flatten = page := by
  induction page generalizing batches with
  | nil =>
    cases grouped
    exact ⟨[], .nil, rfl⟩
  | cons record rest ih =>
    obtain ⟨endDate, written⟩ := timed record List.mem_cons_self
    rw [List.filterMap_cons_some (candidate?_of_timed written)] at grouped
    obtain ⟨date, others, bucket, tail, rfl⟩ := group_cons grouped
    obtain ⟨parts, fills, rfl⟩ :=
      ih (fun other member => timed other (List.mem_cons_of_mem record member)) tail
    refine exists_parts_of_prepend ?alone ?joins fills
    case alone =>
      refine ⟨List.cons_ne_nil _ _, rfl, fun other member => ?_⟩
      cases List.mem_singleton.mp member
      exact ⟨endDate, written, bucket⟩
    case joins =>
      intro batch part same first
      refine ⟨List.cons_ne_nil _ _, congrArg (finder.idText record :: ·) first.ids, ?_⟩
      intro other member
      rcases List.mem_cons.mp member with rfl | before
      · exact ⟨endDate, written, bucket⟩
      · exact same ▸ first.dated other before

theorem dates_ascend {batches : List Batch} {parts : List (List Record)}
    (fills : List.Forall₂ finder.Fills batches parts)
    (sorted : parts.flatten.Pairwise fun left right =>
      finder.rank left.source < finder.rank right.source) :
    batches.Pairwise fun left right => left.finishDate.dayNumber ≤ right.finishDate.dayNumber := by
  induction fills with
  | nil => exact .nil
  | @cons batch part others rest first later ih =>
    obtain ⟨_, onward, apart⟩ := List.pairwise_append.mp sorted
    refine .cons (fun other member => ?_) (ih onward)
    obtain ⟨record, within⟩ := List.exists_mem_of_ne_nil _ first.nonempty
    obtain ⟨endDate, timed, bucket⟩ := first.dated record within
    obtain ⟨behind, listed, fills⟩ := Mover.exists_of_forall₂ later other member
    obtain ⟨following, inside⟩ := List.exists_mem_of_ne_nil _ fills.nonempty
    obtain ⟨finish, shown, falls⟩ := fills.dated following inside
    have below := apart record within following (List.mem_flatten.mpr ⟨behind, listed, inside⟩)
    rw [rank, rank, timed, shown] at below
    exact Calendar.Rollover.bucket_mono (Rank.seconds_le_of_lt below) bucket falls

/-- A search that was made showed a record, which was a candidate at that time. -/
structure Fetched (finder : Finder) (partitions : List Nat) (cutoff : Instant) (deed : Deed)
    (record : Record) : Prop where
  shown : ∃ request page, deed.call = .search request ∧
    (deed.before.perform (.search request)).1 = .ok page ∧ record ∈ page
  held : deed.before.document? finder.root.index record.id = some record.source
  found : finder.finds partitions cutoff record.source = true

end Finder

namespace Discovery

/-- Batches are pulled from a search one by one, and no call of it fails. Before each pull the store
may come to hold anything. -/
inductive Pulled (begun : Discovery) : Discovery → List Deed → List (Option Batch) → Prop where
  | untouched : Pulled begun begun [] []
  | pulled {now next : Discovery} {deeds : List Deed} {answers : List (Option Batch)}
      {answer : Option Batch} {after : Site Ledger} (before : Pulled begun now deeds answers)
      (fuel : Nat) (held : Holdings) (recalls : String → Bool)
      (reached : (now.next fuel).Reaches (Backend.booked .never).service
        ⟨⟨held, deeds⟩, recalls⟩ after (.finish (next, .ok answer))) :
    Pulled begun next after.store.deeds (answers ++ [answer])

/-- What a search has made of the candidates it was shown: some are in batches that were pulled, and
some in batches that wait. -/
structure Exact (finder : Finder) (partitions : List Nat) (cutoff : Instant)
    (discovery : Discovery) (deeds : List Deed) (answers : List (Option Batch))
    (shown waiting : List (List Record)) : Prop where
  sameFinder : discovery.finder = finder
  samePartitions : discovery.partitions = partitions
  sameCutoff : discovery.cutoff = cutoff
  sized : 1 ≤ discovery.pageSize
  pulled : List.Forall₂ finder.Fills answers.reduceOption shown
  waits : List.Forall₂ finder.Fills discovery.pending waiting
  ascends : (shown ++ waiting).flatten.Pairwise fun left right =>
    finder.rank left.source < finder.rank right.source
  fetched : ∀ record ∈ (shown ++ waiting).flatten,
    ∃ deed ∈ deeds, finder.Fetched partitions cutoff deed record
  stands : discovery.cursor = (shown ++ waiting).flatten.getLast?.map finder.cursorOf
  /-- What was there all the time was shown, or comes after all that was. -/
  complete : ∀ id source, finder.finds partitions cutoff source = true →
    (∀ deed ∈ deeds, deed.before.document? finder.root.index id = some source) →
      ⟨id, finder.root.index, source⟩ ∈ (shown ++ waiting).flatten ∨
        discovery.exhausted = false ∧ ∀ other ∈ (shown ++ waiting).flatten,
          finder.rank other.source < finder.rank source
  ended : none ∈ answers → discovery.draw = .finished

variable {finder : Finder} {partitions : List Nat} {cutoff : Instant}
  {discovery next : Discovery} {deeds : List Deed} {answers : List (Option Batch)}
  {shown waiting : List (List Record)} {held : Holdings}

theorem fetched_of_mem_page {record : Record} (member : record ∈ discovery.page held) :
    discovery.finder.Fetched discovery.partitions discovery.cutoff
      ⟨.search discovery.search, held⟩ record := by
  obtain ⟨_, there, found⟩ := (Finder.mem_listing record).mp (mem_listing_of_mem_page member)
  refine ⟨?_, there, found⟩
  rcases discovery.answer_eq held with answered | ⟨_, empty⟩
  · exact ⟨_, _, rfl, answered, member⟩
  · rw [empty] at member
    cases member

theorem on_page_or_after
    (ranks : discovery.finder.Ranks discovery.partitions discovery.cutoff held) {record : Record}
    (unseen : record ∈ discovery.finder.unseen discovery.partitions discovery.cutoff held
      discovery.cursor) :
    record ∈ discovery.page held ∨ ¬(discovery.page held).length < discovery.pageSize ∧
      ∀ other ∈ discovery.page held,
        discovery.finder.rank other.source < discovery.finder.rank record.source := by
  have inOrder := ranks.unseen_sorted discovery.cursor
  rw [← List.take_append_drop discovery.pageSize (discovery.finder.unseen
    discovery.partitions discovery.cutoff held discovery.cursor)] at unseen inOrder
  rcases List.mem_append.mp unseen with shown | left
  · exact Or.inl shown
  · refine Or.inr ⟨?_, fun other shown => (List.pairwise_append.mp inOrder).2.2 other shown _ left⟩
    have more := List.length_pos_of_mem left
    rw [List.length_drop] at more
    rw [page, List.length_take]
    omega

namespace Exact

variable (exactness : Exact finder partitions cutoff discovery deeds answers shown waiting)
include exactness

theorem draw {batch : Batch} {others : List Batch} (pending : discovery.pending = batch :: others) :
    ∃ part rest, Exact finder partitions cutoff { discovery with pending := others } deeds
      (answers ++ [some batch]) (shown ++ [part]) rest := by
  have waits := exactness.waits
  rw [pending] at waits
  cases waits with
  | @cons _ part _ rest first later =>
    have same : shown ++ [part] ++ rest = shown ++ part :: rest := by
      rw [List.append_assoc, List.singleton_append]
    refine ⟨part, rest, ?_⟩
    constructor
    case sameFinder => exact exactness.sameFinder
    case samePartitions => exact exactness.samePartitions
    case sameCutoff => exact exactness.sameCutoff
    case sized => exact exactness.sized
    case pulled =>
      rw [List.reduceOption_append]
      exact List.rel_append exactness.pulled (.cons first .nil)
    case waits => exact later
    case ascends => exact same ▸ exactness.ascends
    case fetched => exact same ▸ exactness.fetched
    case stands => exact same ▸ exactness.stands
    case complete => exact same ▸ exactness.complete
    case ended =>
      intro among
      have finished := exactness.ended (by simpa using among)
      rw [Discovery.draw, pending] at finished
      cases finished

theorem finish (finished : discovery.draw = .finished) :
    Exact finder partitions cutoff discovery deeds (answers ++ [none]) shown waiting where
  sameFinder := exactness.sameFinder
  samePartitions := exactness.samePartitions
  sameCutoff := exactness.sameCutoff
  sized := exactness.sized
  pulled := by
    rw [List.reduceOption_append, List.reduceOption_singleton, Option.toList_none, List.append_nil]
    exact exactness.pulled
  waits := exactness.waits
  ascends := exactness.ascends
  fetched := exactness.fetched
  stands := exactness.stands
  complete := exactness.complete
  ended _ := finished

theorem hasRank (ranks : ∀ deed ∈ deeds, finder.Ranks partitions cutoff deed.before) :
    ∀ record ∈ (shown ++ waiting).flatten, finder.HasRank record.source := by
  intro record member
  obtain ⟨deed, made, fetched⟩ := exactness.fetched record member
  exact (ranks deed made).isRanked fetched.held fetched.found

/-- Of what a store holds, that comes after the cursor which comes after all that was shown. -/
theorem mem_unseen_iff (ranks : ∀ deed ∈ deeds, finder.Ranks partitions cutoff deed.before)
    (ranked : finder.Ranks partitions cutoff held) (record : Record) :
    record ∈ finder.unseen partitions cutoff held discovery.cursor ↔
      record ∈ finder.listing partitions cutoff held ∧
        ∀ other ∈ (shown ++ waiting).flatten,
          finder.rank other.source < finder.rank record.source := by
  rw [exactness.stands]
  rcases List.eq_nil_or_concat (shown ++ waiting).flatten with nothing | ⟨front, last, whole⟩
  · rw [nothing]
    simp only [List.getLast?_nil, Option.map_none, Finder.unseen, List.not_mem_nil, false_implies,
      implies_true, and_true]
  · rw [List.concat_eq_append] at whole
    have ascends := exactness.ascends
    have lastRank := exactness.hasRank ranks last
      (whole ▸ List.mem_append_right front List.mem_cons_self)
    rw [whole] at ascends ⊢
    rw [List.getLast?_concat, Option.map_some,
      finder.goesBy_rank.unseen_after (fun _ member => ranked.hasRank member) last lastRank,
      List.mem_filter, decide_eq_true_eq]
    refine and_congr_right fun _ => ⟨fun above other member => ?_, fun above => ?_⟩
    · rcases List.mem_append.mp member with before | same
      · exact ((List.pairwise_append.mp ascends).2.2 other before last
          List.mem_cons_self).trans above
      · exact List.mem_singleton.mp same ▸ above
    · exact above last (List.mem_append_right front List.mem_cons_self)

theorem absorb (ranks : ∀ deed ∈ deeds, finder.Ranks partitions cutoff deed.before)
    (ranked : finder.Ranks partitions cutoff held) (drawn : discovery.draw = .fetch)
    (absorbed : discovery.absorb (discovery.page held) = some next) :
    ∃ parts, Exact finder partitions cutoff next
      (deeds ++ [⟨.search discovery.search, held⟩]) answers shown parts := by
  obtain ⟨pending, notSpent⟩ := draw_fetch drawn
  have nothingWaits : waiting = [] := by
    have waits := exactness.waits
    rw [pending] at waits
    cases waits
    rfl
  subst nothingWaits
  have after := exactness.mem_unseen_iff ranks ranked
  obtain rfl := exactness.sameFinder
  obtain rfl := exactness.samePartitions
  obtain rfl := exactness.sameCutoff
  rw [Discovery.absorb, Option.map_eq_some_iff] at absorbed
  obtain ⟨batches, grouped, rfl⟩ := absorbed
  obtain ⟨parts, fills, whole⟩ := Finder.exists_fills_of_group (fun record member => by
    obtain ⟨endDate, _, rank⟩ := ranked.hasRank (mem_listing_of_mem_page member)
    exact ⟨endDate, rank.instantAt_eq⟩) grouped
  have before : (shown ++ []).flatten = shown.flatten := by rw [List.append_nil]
  have joined : (shown ++ parts).flatten = shown.flatten ++ discovery.page held := by
    rw [List.flatten_append, whole]
  rw [before] at after
  refine ⟨parts, ?_⟩
  constructor
  case sameFinder => rfl
  case samePartitions => rfl
  case sameCutoff => rfl
  case sized => exact exactness.sized
  case pulled => exact exactness.pulled
  case waits =>
    rw [pending, List.nil_append]
    exact fills
  case ascends =>
    rw [joined]
    refine List.pairwise_append.mpr ⟨before ▸ exactness.ascends,
      (ranked.unseen_sorted discovery.cursor).take, ?_⟩
    intro record member following shown
    exact ((after following).mp (List.mem_of_mem_take shown)).2 record member
  case fetched =>
    rw [joined]
    intro record member
    rcases List.mem_append.mp member with earlier | new
    · obtain ⟨deed, made, fetched⟩ := exactness.fetched record (before ▸ earlier)
      exact ⟨deed, List.mem_append_left _ made, fetched⟩
    · exact ⟨_, List.mem_append_right deeds List.mem_cons_self, fetched_of_mem_page new⟩
  case stands =>
    rw [joined]
    rcases List.eq_nil_or_concat (discovery.page held) with nothing | ⟨front, last, page⟩
    · simp only [nothing, List.getLast?_nil, List.append_nil]
      exact before ▸ exactness.stands
    · rw [List.concat_eq_append] at page
      simp only [page, List.getLast?_concat, ← List.append_assoc, Option.map_some]
  case complete =>
    rw [joined]
    intro id source found unchanged
    have here := unchanged _ (List.mem_append_right deeds List.mem_cons_self)
    have earlier := exactness.complete id source found fun deed made =>
      unchanged deed (List.mem_append_left _ made)
    rw [before] at earlier
    rcases earlier with was | ⟨_, above⟩
    · exact Or.inl (List.mem_append_left _ was)
    · have unseen := (after ⟨id, discovery.finder.root.index, source⟩).mpr
        ⟨(Finder.mem_listing _).mpr ⟨rfl, here, found⟩, above⟩
      rcases on_page_or_after ranked unseen with shownNow | ⟨full, later⟩
      · exact Or.inl (List.mem_append_right _ shownNow)
      · refine Or.inr ⟨?_, fun other member => ?_⟩
        · simp only [notSpent, full, decide_false, Bool.or_self]
        · exact (List.mem_append.mp member).elim (above other) (later other)
  case ended =>
    intro among
    have finished := exactness.ended among
    rw [drawn] at finished
    cases finished

end Exact

/-- As long as the stores that were searched had ranks for their candidates, a search is exact. -/
def Follows (finder : Finder) (partitions : List Nat) (cutoff : Instant) (discovery : Discovery)
    (deeds : List Deed) (answers : List (Option Batch)) : Prop :=
  (∀ deed ∈ deeds, finder.Ranks partitions cutoff deed.before) →
    ∃ shown waiting, Exact finder partitions cutoff discovery deeds answers shown waiting

/-- One pull keeps a search exact, whatever the store has come to hold before it. -/
theorem Follows.ensures_next
    (follows : Follows finder partitions cutoff discovery deeds answers) (fuel : Nat)
    (held : Holdings) (recalls : String → Bool) :
    ((Backend.booked .never).setting (fun _ => True) (fun _ => True) fun _ => True).Ensures
      (fun outcome after => ∀ answer, outcome.2 = .ok answer →
        Follows finder partitions cutoff outcome.1 after.store.deeds (answers ++ [answer]))
      (discovery.next fuel) ⟨⟨held, deeds⟩, recalls⟩ := by
  refine Setting.Ensures.unfold (fun _ now site =>
    Follows finder partitions cutoff now site.store.deeds answers) (fun _ _ _ => trivial)
    (fun left now site follows => ?_) fuel discovery _ follows
  refine ensures_turn ?drawn ?finished ?fetched
  case drawn =>
    intro batch others pending answer same ranks
    obtain ⟨shown, waiting, exactness⟩ := follows ranks
    obtain ⟨part, rest, further⟩ := exactness.draw pending
    cases same
    exact ⟨_, rest, further⟩
  case finished =>
    intro finished answer same ranks
    obtain ⟨shown, waiting, exactness⟩ := follows ranks
    cases same
    exact ⟨shown, waiting, exactness.finish finished⟩
  case fetched =>
    intro drawn
    refine ensures_fetch_truly site.store.held fun reply after served => ?_
    obtain ⟨rfl, rfl⟩ := Backend.booked_never served
    refine ⟨rfl, trivial, ?_⟩
    rw [TakesIn]
    split
    · rename_i next absorbed
      intro ranks
      have earlier := fun deed made => ranks deed (List.mem_append_left _ made)
      obtain ⟨shown, waiting, exactness⟩ := follows earlier
      obtain ⟨parts, further⟩ := exactness.absorb earlier
        (ranks _ (List.mem_append_right _ List.mem_cons_self)) drawn absorbed
      exact ⟨shown, parts, further⟩
    · trivial

theorem Pulled.follows {begun : Discovery} (pulled : begun.Pulled discovery deeds answers)
    (start : Follows finder partitions cutoff begun [] []) :
    Follows finder partitions cutoff discovery deeds answers := by
  induction pulled with
  | untouched => exact start
  | pulled before fuel held recalls reached ih =>
    exact ((ih.ensures_next fuel held recalls).holds trivial reached).2 _ rfl

/-- When batches are pulled from a search while the store changes in whatever way between the pulls,
and candidates have ranks whenever a page is fetched, then the batches are made of candidates in the
strict order of their ranks. Each was one when its page was fetched, by the cutoff of the beginning;
the dates of the batches do not go back; and at the end a candidate that was there all the time has
been shown once. -/
theorem pulls_are_exact (finder : Finder) (partitions : List Nat) (pageSize : Nat)
    (now cutoff : Instant) (begins : finder.cutoff now = some cutoff) (begun : Discovery)
    (started : finder.begin partitions pageSize now = some begun)
    (pulled : begun.Pulled discovery deeds answers)
    (ranks : ∀ deed ∈ deeds, finder.Ranks partitions cutoff deed.before) :
    ∃ shown : List (List Record),
      List.Forall₂ finder.Fills answers.reduceOption shown ∧
      (shown.flatten.Pairwise fun left right =>
        finder.rank left.source < finder.rank right.source) ∧
      (∀ record ∈ shown.flatten, ∃ deed ∈ deeds,
        finder.Fetched partitions cutoff deed record) ∧
      (answers.reduceOption.Pairwise fun left right =>
        left.finishDate.dayNumber ≤ right.finishDate.dayNumber) ∧
      (none ∈ answers → ∀ id source, finder.finds partitions cutoff source = true →
        (∀ deed ∈ deeds, deed.before.document? finder.root.index id = some source) →
          ∃! position : Nat,
            shown.flatten[position]? = some (Record.mk id finder.root.index source)) := by
  rw [Finder.begin_of_cutoff partitions pageSize begins, Option.some.injEq] at started
  subst started
  have unowned : ∀ source, finder.finds [] cutoff source = false := by
    intro source
    simp only [Finder.finds, List.map_nil]
    cases source.textAt finder.root.partitionField <;>
      simp only [List.contains_nil, Bool.and_false, Bool.false_and]
  have start : Follows finder partitions cutoff
      ⟨finder, partitions, max pageSize 1, cutoff, none, [], partitions.isEmpty⟩ [] [] := by
    refine fun _ => ⟨[], [], rfl, rfl, rfl, Nat.le_max_right _ _, .nil, .nil, .nil, ?_, rfl, ?_, ?_⟩
    case refine_1 => exact fun _ member => absurd member List.not_mem_nil
    case refine_2 =>
      intro id source found _
      refine Or.inr ⟨?_, fun _ member => absurd member List.not_mem_nil⟩
      cases partitions with
      | nil => exact absurd found (by rw [unowned source]; exact Bool.false_ne_true)
      | cons _ _ => rfl
    case refine_3 => exact fun among => absurd among List.not_mem_nil
  obtain ⟨shown, waiting, exactness⟩ := pulled.follows start ranks
  have ascends := exactness.ascends
  rw [List.flatten_append] at ascends
  have sorted := (List.pairwise_append.mp ascends).1
  refine ⟨shown, exactness.pulled, sorted, fun record member => ?_,
    Finder.dates_ascend exactness.pulled sorted, ?_⟩
  · exact exactness.fetched record
      (List.flatten_append ▸ List.mem_append_left waiting.flatten member)
  · intro ended id source found unchanged
    obtain ⟨pending, exhausted⟩ := draw_finished (exactness.ended ended)
    have waits := exactness.waits
    rw [pending] at waits
    cases waits
    have was := (exactness.complete id source found unchanged).resolve_right fun left => by
      rw [exhausted] at left
      cases left.1
    rw [List.append_nil] at was
    obtain ⟨position, there⟩ := List.mem_iff_getElem?.mp was
    refine ⟨position, there, fun other also => ?_⟩
    have once : shown.flatten.Nodup := by
      refine List.Pairwise.imp ?_ sorted
      intro left right below same
      exact lt_irrefl _ (same ▸ below)
    obtain ⟨bounded, _⟩ := List.getElem?_eq_some_iff.mp also
    exact (List.getElem?_inj bounded once).mp (also.trans there.symm)

theorem ensures_befores (discovery : Discovery) (fuel : Nat) (held : Holdings) (deeds : List Deed)
    (recalls : String → Bool) :
    ((Backend.booked .never).setting (fun _ => True) (fun _ => True) fun _ => True).Ensures
      (fun _ after => ∀ deed ∈ after.store.deeds, deed ∈ deeds ∨ deed.before = held)
      (discovery.next fuel) ⟨⟨held, deeds⟩, recalls⟩ := by
  refine Setting.Ensures.unfold (fun _ _ site => site.store.held = held ∧
    ∀ deed ∈ site.store.deeds, deed ∈ deeds ∨ deed.before = held) (fun _ _ _ => trivial)
    (fun left now site ready => ?_) fuel discovery _ ⟨rfl, fun _ => Or.inl⟩
  obtain ⟨rfl, befores⟩ := ready
  refine ensures_turn (fun _ _ _ => befores) (fun _ => befores) fun _ => ?_
  refine ensures_fetch_truly site.store.held fun reply after served => ?_
  obtain ⟨rfl, rfl⟩ := Backend.booked_never served
  refine ⟨rfl, trivial, ?_⟩
  rw [TakesIn]
  split
  · refine ⟨Holdings.after_search _ _, fun deed made => ?_⟩
    rcases List.mem_append.mp made with earlier | new
    · exact befores deed earlier
    · exact Or.inr (congrArg Deed.before (List.mem_singleton.mp new))
  · trivial

/-- A search pulled once more, in front of a store that has come to hold something. -/
def pullFrom (held : Holdings) (state : Discovery × List Deed × List (Option Batch)) :
    Discovery × List Deed × List (Option Batch) :=
  let run := (state.1.next 3).follow (Backend.serve Backend.book) 40
    ⟨⟨held, state.2.1⟩, fun _ => false⟩
  match run.2 with
  | .finish (next, .ok answer) => (next, run.1.store.deeds, state.2.2 ++ [answer])
  | _ => state

theorem pulled_pullFrom {begun : Discovery} (held : Holdings)
    (state : Discovery × List Deed × List (Option Batch))
    (before : begun.Pulled state.1 state.2.1 state.2.2) :
    begun.Pulled (pullFrom held state).1 (pullFrom held state).2.1 (pullFrom held state).2.2 ∧
      ∀ deed ∈ (pullFrom held state).2.1, deed ∈ state.2.1 ∨ deed.before = held := by
  have reached := Dialogue.reaches_follow (Backend.serve Backend.book)
    (Backend.service_serve (Backend.booked .never) _ (Backend.booked_book .never)) 40
    ⟨⟨held, state.2.1⟩, fun _ => false⟩ (state.1.next 3)
  simp only [pullFrom]
  split
  · rename_i next answer came
    rw [came] at reached
    exact ⟨.pulled before 3 held _ reached,
      ((state.1.ensures_befores 3 held state.2.1 fun _ => false).holds trivial reached).2⟩
  · exact ⟨before, fun _ => Or.inl⟩

def finishedRoot (key : Nat) (endDate : String) : Value := .ofMembers [
  ("joinRelation", .text "workflowInstance"), ("key", .nat key), ("workflowInstanceKey", .nat key),
  ("partitionId", .nat 1), ("endDate", .text endDate)]

def firstStore : Holdings :=
  Holdings.empty.write "operate-list-view_"
    [("a", finishedRoot 5 "2024-01-01T11:00:00Z"), ("r", finishedRoot 7 "2024-01-01T12:00:00Z")]

/-- The store when one root has gone and another one has come, which finished at the same instant as
the one that stayed. -/
def secondStore : Holdings :=
  Holdings.empty.write "operate-list-view_"
    [("b", finishedRoot 3 "2024-01-01T14:00:00+02:00"), ("r", finishedRoot 7 "2024-01-01T12:00:00Z")]

def specimen : Discovery :=
  ⟨⟨.standard, 3600, 0, .day, ⟨1, 5, 5, 5⟩⟩, [1], 1, ⟨1704196400, 0⟩, none, [], false⟩

def specimenPulls : Discovery × List Deed × List (Option Batch) :=
  [firstStore, secondStore, secondStore, secondStore].foldl (fun state held => pullFrom held state)
    (specimen, [], [])

theorem pulled_specimenPulls :
    specimen.Pulled specimenPulls.1 specimenPulls.2.1 specimenPulls.2.2 ∧
      ∀ deed ∈ specimenPulls.2.1, deed.before = firstStore ∨ deed.before = secondStore := by
  obtain ⟨first, stores⟩ := pulled_pullFrom firstStore (specimen, [], []) .untouched
  obtain ⟨second, others⟩ := pulled_pullFrom secondStore _ first
  obtain ⟨third, more⟩ := pulled_pullFrom secondStore _ second
  obtain ⟨fourth, last⟩ := pulled_pullFrom secondStore _ third
  refine ⟨fourth, fun deed made => ?_⟩
  rcases last deed made with made | same
  · rcases more deed made with made | same
    · rcases others deed made with made | same
      · exact Or.inl ((stores deed made).resolve_left List.not_mem_nil)
      · exact Or.inr same
    · exact Or.inr same
  · exact Or.inr same

/-- The root that stayed is shown once, after the one that came. -/
theorem root_that_stayed_is_shown_once :
    specimenPulls.2.2.map (Option.map Batch.ids) = [some ["5"], some ["3"], some ["7"], none] ∧
      ∃ shown : List (List Record),
        List.Forall₂ specimen.finder.Fills specimenPulls.2.2.reduceOption shown ∧
        ∃! position : Nat, shown.flatten[position]? =
          some ⟨"r", "operate-list-view_", finishedRoot 7 "2024-01-01T12:00:00Z"⟩ := by
  obtain ⟨pulled, stores⟩ := pulled_specimenPulls
  obtain ⟨shown, fills, _, _, _, complete⟩ := pulls_are_exact specimen.finder [1] 1 ⟨1704200000, 0⟩
    ⟨1704196400, 0⟩ (by decide +kernel) specimen (by rfl) pulled (by decide +kernel)
  refine ⟨by decide +kernel, shown, fills, complete (by decide +kernel) "r" _ (by decide +kernel) ?_⟩
  intro deed made
  rcases stores deed made with same | same <;> rw [same] <;> rfl

end Discovery

end Archivist
