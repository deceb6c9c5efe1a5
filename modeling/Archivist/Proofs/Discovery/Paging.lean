import Archivist.Proofs.Calendar.Bucket
import Archivist.Proofs.Cycle.Batches
import Archivist.Proofs.Cycle.Turn
import Archivist.Proofs.Store.Listing
import Archivist.Proofs.Store.Outage

set_option autoImplicit false

namespace Archivist

open Calendar (Instant)
open Json (Value)

namespace Finder

variable (finder : Finder) (partitions : List Nat) (cutoff : Instant) (held : Holdings)

def sort : List SortField :=
  [⟨finder.root.endDateField, .ascending⟩, ⟨finder.root.idField, .ascending⟩]

/-- All candidates of a store, in the order of their pages. -/
def listing : List Record :=
  (finder.pageSearch partitions cutoff 0 none).listing
    (Holdings.records finder.root.index (held.documents finder.root.index))

def unseen (cursor : Option (List Value)) : List Record :=
  match cursor with
  | some values => (finder.listing partitions cutoff held).filter fun record =>
    isAfter record.source finder.sort values
  | none => finder.listing partitions cutoff held

/-- Among the documents of some kind the order of pages is that of a key, and a cursor stands for
the key of the document it was taken from. -/
structure GoesBy {κ : Type} [LinearOrder κ] (key : Value → κ) (kind : Value → Prop) : Prop where
  ordered : ∀ left right, kind left → kind right →
    (orderBy left right finder.sort = .lt ↔ key left < key right)
  after : ∀ (source : Value) (record : Record), kind source → kind record.source →
    isAfter source finder.sort (finder.cursorOf record) = decide (key record.source < key source)

variable {finder partitions cutoff held}

theorem mem_listing (record : Record) :
    record ∈ finder.listing partitions cutoff held ↔ record.index = finder.root.index ∧
      held.document? finder.root.index record.id = some record.source ∧
      finder.finds partitions cutoff record.source = true := by
  rw [listing, Search.mem_listing, Holdings.mem_records, held.mem_documents_iff,
    accepts_pageSearch, and_assoc]

theorem mem_listing_of_mem_unseen {cursor : Option (List Value)} {record : Record}
    (member : record ∈ finder.unseen partitions cutoff held cursor) :
    record ∈ finder.listing partitions cutoff held := by
  cases cursor with
  | none => exact member
  | some values => exact (List.mem_filter.mp member).1

theorem length_listing (finder : Finder) (partitions : List Nat) (cutoff : Instant)
    (held : Holdings) : (finder.listing partitions cutoff held).length =
      ((held.documents finder.root.index).filter fun document =>
        finder.finds partitions cutoff document.2).length := by
  have alike := (Search.listing_perm (finder.pageSearch partitions cutoff 0 none)
    (Holdings.records finder.root.index (held.documents finder.root.index))).length_eq
  rw [Holdings.records, List.filter_map, List.length_map] at alike
  rw [listing, Holdings.records, alike]
  exact congrArg List.length (List.filter_congr fun document _ =>
    finder.accepts_pageSearch partitions cutoff 0 none document.2)

theorem exists_written_of_finds {source : Value}
    (found : finder.finds partitions cutoff source = true) :
    ∃ endDate written, source.member? finder.root.endDateField = some (.text written) ∧
      Instant.read written = some endDate := by
  simp only [finds, Bool.and_eq_true] at found
  obtain ⟨_, timed⟩ := found
  split at timed
  · rename_i endDate read
    obtain ⟨value, member, shown⟩ := Option.bind_eq_some_iff.mp read
    cases value with
    | text written => exact ⟨endDate, written, member, shown⟩
    | _ => cases shown
  · cases timed

theorem listing_apart :
    (finder.listing partitions cutoff held).Pairwise fun left right => left.id ≠ right.id :=
  List.pairwise_map.mp (held.nodup_ids_listing (finder.pageSearch partitions cutoff 0 none))

theorem listing_nodup : (finder.listing partitions cutoff held).Nodup :=
  listing_apart.imp fun different same => different (congrArg Record.id same)

namespace GoesBy

variable {κ : Type} [LinearOrder κ] {key : Value → κ} {kind : Value → Prop}

theorem listing_ascends (goesBy : finder.GoesBy key kind)
    (alike : ∀ record ∈ finder.listing partitions cutoff held, kind record.source) :
    (finder.listing partitions cutoff held).Pairwise fun left right =>
      key left.source ≤ key right.source := by
  apply Search.listing_ascends fun record : Record => key record.source
  intro left first right second
  rw [Search.precedes, beq_iff_eq]
  exact goesBy.ordered _ _ (alike left first) (alike right second)

theorem unseen_after (goesBy : finder.GoesBy key kind)
    (alike : ∀ record ∈ finder.listing partitions cutoff held, kind record.source)
    (last : Record) (also : kind last.source) :
    finder.unseen partitions cutoff held (some (finder.cursorOf last)) =
      (finder.listing partitions cutoff held).filter fun record =>
        decide (key last.source < key record.source) :=
  List.filter_congr fun record member => goesBy.after record.source last (alike record member) also

/-- A search stands at its beginning or after a document of the kind. -/
def Stands (finder : Finder) (kind : Value → Prop) (cursor : Option (List Value)) : Prop :=
  ∀ values, cursor = some values → ∃ record : Record, kind record.source ∧
    values = finder.cursorOf record

theorem unseen_after_page (goesBy : finder.GoesBy key kind)
    (alike : ∀ record ∈ finder.listing partitions cutoff held, kind record.source)
    {cursor : Option (List Value)} (stands : Stands finder kind cursor) (limit : Nat)
    (front : List Record) (last : Record)
    (page : (finder.unseen partitions cutoff held cursor).take limit = front ++ [last]) :
    finder.unseen partitions cutoff held (some (finder.cursorOf last)) =
      ((finder.unseen partitions cutoff held cursor).drop limit).filter fun record =>
        decide (key last.source < key record.source) := by
  have whole : finder.unseen partitions cutoff held cursor =
      front ++ last :: (finder.unseen partitions cutoff held cursor).drop limit := by
    rw [← List.singleton_append, ← List.append_assoc, ← page, List.take_append_drop]
  have lastUnseen : last ∈ finder.unseen partitions cutoff held cursor := by
    rw [whole]
    exact List.mem_append_right front List.mem_cons_self
  have lastKind := alike last (mem_listing_of_mem_unseen lastUnseen)
  have sorted := goesBy.listing_ascends alike
  -- What is greater than the last document was after the cursor before.
  have onward : (finder.listing partitions cutoff held).filter (fun record =>
      decide (key last.source < key record.source)) =
      (finder.unseen partitions cutoff held cursor).filter fun record =>
        decide (key last.source < key record.source) := by
    cases cursor with
    | none => rfl
    | some values =>
      obtain ⟨record, recordKind, rfl⟩ := stands values rfl
      rw [goesBy.unseen_after alike record recordKind] at lastUnseen ⊢
      have below := of_decide_eq_true (List.mem_filter.mp lastUnseen).2
      rw [List.filter_filter]
      refine List.filter_congr fun other _ => ?_
      rw [Bool.eq_iff_iff]
      simp only [decide_eq_true_eq, Bool.and_eq_true]
      exact ⟨fun above => ⟨above, below.trans above⟩, fun both => both.1⟩
  have ascends : (finder.unseen partitions cutoff held cursor).Pairwise fun left right =>
      key left.source ≤ key right.source := by
    cases cursor with
    | none => exact sorted
    | some values => exact sorted.filter _
  rw [goesBy.unseen_after alike last lastKind, onward]
  rw [whole] at ascends
  conv_lhs => rw [whole]
  exact filter_above_of_le (fun record : Record => key record.source) front last _ ascends

end GoesBy

end Finder

namespace Discovery

/-- The page that a search for batches fetches next. -/
def page (discovery : Discovery) (held : Holdings) : List Record :=
  (discovery.finder.unseen discovery.partitions discovery.cutoff held discovery.cursor).take
    discovery.pageSize

variable {discovery next : Discovery} {held : Holdings}

theorem mem_listing_of_mem_page {record : Record} (member : record ∈ discovery.page held) :
    record ∈ discovery.finder.listing discovery.partitions discovery.cutoff held :=
  Finder.mem_listing_of_mem_unseen (List.mem_of_mem_take member)

theorem page_search (discovery : Discovery) (held : Holdings) :
    discovery.search.page (Holdings.records discovery.finder.root.index
      (held.documents discovery.finder.root.index)) = discovery.page held := by
  obtain ⟨finder, partitions, pageSize, cutoff, cursor, pending, exhausted⟩ := discovery
  cases cursor <;> rfl

theorem exhausted_of_absorb {page : List Record} (absorbed : discovery.absorb page = some next) :
    next.pageSize = discovery.pageSize ∧
      next.exhausted = (discovery.exhausted || decide (page.length < discovery.pageSize)) := by
  rw [absorb, Option.map_eq_some_iff] at absorbed
  obtain ⟨_, _, rfl⟩ := absorbed
  exact ⟨rfl, rfl⟩

theorem length_le_flatMap_ids (batches : List Batch)
    (nonempty : ∀ batch ∈ batches, batch.ids ≠ []) :
    batches.length ≤ (batches.flatMap Batch.ids).length := by
  induction batches with
  | nil => exact Nat.le_refl _
  | cons batch rest ih =>
    have later := ih fun other member => nonempty other (List.mem_cons_of_mem batch member)
    have here := List.length_pos_of_ne_nil (nonempty batch List.mem_cons_self)
    rw [List.flatMap_cons, List.length_append, List.length_cons]
    omega

theorem length_pending_absorb (pending : discovery.pending = []) {page : List Record}
    (absorbed : discovery.absorb page = some next) : next.pending.length ≤ page.length := by
  rw [absorb, Option.map_eq_some_iff] at absorbed
  obtain ⟨batches, grouped, rfl⟩ := absorbed
  have nonempty : ∀ batch ∈ batches, batch.ids ≠ [] :=
    fun batch member => (Finder.bucket_of_group grouped batch member).1
  calc
    (discovery.pending ++ batches).length = batches.length := by rw [pending, List.nil_append]
    _ ≤ (batches.flatMap Batch.ids).length := length_le_flatMap_ids batches nonempty
    _ = (page.filterMap discovery.finder.candidate?).length := by
      rw [Finder.flatMap_ids_group grouped, List.length_map]
    _ ≤ page.length := List.length_filterMap_le _ _

theorem answer_eq (discovery : Discovery) (held : Holdings) :
    (held.perform (.search discovery.search)).1 = .ok (discovery.page held) ∨
      (∃ failure, (held.perform (.search discovery.search)).1 = .error failure ∧
        failure.isMissing = true) ∧ discovery.page held = [] := by
  have page := discovery.page_search held
  have index : discovery.search.index = discovery.finder.root.index := rfl
  simp only [Holdings.perform, index]
  cases there : held.documents? discovery.finder.root.index with
  | some documents =>
    rw [held.documents_of_documents? _ documents there] at page
    exact Or.inl (congrArg Except.ok page)
  | none =>
    refine Or.inr ⟨⟨_, rfl, rfl⟩, List.eq_nil_iff_forall_not_mem.mpr fun record member => ?_⟩
    obtain ⟨_, found, _⟩ := (Finder.mem_listing record).mp (mem_listing_of_mem_page member)
    rw [Holdings.document?_of_missing _ _ _ there] at found
    cases found

/-- Every page can be taken in: the end dates of candidates are of this calendar. -/
theorem exists_absorb (near : discovery.finder.offset.natAbs < 86400) (held : Holdings) :
    ∃ next, discovery.absorb (discovery.page held) = some next := by
  obtain ⟨batches, grouped⟩ := discovery.finder.exists_group
    ((discovery.page held).filterMap discovery.finder.candidate?) (by
      intro candidate member
      obtain ⟨record, shown, chosen⟩ := List.mem_filterMap.mp member
      obtain ⟨_, _, found⟩ := (Finder.mem_listing record).mp (mem_listing_of_mem_page shown)
      obtain ⟨endDate, written, dated, read⟩ := Finder.exists_written_of_finds found
      have timed : record.source.instantAt discovery.finder.root.endDateField = some endDate := by
        simp only [Value.instantAt, dated, Option.bind_some, instantOf?, read]
      rw [Finder.candidate?_eq, timed, Option.map_some, Option.some.injEq] at chosen
      rw [← chosen]
      exact Calendar.Rollover.isSome_bucket read _ near)
  rw [absorb, grouped]
  exact ⟨_, rfl⟩

section Fetching

variable {Store : Type} {backend : Backend Store} {rests : Store → Prop}
  {always : Site Store → Prop} {excuses : Crash → Prop} {site : Site Store}

theorem ensures_fetch_truly {done : Discovery × Except ArchiveFailure Unit → Site Store → Prop}
    (held : Holdings)
    (answered : ∀ reply after, backend (.search discovery.search) site.store reply after →
      reply = some (held.perform (.search discovery.search)).1 ∧ always ⟨after, site.recalls⟩ ∧
      TakesIn done excuses discovery (discovery.page held) ⟨after, site.recalls⟩) :
    (backend.setting rests always excuses).Ensures done discovery.fetch site := by
  refine ensures_fetch (Backend.ensures_call _ _ _ (site = ·) _ ?_ site rfl)
  intro _ reply after same served
  obtain rfl := same
  obtain ⟨rfl, kept, takesIn⟩ := answered reply after served
  refine ⟨kept, ?_, fun passing => ?_⟩
  · simp only [Option.getD_some]
    rcases discovery.answer_eq held with page | ⟨⟨failure, missing, isMissing⟩, empty⟩
    · rw [page]
      exact takesIn
    · rw [missing]
      rw [empty] at takesIn
      simp only [isMissing, ↓reduceIte]
      exact takesIn
  · rw [Holdings.not_isPassing_perform] at passing
    cases passing

theorem reaches_fetch {page : List Record} {after : Store}
    (served : backend (.search discovery.search) site.store (some (.ok page)) after)
    (absorbed : discovery.absorb page = some next) :
    discovery.fetch.Reaches backend.service site ⟨after, site.recalls⟩
      (.finish (next, .ok ())) := by
  rw [fetch]
  refine (Dialogue.Reaches.bind _ (Backend.reaches_call _ _ _ page site served)).trans ?_
  simp only [absorbed]
  exact .here _ _

/-- A turn yields a batch that waits, or says that there are no more, or fetches a page. -/
theorem ensures_turn {done : Discovery ⊕ (Discovery × Except ArchiveFailure (Option Batch)) →
      Site Store → Prop}
    (drawn : ∀ batch others, discovery.pending = batch :: others →
      done (.inr ({ discovery with pending := others }, .ok (some batch))) site)
    (finished : discovery.draw = .finished → done (.inr (discovery, .ok none)) site)
    (fetched : discovery.draw = .fetch → (backend.setting rests always excuses).Ensures
      (fun outcome after =>
        match outcome.2 with
        | .ok _ => done (.inl outcome.1) after
        | .error failure => done (.inr (outcome.1, .error failure)) after)
      discovery.fetch site) :
    (backend.setting rests always excuses).Ensures done discovery.turn site := by
  rw [turn]
  cases draws : discovery.draw with
  | batch batch rest =>
    obtain ⟨others, pending, rfl⟩ := draw_batch draws
    exact drawn batch others pending
  | finished => exact finished draws
  | fetch =>
    refine (fetched draws).bind ?_
    intro outcome after reached
    obtain ⟨next, _ | _⟩ := outcome <;> exact reached

end Fetching

end Discovery

end Archivist
