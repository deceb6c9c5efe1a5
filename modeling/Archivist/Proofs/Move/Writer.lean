import Archivist.Proofs.Move.Loss
import Archivist.Proofs.Move.Preservation
import Archivist.Proofs.Move.Selection
import Archivist.Proofs.Store.Writing
import Mathlib.Data.List.Nodup
import Mathlib.Logic.Relation

set_option autoImplicit false

/-!
Moves while somebody else writes to the live indices. Deletions go by filters and not by what was
copied, so a document that belongs to the batch and is written between the copying and the deletion
of its index is lost; every other one is live or in its destination.
-/

namespace Archivist

open Json (Value memberOf?)

namespace Mover

/-- What somebody does who only writes documents to live indices. -/
def Writes (mover : Mover) : Ledger → Ledger → Prop :=
  Relation.ReflTransGen fun now after =>
    ∃ index written, mover.IsLive index ∧ after = now.record (.bulkWrite index written)

/-- The last version of a document belongs to the batch and was written after what belongs to the
batch was copied and before it was deleted. -/
def WrittenBetween (mover : Mover) (suffix : String) (ids : List String) (deeds : List Deed)
    (index id : String) (source : Value) : Prop :=
  ∃ collection ∈ mover.collections, collection.index = index ∧
    (∃ text ∈ ids, source.textAt collection.field = some text) ∧
    ∃ earlier deed later, deeds = earlier ++ deed :: later ∧
      deed.writes? index id = some source ∧ (∀ other ∈ later, other.writes? index id = none) ∧
      (∃ made ∈ earlier, made.call = (collection.transfer suffix ids).copying) ∧
      ∃ made ∈ later, made.call = (collection.transfer suffix ids).deletion

/-- Where the version of a document is that was written last, as far as the deeds before and after
the writing tell. -/
structure Traced (transfer : Transfer) (id : String) (source : Value) (earlier later : List Deed)
    (now : Holdings) : Prop where
  only : ∀ other, now.document? transfer.source id = some other → other = source
  kept : now.document? transfer.source id = some source ∨
    (∃ deed ∈ later, deed.call = transfer.deletion) ∧ transfer.filter.accepts source = true ∧
      (now.document? transfer.destination id = some source ∨
        ∃ deed ∈ earlier, deed.call = transfer.copying)
  copied : (∃ deed ∈ later, deed.call = transfer.copying) →
    transfer.filter.accepts source = true →
      now.document? transfer.destination id = some source ∨
        ∃ deed ∈ earlier, deed.call = transfer.copying

namespace Traced

variable {transfer : Transfer} {id : String} {source : Value} {earlier later : List Deed}
  {now after : Holdings} {deed : Deed}

theorem exists_concat {call : Call} (made : ∃ other ∈ later, other.call = call) (deed : Deed) :
    ∃ other ∈ later ++ [deed], other.call = call := by
  obtain ⟨other, member, same⟩ := made
  exact ⟨other, List.mem_append_left _ member, same⟩

theorem exists_of_concat {call : Call} (made : ∃ other ∈ later ++ [deed], other.call = call)
    (different : deed.call ≠ call) : ∃ other ∈ later, other.call = call := by
  obtain ⟨other, member, same⟩ := made
  rcases List.mem_append.mp member with before | new
  · exact ⟨other, before, same⟩
  · cases List.mem_singleton.mp new
    exact absurd same different

theorem begun (held : now.document? transfer.source id = some source) (earlier : List Deed) :
    Traced transfer id source earlier [] now where
  only other there := Option.some.inj (there.symm.trans held)
  kept := Or.inl held
  copied given := by
    obtain ⟨_, member, _⟩ := given
    cases member

theorem unchanged (traced : Traced transfer id source earlier later now) (deed : Deed)
    (different : deed.call ≠ transfer.copying)
    (live : after.document? transfer.source id = now.document? transfer.source id)
    (archived : after.document? transfer.destination id = now.document? transfer.destination id) :
    Traced transfer id source earlier (later ++ [deed]) after := by
  constructor
  · rw [live]
    exact traced.only
  · rw [live, archived]
    exact traced.kept.imp_right fun gone => ⟨exists_concat gone.1 deed, gone.2⟩
  · rw [archived]
    exact fun made => traced.copied (exists_of_concat made different)

theorem copy (traced : Traced transfer id source earlier later now)
    (apart : transfer.destination ≠ transfer.source) :
    Traced transfer id source earlier (later ++ [⟨transfer.copying, now⟩])
      (now.after transfer.copying) := by
  have live : (now.after transfer.copying).document? transfer.source id =
      now.document? transfer.source id := by
    rw [Transfer.copying, Holdings.document?_after_reindex, if_neg apart]
  have archived : (now.after transfer.copying).document? transfer.destination id =
      ((now.document? transfer.source id).filter fun held => transfer.filter.accepts held).or
        (now.document? transfer.destination id) := by
    rw [Transfer.copying, Holdings.document?_after_reindex, if_pos rfl]
  have arrives : transfer.filter.accepts source = true →
      (now.after transfer.copying).document? transfer.destination id = some source ∨
        ∃ deed ∈ earlier, deed.call = transfer.copying := by
    intro accepted
    rw [archived]
    rcases traced.kept with held | ⟨_, _, there | made⟩
    · left
      simp only [held, Option.filter_some, accepted, ↓reduceIte, Option.some_or]
    · left
      rw [there]
      cases held : now.document? transfer.source id with
      | none => rfl
      | some other =>
        obtain rfl := traced.only other held
        simp only [Option.filter_some, accepted, ↓reduceIte, Option.some_or]
    · exact Or.inr made
  constructor
  · rw [live]
    exact traced.only
  · rw [live]
    exact traced.kept.imp_right fun gone =>
      ⟨exists_concat gone.1 _, gone.2.1, arrives gone.2.1⟩
  · exact fun _ => arrives

theorem delete (traced : Traced transfer id source earlier later now)
    (apart : transfer.destination ≠ transfer.source)
    (copied : (∃ deed ∈ earlier, deed.call = transfer.copying) ∨
      ∃ deed ∈ later, deed.call = transfer.copying) :
    Traced transfer id source earlier (later ++ [⟨transfer.deletion, now⟩])
      (now.after transfer.deletion) := by
  have live : (now.after transfer.deletion).document? transfer.source id =
      (now.document? transfer.source id).filter fun held => !transfer.filter.accepts held := by
    rw [Transfer.deletion, Holdings.document?_after_deleteByQuery, if_pos rfl]
  have archived : (now.after transfer.deletion).document? transfer.destination id =
      now.document? transfer.destination id := by
    rw [Transfer.deletion, Holdings.document?_after_deleteByQuery, if_neg apart.symm]
  constructor
  · intro other held
    rw [live] at held
    exact traced.only other (Option.filter_eq_some_iff.mp held).1
  · rw [archived, live]
    rcases traced.kept with held | ⟨gone, accepted, there⟩
    · cases accepted : transfer.filter.accepts source with
      | false =>
        left
        simp only [held, Option.filter_some, accepted, Bool.not_false, ↓reduceIte]
      | true =>
        right
        refine ⟨⟨_, List.mem_append_right later List.mem_cons_self, rfl⟩, rfl, ?_⟩
        rcases copied with before | since
        · exact Or.inr before
        · exact traced.copied since accepted
    · exact Or.inr ⟨exists_concat gone _, accepted, there⟩
  · rw [archived]
    exact fun made => traced.copied (exists_of_concat made nofun)

end Traced

variable {mover : Mover} {suffix : String} {ids : List String} {known : String → Bool}
  {ledger : Ledger} {call : Call}

/-- Every document that was written is traced from the last time it was. -/
def Traces (mover : Mover) (suffix : String) (ids : List String) (ledger : Ledger) : Prop :=
  ∀ transfer ∈ mover.transfers suffix ids, ∀ id source earlier deed later,
    ledger.deeds = earlier ++ deed :: later → deed.writes? transfer.source id = some source →
      (∀ other ∈ later, other.writes? transfer.source id = none) →
        Traced transfer id source earlier later ledger.held

theorem traces_begun (start : Holdings) : mover.Traces suffix ids ⟨start, []⟩ := by
  intro transfer _ id source earlier deed later split
  simp only [List.nil_eq, List.append_eq_nil_iff, reduceCtorEq, and_false] at split

theorem Traces.record (traces : mover.Traces suffix ids ledger)
    (onward : ∀ transfer ∈ mover.transfers suffix ids, ∀ id source earlier deed later,
      ledger.deeds = earlier ++ deed :: later → deed.writes? transfer.source id = some source →
        (Deed.mk call ledger.held).writes? transfer.source id = none →
          Traced transfer id source earlier later ledger.held →
            Traced transfer id source earlier (later ++ [⟨call, ledger.held⟩])
              (ledger.held.after call)) :
    mover.Traces suffix ids (ledger.record call) := by
  intro transfer planned id source earlier deed later split wrote last
  rcases History.split_concat split with ⟨rfl, rfl, rfl⟩ | ⟨front, rfl, before⟩
  · exact Traced.begun (Deed.document?_after_of_writes? wrote) _
  · refine onward transfer planned id source earlier deed front before wrote ?_ ?_
    · exact last _ (List.mem_append_right front List.mem_cons_self)
    · exact traces transfer planned id source earlier deed front before wrote
        fun other member => last other (List.mem_append_left _ member)

theorem Traces.write (traces : mover.Traces suffix ids ledger) (apart : mover.Apart suffix)
    {index : String} (live : mover.IsLive index) (written : Documents) :
    mover.Traces suffix ids (ledger.record (.bulkWrite index written)) := by
  apply traces.record
  intro transfer planned id source earlier deed later _ _ spared traced
  have elsewhere := (apart.destination_ne planned live).symm
  refine traced.unchanged _ nofun ?_ ?_
  · simp only [Deed.writes?] at spared
    rw [Holdings.document?_after_bulkWrite]
    split
    · rename_i here
      rw [if_pos here] at spared
      rw [spared, Option.none_or]
    · rfl
  · rw [Holdings.document?_after_bulkWrite, if_neg elsewhere]

theorem Traces.writes {after : Ledger} (traces : mover.Traces suffix ids ledger)
    (apart : mover.Apart suffix) (written : mover.Writes ledger after) :
    mover.Traces suffix ids after := by
  induction written with
  | refl => exact traces
  | tail _ step ih =>
    obtain ⟨index, written, live, rfl⟩ := step
    exact ih.write apart live written

theorem transfer_eq_of_source_eq (distinct : (mover.collections.map Collection.index).Nodup)
    {transfer other : Transfer} (planned : transfer ∈ mover.transfers suffix ids)
    (also : other ∈ mover.transfers suffix ids) (same : transfer.source = other.source) :
    transfer = other := by
  obtain ⟨collection, member, rfl⟩ := exists_collection planned
  obtain ⟨another, there, rfl⟩ := exists_collection also
  rw [List.inj_on_of_nodup_map distinct member there same]

theorem Traces.demanded {history : History} (traces : mover.Traces suffix ids ledger)
    (apart : mover.Apart suffix) (distinct : (mover.collections.map Collection.index).Nodup)
    (obeys : history.Obeys (mover.Demands suffix ids known))
    (demanded : mover.Demands suffix ids known history call)
    (booked : ∀ event ∈ history, event.isGranted = true →
      ∃ deed ∈ ledger.deeds, deed.call = event.call) :
    mover.Traces suffix ids (ledger.record call) := by
  apply traces.record
  intro transfer planned id source earlier deed later split wrote _ traced
  have elsewhere := apart.destination_ne planned (isLive_source planned)
  match call with
  | .search request =>
    rw [Holdings.after_search]
    exact traced.unchanged _ nofun rfl rfl
  | .refresh _ => exact traced.unchanged _ nofun rfl rfl
  | .ensureExists destination =>
    refine traced.unchanged _ nofun ?_ ?_ <;> rw [Holdings.document?_after_ensureExists]
  | .bulkWrite _ _ | .bulkDelete _ _ => exact demanded.elim
  | .reindex from_ destination filter =>
    have also : ⟨from_, destination, filter⟩ ∈ mover.transfers suffix ids := demanded.1
    by_cases same : from_ = transfer.source
    · cases transfer_eq_of_source_eq distinct also planned same
      exact traced.copy elsewhere
    · have notThere : destination ≠ transfer.destination := fun here =>
        same (source_eq_of_destination_eq also planned here)
      have notLive : destination ≠ transfer.source :=
        apart.destination_ne also (isLive_source planned)
      refine traced.unchanged _ ?_ ?_ ?_
      · intro copying
        cases copying
        exact same rfl
      · rw [Holdings.document?_after_reindex, if_neg notLive]
      · rw [Holdings.document?_after_reindex, if_neg notThere]
  | .deleteByQuery index filter =>
    obtain ⟨other, also, rfl, rfl, event, member, copying, granted⟩ :=
      exists_copied_of_demands obeys demanded
    by_cases same : other.source = transfer.source
    · cases transfer_eq_of_source_eq distinct also planned same
      refine traced.delete elsewhere ?_
      obtain ⟨made, among, sameCall⟩ := booked event member granted
      rw [copying] at sameCall
      rw [split] at among
      rcases List.mem_append.mp among with before | since
      · exact Or.inl ⟨made, before, sameCall⟩
      · -- The writing itself is no copy.
        rcases List.mem_cons.mp since with rfl | after
        · obtain ⟨_, writing⟩ := Deed.exists_of_writes? wrote
          rw [writing] at sameCall
          cases sameCall
        · exact Or.inr ⟨made, after, sameCall⟩
    · have notThere := (apart.destination_ne planned (isLive_source also)).symm
      refine traced.unchanged _ nofun ?_ ?_
      · rw [Holdings.document?_after_deleteByQuery, if_neg same]
      · rw [Holdings.document?_after_deleteByQuery, if_neg notThere]

/-- What a record and a ledger say about documents that were written. -/
structure Watches (mover : Mover) (suffix : String) (ids : List String) (history : History)
    (ledger : Ledger) : Prop where
  traces : mover.Traces suffix ids ledger
  live : ∀ deed ∈ ledger.deeds, ∀ index written, deed.call = .bulkWrite index written →
    mover.IsLive index
  booked : ∀ event ∈ history, event.isGranted = true → ∃ deed ∈ ledger.deeds, deed.call = event.call

theorem watches_begun (start : Holdings) : mover.Watches suffix ids [] ⟨start, []⟩ where
  traces := traces_begun start
  live _ made := by cases made
  booked _ member := by cases member

theorem Watches.writes {history : History} {after : Ledger}
    (watches : mover.Watches suffix ids history ledger) (apart : mover.Apart suffix)
    (written : mover.Writes ledger after) : mover.Watches suffix ids history after := by
  induction written with
  | refl => exact watches
  | tail _ step ih =>
    obtain ⟨target, documents, live, rfl⟩ := step
    constructor
    · exact ih.traces.write apart live documents
    · intro deed made index written same
      rcases List.mem_append.mp made with before | new
      · exact ih.live deed before index written same
      · cases List.mem_singleton.mp new
        cases same
        exact live
    · intro event member granted
      obtain ⟨deed, made, same⟩ := ih.booked event member granted
      exact ⟨deed, List.mem_append_left _ made, same⟩

theorem Watches.demanded {history : History} (watches : mover.Watches suffix ids history ledger)
    (apart : mover.Apart suffix) (distinct : (mover.collections.map Collection.index).Nodup)
    (obeys : history.Obeys (mover.Demands suffix ids known))
    (demanded : mover.Demands suffix ids known history call) (reply : Option call.Reply) :
    mover.Watches suffix ids (history ++ [⟨call, reply⟩]) (ledger.record call) := by
  constructor
  · exact watches.traces.demanded apart distinct obeys demanded watches.booked
  · intro deed made index written same
    rcases List.mem_append.mp made with before | new
    · exact watches.live deed before index written same
    · cases List.mem_singleton.mp new
      cases same
      exact demanded.elim
  · intro event member granted
    rcases List.mem_append.mp member with before | new
    · obtain ⟨deed, made, same⟩ := watches.booked event before granted
      exact ⟨deed, List.mem_append_left _ made, same⟩
    · cases List.mem_singleton.mp new
      exact ⟨⟨call, ledger.held⟩, List.mem_append_right ledger.deeds List.mem_cons_self, rfl⟩

/-- Documents stay traced while a move and somebody who writes take turns. -/
theorem watches_maintained (apart : mover.Apart suffix)
    (distinct : (mover.collections.map Collection.index).Nodup) :
    mover.Maintains suffix ids known ((Backend.booked .never).accompanied mover.Writes)
      (mover.Watches suffix ids) := by
  intro history call ledger reply after obeys demanded served watches
  obtain ⟨between, answered, written⟩ := served
  obtain ⟨_, rfl⟩ := Backend.booked_never answered
  exact (watches.demanded apart distinct obeys demanded reply).writes apart written

theorem Watches.found {history : History} (watches : mover.Watches suffix ids history ledger)
    {index id : String} {source : Value} (last : ledger.lastWritten? index id = some source) :
    ledger.held.document? index id = some source ∨
      ledger.held.document? (index ++ suffix) id = some source ∨
      mover.WrittenBetween suffix ids ledger.deeds index id source := by
  obtain ⟨earlier, deed, later, split, wrote, since⟩ := Ledger.split_of_lastWritten? last
  obtain ⟨written, writing⟩ := Deed.exists_of_writes? wrote
  have made : deed ∈ ledger.deeds := split ▸ List.mem_append_right earlier List.mem_cons_self
  obtain ⟨collection, member, rfl⟩ := watches.live deed made index written writing
  have planned : collection.transfer suffix ids ∈ mover.transfers suffix ids := by
    rw [transfers_eq]
    exact List.mem_map_of_mem member
  have traced := watches.traces _ planned id source earlier deed later split wrote since
  rcases traced.kept with held | ⟨deleted, accepted, there | copied⟩
  · exact Or.inl held
  · exact Or.inr (Or.inl there)
  · exact Or.inr (Or.inr ⟨collection, member, rfl, (Filter.accepts_terms _ _ _).mp accepted,
      earlier, deed, later, split, wrote, since, copied, deleted⟩)

/-- Wherever a move has come to while somebody else writes to the live indices: the last version of
each document that was written is live or in its destination, unless it belongs to the batch and was
written between the copying and the deletion of what does. -/
theorem last_version_is_live_or_archived (mover : Mover) (batch : Batch) (suffix : String)
    (named : mover.namer.suffix batch.finishDate = some suffix)
    (distinct : (mover.collections.map Collection.index).Nodup) (apart : mover.Apart suffix)
    (start : Holdings) (begun : Ledger) (before : mover.Writes ⟨start, []⟩ begun)
    (recalls : String → Bool) (after : Site Ledger) (rest : Work (Except ArchiveFailure Nat))
    (reached : (mover.move batch).Reaches
      ((Backend.booked .never).accompanied mover.Writes).service ⟨begun, recalls⟩ after rest)
    (index id : String) (source : Value)
    (last : after.store.lastWritten? index id = some source) :
    after.store.held.document? index id = some source ∨
      after.store.held.document? (index ++ suffix) id = some source ∨
      mover.WrittenBetween suffix batch.ids after.store.deeds index id source := by
  have first : mover.Watches suffix batch.ids [] begun := (watches_begun start).writes apart before
  suffices watched : ∃ history, mover.Watches suffix batch.ids history after.store by
    obtain ⟨history, watches⟩ := watched
    exact watches.found last
  by_cases empty : batch.ids = []
  · rw [move, if_pos (List.isEmpty_iff.mpr empty)] at reached
    cases reached
    exact ⟨[], first⟩
  · rw [move_of_named empty named] at reached
    have ensured := ensures_moveTo_maintained (fun _ => True) (fun _ => False) mover suffix
      batch.ids ⟨begun, recalls⟩ (fun _ _ _ _ _ _ => trivial) (watches_maintained apart distinct)
      first
    obtain ⟨⟨history, _, watches⟩, _⟩ := ensured.holds ⟨[], conduct_begun, first⟩ reached
    exact ⟨history, watches⟩

def specimenEvent : Value := .ofMembers [("workflowInstanceKey", .nat 7)]

/-- Performs every call. One event is written before the events are copied, and another one when
their copies have been made visible. -/
def interrupted (call : Call) (now : Ledger) : Option call.Reply × Ledger :=
  (some (now.held.perform call).1,
    match call with
    | .search _ => (now.record call).record (.bulkWrite "events" [("early", specimenEvent)])
    | .refresh "eventsx" =>
      (now.record call).record (.bulkWrite "events" [("late", specimenEvent)])
    | _ => now.record call)

theorem accompanied_interrupted (call : Call) (now : Ledger) :
    ((Backend.booked .never).accompanied specimen.Writes) call now (interrupted call now).1
      (interrupted call now).2 := by
  refine ⟨now.record call, Backend.booked_book .never call now, ?_⟩
  have live : specimen.IsLive "events" := ⟨⟨"events", "workflowInstanceKey"⟩, by decide, rfl⟩
  simp only [interrupted]
  split
  · exact .single ⟨_, _, live, rfl⟩
  · exact .single ⟨_, _, live, rfl⟩
  · exact .refl

/-- What is held and done when the only root of a store has been moved amid writing. -/
def specimenInterrupted : Site Ledger × Work (Except ArchiveFailure Nat) :=
  (specimen.move ⟨⟨2024, 1, 1⟩, ["7"]⟩).follow (Backend.serve interrupted) 40
    ⟨⟨specimenStart, []⟩, fun _ => false⟩

theorem reaches_specimenInterrupted : (specimen.move ⟨⟨2024, 1, 1⟩, ["7"]⟩).Reaches
    ((Backend.booked .never).accompanied specimen.Writes).service
    ⟨⟨specimenStart, []⟩, fun _ => false⟩ specimenInterrupted.1 specimenInterrupted.2 :=
  Dialogue.reaches_follow (Backend.serve interrupted)
    (Backend.service_serve _ interrupted accompanied_interrupted) 40 _ _

theorem specimen_apart : specimen.Apart "x" :=
  (specimen_separates (· = "x") fun _ marked => marked).apart "x" rfl

/-- An event that is written in time goes along with its root. -/
theorem early_event_is_archived :
    ∃ source, specimenInterrupted.1.store.lastWritten? "events" "early" = some source ∧
      specimenInterrupted.1.store.held.document? "events" "early" = none ∧
      (specimenInterrupted.1.store.held.document? "events" "early" = some source ∨
        specimenInterrupted.1.store.held.document? ("events" ++ "x") "early" = some source ∨
        specimen.WrittenBetween "x" ["7"] specimenInterrupted.1.store.deeds "events" "early"
          source) := by
  have last : (specimenInterrupted.1.store.lastWritten? "events" "early").isSome = true := by
    decide +kernel
  obtain ⟨source, written⟩ := Option.isSome_iff_exists.mp last
  refine ⟨source, written, ?_, ?_⟩
  · rw [← Option.isNone_iff_eq_none]
    decide +kernel
  · exact last_version_is_live_or_archived specimen ⟨⟨2024, 1, 1⟩, ["7"]⟩ "x" rfl (by decide)
      specimen_apart specimenStart ⟨specimenStart, []⟩ .refl (fun _ => false) _ _
      reaches_specimenInterrupted "events" "early" source written

/-- An event that is written after the copying and before the deletion is in neither place, though
the move succeeds. -/
theorem late_event_is_lost :
    ¬∀ (mover : Mover) (batch : Batch) (suffix : String) (start : Holdings)
      (recalls : String → Bool) (after : Site Ledger) (count : Nat),
      mover.namer.suffix batch.finishDate = some suffix →
      (mover.collections.map Collection.index).Nodup → mover.Apart suffix →
      (mover.move batch).Reaches ((Backend.booked .never).accompanied mover.Writes).service
        ⟨⟨start, []⟩, recalls⟩ after (.finish (.ok count)) →
      ∀ index id source, after.store.lastWritten? index id = some source →
        after.store.held.document? index id = some source ∨
          after.store.held.document? (index ++ suffix) id = some source := by
  intro claimed
  have succeeded : (specimenInterrupted.2.result?.bind Except.toOption).isSome = true := by
    decide +kernel
  obtain ⟨_, came⟩ := Option.isSome_iff_exists.mp succeeded
  obtain ⟨outcome, ended, granted⟩ := Option.bind_eq_some_iff.mp came
  cases outcome with
  | error failure => cases granted
  | ok count =>
    have reached := reaches_specimenInterrupted
    rw [Dialogue.eq_finish ended] at reached
    have last : (specimenInterrupted.1.store.lastWritten? "events" "late").isSome = true := by
      decide +kernel
    obtain ⟨source, written⟩ := Option.isSome_iff_exists.mp last
    have live : specimenInterrupted.1.store.held.document? "events" "late" = none := by
      rw [← Option.isNone_iff_eq_none]
      decide +kernel
    have archived :
        specimenInterrupted.1.store.held.document? ("events" ++ "x") "late" = none := by
      rw [← Option.isNone_iff_eq_none]
      decide +kernel
    rcases claimed specimen _ "x" _ _ _ count rfl (by decide) specimen_apart reached "events" "late"
      source written with held | held
    · rw [live] at held
      cases held
    · rw [archived] at held
      cases held

end Mover

end Archivist
