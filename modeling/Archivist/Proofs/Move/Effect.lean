import Archivist.Proofs.Move.Warrant
import Archivist.Proofs.Store.Contents

set_option autoImplicit false

namespace Archivist

open Json (Value)

/-- Documents of one index that belong to roots, and the field that says to which. -/
structure Collection where
  index : String
  field : String
deriving DecidableEq

namespace Collection

def transfer (collection : Collection) (suffix : String) (ids : List String) : Transfer :=
  ⟨collection.index, collection.index ++ suffix, .terms collection.field (Mover.texts ids)⟩

end Collection

namespace Mover

/-- What a move takes along: what lies in the index of the roots, and then each type that has an
index of its own. -/
def collections (mover : Mover) : List Collection :=
  ⟨mover.root.index, mover.root.linkField⟩ ::
    mover.separateDependents.map fun dependent => ⟨dependent.index, dependent.foreignKey⟩

theorem transfers_eq (mover : Mover) (suffix : String) (ids : List String) :
    mover.transfers suffix ids = mover.collections.map (·.transfer suffix ids) := by
  simp only [transfers, collections, List.map_cons, List.map_map]
  rfl

/-- Documents are moved out of the index. -/
def IsLive (mover : Mover) (index : String) : Prop :=
  ∃ collection ∈ mover.collections, collection.index = index

theorem isLive_iff (mover : Mover) (index : String) :
    mover.IsLive index ↔ index ∈ mover.collections.map Collection.index := by
  rw [List.mem_map]
  rfl

theorem isLive_of_mem {mover : Mover} {collection : Collection}
    (member : collection ∈ mover.collections) : mover.IsLive collection.index :=
  ⟨collection, member, rfl⟩

def Apart (mover : Mover) (suffix : String) : Prop :=
  ∀ index other, mover.IsLive index → mover.IsLive other → index ++ suffix ≠ other

variable {mover : Mover} {suffix : String} {ids : List String}

theorem exists_collection {transfer : Transfer} (planned : transfer ∈ mover.transfers suffix ids) :
    ∃ collection ∈ mover.collections, transfer = collection.transfer suffix ids := by
  rw [transfers_eq, List.mem_map] at planned
  obtain ⟨collection, member, rfl⟩ := planned
  exact ⟨collection, member, rfl⟩

theorem isLive_source {transfer : Transfer} (planned : transfer ∈ mover.transfers suffix ids) :
    mover.IsLive transfer.source := by
  obtain ⟨collection, member, rfl⟩ := exists_collection planned
  exact isLive_of_mem member

theorem destination_eq {transfer : Transfer} (planned : transfer ∈ mover.transfers suffix ids) :
    transfer.destination = transfer.source ++ suffix := by
  obtain ⟨collection, _, rfl⟩ := exists_collection planned
  rfl

theorem Apart.not_isLive {transfer : Transfer} (apart : mover.Apart suffix)
    (planned : transfer ∈ mover.transfers suffix ids) : ¬mover.IsLive transfer.destination := by
  rw [destination_eq planned]
  exact fun live => apart _ _ (isLive_source planned) live rfl

theorem Apart.destination_ne {transfer : Transfer} {index : String} (apart : mover.Apart suffix)
    (planned : transfer ∈ mover.transfers suffix ids) (live : mover.IsLive index) :
    transfer.destination ≠ index :=
  fun same => apart.not_isLive planned (same ▸ live)

theorem apart_of_resolve (apart : ∀ base date destination, mover.IsLive base →
      mover.namer.resolve base (some date) = some destination → ¬mover.IsLive destination)
    (date : Calendar.Date) (suffix : String) (named : mover.namer.suffix date = some suffix) :
    mover.Apart suffix := by
  intro base other live also same
  have resolved : mover.namer.resolve base (some date) = some other := by
    rw [Namer.resolve, named, Option.map_some, same]
  exact apart base date other live resolved also

theorem source_eq_of_destination_eq {transfer other : Transfer}
    (planned : transfer ∈ mover.transfers suffix ids)
    (also : other ∈ mover.transfers suffix ids)
    (same : transfer.destination = other.destination) : transfer.source = other.source := by
  rw [destination_eq planned, destination_eq also] at same
  exact String.append_left_inj suffix |>.mp same

variable (mover suffix ids)

def Plans : Call → Prop
  | .ensureExists destination =>
    ∃ transfer ∈ mover.transfers suffix ids, transfer.destination = destination
  | .reindex source destination filter =>
    ⟨source, destination, filter⟩ ∈ mover.transfers suffix ids
  | .deleteByQuery index filter =>
    ∃ transfer ∈ mover.transfers suffix ids, transfer.source = index ∧ transfer.filter = filter
  | .search _ | .refresh _ => True
  | .bulkWrite .. | .bulkDelete .. => False

variable {mover suffix ids} {known : String → Bool}

theorem exists_copied_of_demands {history : History} {index : String} {filter : Filter}
    (obeys : history.Obeys (mover.Demands suffix ids known))
    (demanded : mover.Demands suffix ids known history (.deleteByQuery index filter)) :
    ∃ transfer ∈ mover.transfers suffix ids, transfer.source = index ∧ transfer.filter = filter ∧
      ∃ event ∈ history, event.call = transfer.copying ∧ event.isGranted = true := by
  obtain ⟨deleted, transfer, rest, order, source, same, _⟩ := demanded.inTurn
  have copied : transfer ∈ history.copied := by
    rw [← List.mem_reverse, order]
    exact List.mem_append_right deleted List.mem_cons_self
  obtain ⟨event, member, copying, granted⟩ := History.exists_of_mem_copied copied
  obtain ⟨before, later, split⟩ := List.append_of_mem member
  have warranted := obeys before event later split
  rw [copying] at warranted
  exact ⟨transfer, warranted.1, source, same, event, member, copying, granted⟩

theorem plans_of_demands {history : History} {call : Call}
    (obeys : history.Obeys (mover.Demands suffix ids known))
    (demanded : mover.Demands suffix ids known history call) : mover.Plans suffix ids call := by
  match call with
  | .search _ | .refresh _ => trivial
  | .ensureExists _ => exact demanded
  | .reindex _ _ _ => exact demanded.1
  | .bulkWrite _ _ | .bulkDelete _ _ => exact demanded
  | .deleteByQuery index filter =>
    obtain ⟨transfer, planned, source, same, _⟩ := exists_copied_of_demands obeys demanded
    exact ⟨transfer, planned, source, same⟩

theorem plans_of_mem {history : History} {event : Event}
    (obeys : history.Obeys (mover.Demands suffix ids known)) (member : event ∈ history) :
    mover.Plans suffix ids event.call := by
  obtain ⟨before, later, split⟩ := List.append_of_mem member
  refine plans_of_demands (fun earlier other between same => ?_) (obeys before event later split)
  refine obeys earlier other (between ++ event :: later) ?_
  rw [split, same, List.append_assoc, List.cons_append]

variable (mover suffix ids)

/-- What a call of a move may change. Live documents only go away, and only by a deletion; all
others stay as they are unless a live document takes their place. -/
structure Effect (call : Call) (now after : Holdings) : Prop where
  live : ∀ index, mover.IsLive index → ∀ id source,
    after.document? index id = some source → now.document? index id = some source
  gone : ∀ index, mover.IsLive index → ∀ id source, now.document? index id = some source →
    after.document? index id = some source ∨
      ∃ filter, call = .deleteByQuery index filter ∧ filter.accepts source = true
  arrives : ∀ index, ¬mover.IsLive index → ∀ id,
    after.document? index id = now.document? index id ∨
      ∃ transfer ∈ mover.transfers suffix ids, transfer.destination = index ∧
        ∃ source, now.document? transfer.source id = some source ∧
          transfer.filter.accepts source = true ∧ after.document? index id = some source
  grows : ∀ index, (now.documents? index).isSome = true → (after.documents? index).isSome = true
  makes : ∀ index, (after.documents? index).isSome = true →
    (now.documents? index).isSome = true ∨
      ∃ transfer ∈ mover.transfers suffix ids, transfer.destination = index

variable {mover suffix ids}

theorem effect_refl (call : Call) (now : Holdings) : mover.Effect suffix ids call now now where
  live _ _ _ _ held := held
  gone _ _ _ _ held := Or.inl held
  arrives _ _ _ := Or.inl rfl
  grows _ there := there
  makes _ there := Or.inl there

theorem effect_ensureExists (destination : String) (now : Holdings)
    (planned : ∃ transfer ∈ mover.transfers suffix ids, transfer.destination = destination) :
    mover.Effect suffix ids (.ensureExists destination) now
      (now.after (.ensureExists destination)) where
  live index _ id source held := by rwa [Holdings.document?_after_ensureExists] at held
  gone index _ id source held := by
    left
    rwa [Holdings.document?_after_ensureExists]
  arrives index _ id := Or.inl (now.document?_after_ensureExists destination index id)
  grows index there := by
    rw [Holdings.isSome_after_ensureExists, there, Bool.or_true]
  makes index there := by
    rw [Holdings.isSome_after_ensureExists, Bool.or_eq_true, decide_eq_true_eq] at there
    rcases there with rfl | before
    · exact Or.inr planned
    · exact Or.inl before

theorem effect_reindex (transfer : Transfer) (now : Holdings) (apart : mover.Apart suffix)
    (planned : transfer ∈ mover.transfers suffix ids) :
    mover.Effect suffix ids transfer.copying now (now.after transfer.copying) := by
  have elsewhere : ∀ index, mover.IsLive index → transfer.destination ≠ index :=
    fun _ live => apart.destination_ne planned live
  have unchanged : ∀ index, mover.IsLive index → ∀ id,
      (now.after transfer.copying).document? index id = now.document? index id := by
    intro index live id
    rw [Transfer.copying, Holdings.document?_after_reindex, if_neg (elsewhere index live)]
  constructor
  · intro index live id source held
    rwa [unchanged index live] at held
  · intro index live id source held
    left
    rwa [unchanged index live]
  · intro index _ id
    rw [Transfer.copying, Holdings.document?_after_reindex]
    by_cases here : transfer.destination = index
    · simp only [here, ↓reduceIte]
      cases held : now.document? transfer.source id with
      | none =>
        left
        rw [Option.filter_none, Option.none_or]
      | some source =>
        cases accepted : transfer.filter.accepts source with
        | false =>
          left
          simp only [Option.filter_some, accepted, Bool.false_eq_true, ↓reduceIte, Option.none_or]
        | true =>
          right
          refine ⟨transfer, planned, here, source, held, accepted, ?_⟩
          simp only [Option.filter_some, accepted, ↓reduceIte, Option.some_or]
    · left
      simp only [here, ↓reduceIte]
  · intro index there
    rw [Transfer.copying, Holdings.isSome_after_reindex, there, Bool.or_true]
  · intro index there
    rw [Transfer.copying, Holdings.isSome_after_reindex, Bool.or_eq_true, Bool.and_eq_true,
      decide_eq_true_eq] at there
    rcases there with ⟨rfl, _⟩ | before
    · exact Or.inr ⟨transfer, planned, rfl⟩
    · exact Or.inl before

theorem effect_deleteByQuery (index : String) (filter : Filter) (now : Holdings)
    (live : mover.IsLive index) :
    mover.Effect suffix ids (.deleteByQuery index filter) now
      (now.after (.deleteByQuery index filter)) := by
  constructor
  · intro other _ id source held
    rw [Holdings.document?_after_deleteByQuery] at held
    split at held
    · exact (Option.filter_eq_some_iff.mp held).1
    · exact held
  · intro other _ id source held
    rw [Holdings.document?_after_deleteByQuery, held]
    by_cases here : index = other
    · subst here
      cases accepted : filter.accepts source with
      | true => exact Or.inr ⟨filter, rfl, accepted⟩
      | false =>
        left
        simp only [↓reduceIte, Option.filter_some, accepted, Bool.not_false]
    · left
      simp only [here, ↓reduceIte]
  · intro other notLive id
    left
    have elsewhere : index ≠ other := fun same => notLive (same ▸ live)
    rw [Holdings.document?_after_deleteByQuery, if_neg elsewhere]
  · intro other there
    rwa [Holdings.isSome_after_deleteByQuery]
  · intro other there
    left
    rwa [Holdings.isSome_after_deleteByQuery] at there

theorem effect_after {call : Call} (now : Holdings) (apart : mover.Apart suffix)
    (planned : mover.Plans suffix ids call) :
    mover.Effect suffix ids call now (now.after call) := by
  match call with
  | .search request =>
    rw [Holdings.after_search]
    exact effect_refl _ now
  | .refresh index => exact effect_refl _ now
  | .ensureExists destination => exact effect_ensureExists destination now planned
  | .reindex source destination filter =>
    exact effect_reindex ⟨source, destination, filter⟩ now apart planned
  | .deleteByQuery index filter =>
    obtain ⟨transfer, member, rfl, rfl⟩ := planned
    exact effect_deleteByQuery _ _ now (isLive_source member)
  | .bulkWrite _ _ | .bulkDelete _ _ => exact planned.elim

end Mover

end Archivist
