import Archivist.Proofs.Move.Loss
import Archivist.Proofs.Move.Preservation
import Archivist.Proofs.Move.Selection
import Archivist.Proofs.Store.Ledger
import Archivist.Proofs.Store.Listing
import Mathlib.Data.List.Perm.Subperm

set_option autoImplicit false

namespace Archivist

open Json (Value)

namespace Mover

/-- Separate types lie apart from the roots and from all destinations with a suffix. -/
structure Secludes (mover : Mover) (suffix : String) : Prop where
  fromRoots : ∀ dependent ∈ mover.separateDependents, dependent.index ≠ mover.root.index
  fromDestinations : ∀ dependent ∈ mover.separateDependents, ∀ base, mover.IsLive base →
    base ++ suffix ≠ dependent.index

/-- Where root records are: in the live index, or in their destination. -/
def IsHome (mover : Mover) (suffix index : String) : Prop :=
  index = mover.root.index ∨ index = mover.root.index ++ suffix

/-- Root records with the same text for an id are the same document. -/
def TellsRoots (mover : Mover) (suffix : String) (now : Holdings) : Prop :=
  ∀ index another id other source copy text,
    mover.IsHome suffix index → mover.IsHome suffix another →
    now.document? index id = some source → now.document? another other = some copy →
    mover.root.isRoot source = true → mover.root.isRoot copy = true →
    source.textAt mover.root.idField = some text → copy.textAt mover.root.idField = some text →
      id = other

def NoneLeft (dependent : Dependent) (ids : List String) (now : Holdings) : Prop :=
  ∀ id source, now.document? dependent.index id = some source →
    ∀ text ∈ ids, source.textAt dependent.foreignKey ≠ some text

variable {mover : Mover} {suffix : String} {ids : List String} {known : String → Bool}
  {now : Holdings} {call : Call}

theorem noneLeft_iff (dependent : Dependent) (suffix : String) (ids : List String)
    (now : Holdings) : NoneLeft dependent ids now ↔
      ∀ id source, now.document? dependent.index id = some source →
      (dependentTransfer dependent suffix ids).filter.accepts source = false := by
  constructor
  · intro none id source held
    rw [← Bool.not_eq_true, dependentTransfer, Filter.accepts_terms]
    intro given
    obtain ⟨text, among, linked⟩ := given
    exact none id source held text among linked
  · intro none id source held text among linked
    have accepted : (dependentTransfer dependent suffix ids).filter.accepts source = true :=
      (Filter.accepts_terms _ _ _).mpr ⟨text, among, linked⟩
    rw [none id source held] at accepted
    cases accepted

theorem document?_of_after {index id : String} {source : Value}
    (planned : mover.Plans suffix ids call)
    (outside : ∀ base, mover.IsLive base → base ++ suffix ≠ index)
    (held : (now.after call).document? index id = some source) :
    now.document? index id = some source := by
  match call with
  | .search request => rwa [Holdings.after_search] at held
  | .refresh _ => exact held
  | .ensureExists destination => rwa [Holdings.document?_after_ensureExists] at held
  | .reindex from_ destination filter =>
    have elsewhere : destination ≠ index := by
      have named := destination_eq planned
      simp only at named
      rw [named]
      exact outside _ (isLive_source planned)
    rwa [Holdings.document?_after_reindex, if_neg elsewhere] at held
  | .deleteByQuery emptied filter =>
    rw [Holdings.document?_after_deleteByQuery] at held
    split at held
    · exact (Option.filter_eq_some_iff.mp held).1
    · exact held
  | .bulkWrite _ _ | .bulkDelete _ _ => exact planned.elim

section Secluded

variable (secludes : mover.Secludes suffix)
include secludes

theorem NoneLeft.afterCall {dependent : Dependent} (separate : dependent ∈ mover.separateDependents)
    (none : NoneLeft dependent ids now) (planned : mover.Plans suffix ids call) :
    NoneLeft dependent ids (now.after call) := by
  intro id source held
  have before := document?_of_after planned (secludes.fromDestinations dependent separate) held
  exact none id source before

theorem Secludes.ne_rootTransfer {dependent : Dependent} {transfer : Transfer}
    (separate : dependent ∈ mover.separateDependents) (from_ : transfer.source = dependent.index) :
    transfer ≠ mover.rootTransfer suffix ids := by
  intro same
  apply secludes.fromRoots dependent separate
  rw [← from_, same]
  rfl

theorem Secludes.root_apart {dependent : Dependent}
    (separate : dependent ∈ mover.separateDependents) :
    mover.root.index ++ suffix ≠ mover.root.index := by
  intro same
  have nothing : suffix = "" := by
    rw [← String.append_right_inj mover.root.index, same, String.append_empty]
  have live : mover.IsLive dependent.index :=
    isLive_of_mem (List.mem_cons_of_mem _ (List.mem_map_of_mem separate))
  apply secludes.fromDestinations dependent separate dependent.index live
  rw [nothing, String.append_empty]

end Secluded

theorem home_of_after {index id : String} {source : Value}
    (home : mover.IsHome suffix index)
    (held : (now.after (mover.rootTransfer suffix ids).copying).document? index id = some source) :
    ∃ other, mover.IsHome suffix other ∧ now.document? other id = some source := by
  rw [Transfer.copying, Holdings.document?_after_reindex] at held
  split at held
  · rcases Option.or_eq_some_iff.mp held with copied | ⟨_, there⟩
    · exact ⟨mover.root.index, Or.inl rfl, (Option.filter_eq_some_iff.mp copied).1⟩
    · exact ⟨index, home, there⟩
  · exact ⟨index, home, held⟩

theorem TellsRoots.copy (tells : mover.TellsRoots suffix now) :
    mover.TellsRoots suffix (now.after (mover.rootTransfer suffix ids).copying) := by
  intro index another id other source copy text home also held there tagged alike named same
  obtain ⟨first, firstHome, before⟩ := home_of_after home held
  obtain ⟨second, secondHome, earlier⟩ := home_of_after also there
  exact tells first second id other source copy text firstHome secondHome before earlier tagged
    alike named same

theorem allLanded_of_page {page : List Record} (tells : mover.TellsRoots suffix now)
    (answered : (now.perform (.search
      (mover.verification (mover.rootTransfer suffix ids).destination ids))).1 = .ok page)
    (enough : ids.length ≤ page.length) : mover.AllLanded suffix ids now := by
  have shown := Holdings.mem_of_search answered
  have each : ∀ record ∈ page, ∃ text ∈ ids,
      record.source.textAt mover.root.idField = some text := by
    intro record member
    exact ((mover.accepts_verification _ _ _).mp (shown record member).2).2
  let name (record : Record) : String := (record.source.textAt mover.root.idField).getD record.id
  have named : ∀ record ∈ page, record.source.textAt mover.root.idField = some (name record) ∧
      name record ∈ ids := by
    intro record member
    obtain ⟨text, among, written⟩ := each record member
    simp only [name, written, Option.getD_some]
    exact ⟨trivial, among⟩
  -- Documents with the same text are one, so the page has as many texts as records.
  have once : (page.map name).Nodup := by
    have ids := Holdings.nodup_of_search answered
    rw [List.nodup_map_iff_inj_on ids.of_map]
    intro left first right second same
    have apart := (List.nodup_map_iff_inj_on ids.of_map).mp ids
    apply apart left first right second
    have leftRoot := (mover.accepts_verification _ _ _).mp (shown left first).2
    have rightRoot := (mover.accepts_verification _ _ _).mp (shown right second).2
    exact tells _ _ _ _ _ _ _ (Or.inr rfl) (Or.inr rfl) (shown left first).1 (shown right second).1
      leftRoot.1 rightRoot.1 (named left first).1 (same ▸ (named right second).1)
  have inside : page.map name ⊆ ids := by
    intro text member
    obtain ⟨record, among, rfl⟩ := List.mem_map.mp member
    exact (named record among).2
  have all : (page.map name).Perm ids := by
    apply (List.subperm_of_subset once inside).perm_of_length_le
    rwa [List.length_map]
  intro text among
  obtain ⟨record, member, rfl⟩ := List.mem_map.mp (all.mem_iff.mpr among)
  have tagged := ((mover.accepts_verification _ _ _).mp (shown record member).2).1
  exact ⟨record.id, record.source, (shown record member).1, tagged, (named record member).1⟩

theorem IsVerified.finals_ne_nil {history : History} (verified : mover.IsVerified suffix ids history)
    (obeys : history.Obeys (mover.Demands suffix ids known)) : history.finals .reindex ≠ [] := by
  obtain ⟨found, searched, _⟩ := verified
  obtain ⟨before, later, rfl⟩ := List.append_of_mem searched
  obtain ⟨_, event, earlier, copies, granted⟩ := obeys before _ later rfl
  refine List.ne_nil_of_mem (List.mem_filter.mpr ⟨List.mem_append_left _ earlier, ?_⟩)
  rw [copies, event.isFinal_of_isGranted granted]
  rfl

/-- What a record and a ledger say about roots and dependents. -/
structure Together (mover : Mover) (suffix : String) (ids : List String) (history : History)
    (ledger : Ledger) : Prop where
  tells : ¬mover.IsVerified suffix ids history → mover.TellsRoots suffix ledger.held
  landed : mover.IsVerified suffix ids history → mover.AllLanded suffix ids ledger.held
  copied : ∀ dependent ∈ mover.separateDependents, ∀ deed ∈ ledger.deeds, ∀ destination filter,
    deed.call = .reindex dependent.index destination filter → mover.IsVerified suffix ids history
  /-- A type that was deleted, or found missing, has nothing left. -/
  emptied : ∀ dependent ∈ mover.separateDependents, ∀ event ∈ history,
    event.call = (dependentTransfer dependent suffix ids).deletion ∧ event.isGranted = true ∨
      event.call = (dependentTransfer dependent suffix ids).copying ∧ event.isMissing = true →
    NoneLeft dependent ids ledger.held
  planned : ∀ deed ∈ ledger.deeds, mover.Plans suffix ids deed.call
  removed : ∀ deed ∈ ledger.deeds, ∀ filter,
    deed.call = .deleteByQuery mover.root.index filter →
      ∀ dependent ∈ mover.separateDependents, NoneLeft dependent ids ledger.held

theorem together_begun {start : Holdings} (tells : mover.TellsRoots suffix start) :
    mover.Together suffix ids [] ⟨start, []⟩ where
  tells _ := tells
  landed := by
    intro verified
    obtain ⟨_, searched, _⟩ := verified
    cases searched
  copied _ _ _ made := by cases made
  emptied _ _ _ member := by cases member
  planned _ made := by cases made
  removed _ made := by cases made

section Step

variable {history : History} {ledger after : Ledger} {reply : Option call.Reply}

theorem IsVerified.concat (verified : mover.IsVerified suffix ids history) (event : Event) :
    mover.IsVerified suffix ids (history ++ [event]) := by
  obtain ⟨found, searched, enough⟩ := verified
  exact ⟨found, List.mem_append_left _ searched, enough⟩

/-- Before the roots have been found, calls leave them told apart. -/
theorem TellsRoots.afterCall (tells : mover.TellsRoots suffix now)
    (demanded : mover.Demands suffix ids known history call)
    (unverified : ¬mover.IsVerified suffix ids history) :
    mover.TellsRoots suffix (now.after call) := by
  match call with
  | .search request => rwa [Holdings.after_search]
  | .refresh _ => exact tells
  | .ensureExists destination =>
    intro index another id other source copy text home also held there
    rw [Holdings.document?_after_ensureExists] at held there
    exact tells index another id other source copy text home also held there
  | .reindex source destination filter =>
    obtain ⟨_, _, ⟨root, _⟩ | ⟨verified, _⟩⟩ := demanded
    · cases root
      exact tells.copy
    · exact absurd verified unverified
  | .deleteByQuery index filter => exact absurd demanded.verified unverified
  | .bulkWrite _ _ | .bulkDelete _ _ => exact demanded.elim

theorem AllLanded.afterCall (landed : mover.AllLanded suffix ids now)
    (secludes : mover.Secludes suffix)
    (apart : mover.root.index ++ suffix ≠ mover.root.index)
    (obeys : history.Obeys (mover.Demands suffix ids known))
    (demanded : mover.Demands suffix ids known history call)
    (verified : mover.IsVerified suffix ids history) :
    mover.AllLanded suffix ids (now.after call) := by
  have unchanged : ∀ id, (now.after call).document? (mover.root.index ++ suffix) id =
      now.document? (mover.root.index ++ suffix) id := by
    intro id
    have planned := plans_of_demands obeys demanded
    match call with
    | .search request => rw [Holdings.after_search]
    | .refresh _ => rfl
    | .ensureExists destination => rw [Holdings.document?_after_ensureExists]
    | .reindex source destination filter =>
      -- The roots are not copied again, and the other types go elsewhere.
      obtain ⟨_, _, ⟨_, begun⟩ | ⟨_, dependent, separate, same⟩⟩ := demanded
      · exact absurd begun (verified.finals_ne_nil obeys)
      · cases same
        have elsewhere : dependent.index ++ suffix ≠ mover.root.index ++ suffix := by
          intro equal
          exact secludes.fromRoots dependent separate (String.append_left_inj suffix |>.mp equal)
        rw [Holdings.document?_after_reindex, if_neg elsewhere]
    | .deleteByQuery index filter =>
      obtain ⟨transfer, member, rfl, _⟩ := planned
      have elsewhere : transfer.source ≠ mover.root.index ++ suffix := by
        rcases List.mem_cons.mp member with rfl | other
        · exact apart.symm
        · obtain ⟨dependent, separate, rfl⟩ := List.mem_map.mp other
          have live : mover.IsLive mover.root.index := isLive_of_mem List.mem_cons_self
          exact (secludes.fromDestinations dependent separate _ live).symm
      rw [Holdings.document?_after_deleteByQuery, if_neg elsewhere]
    | .bulkWrite _ _ | .bulkDelete _ _ => exact planned.elim
  intro text among
  obtain ⟨id, source, held, rest⟩ := landed text among
  exact ⟨id, source, (unchanged id).trans held, rest⟩

theorem allLanded_of_reply (served : Backend.booked .sighted call ledger reply after)
    (tells : mover.TellsRoots suffix ledger.held)
    (unverified : ¬mover.IsVerified suffix ids history)
    (verified : mover.IsVerified suffix ids (history ++ [⟨call, reply⟩])) :
    mover.AllLanded suffix ids after.held := by
  obtain ⟨found, searched, enough⟩ := verified
  rcases List.mem_append.mp searched with before | new
  · exact absurd ⟨found, before, enough⟩ unverified
  · cases List.mem_singleton.mp new
    obtain ⟨answered, rfl⟩ := Backend.booked_granted served rfl
    have landed := allLanded_of_page tells (Option.some.inj answered).symm enough
    rwa [Ledger.record, Holdings.after_search]

theorem noneLeft_of_reply {dependent : Dependent} (secludes : mover.Secludes suffix)
    (separate : dependent ∈ mover.separateDependents) (planned : mover.Plans suffix ids call)
    (served : Backend.booked .sighted call ledger reply after)
    (outcome : call = (dependentTransfer dependent suffix ids).deletion ∧
        (Event.mk call reply).isGranted = true ∨
      call = (dependentTransfer dependent suffix ids).copying ∧
        (Event.mk call reply).isMissing = true) :
    NoneLeft dependent ids after.held := by
  rcases outcome with ⟨rfl, granted⟩ | ⟨rfl, missing⟩
  · obtain ⟨_, rfl⟩ := Backend.booked_granted served granted
    rw [noneLeft_iff dependent suffix]
    intro id source held
    rw [Ledger.record, Transfer.deletion, Holdings.document?_after_deleteByQuery] at held
    simp only [dependentTransfer, ↓reduceIte] at held
    simpa only [Bool.not_eq_true', dependentTransfer] using (Option.filter_eq_some_iff.mp held).2
  · have absent := Backend.booked_missing served missing
    have none : NoneLeft dependent ids ledger.held := by
      intro id source held
      have nothing : ledger.held.document? dependent.index id = Option.none :=
        Holdings.document?_of_missing _ _ _ absent
      rw [nothing] at held
      cases held
    rcases Backend.booked_effect served with rfl | rfl
    · exact none
    · exact none.afterCall secludes separate planned

/-- A call that is demanded keeps roots and dependents together, whether it takes effect or not. -/
theorem together_maintained (secludes : mover.Secludes suffix)
    (apart : mover.root.index ++ suffix ≠ mover.root.index) :
    mover.Maintains suffix ids known (Backend.booked .sighted) (mover.Together suffix ids) := by
  intro history call ledger reply after obeys demanded served together
  have planned := plans_of_demands obeys demanded
  have took := Backend.booked_effect served
  have stillNone : ∀ dependent ∈ mover.separateDependents,
      NoneLeft dependent ids ledger.held → NoneLeft dependent ids after.held := by
    intro dependent separate none
    rcases took with rfl | rfl
    · exact none
    · exact none.afterCall secludes separate planned
  have deeds : ∀ deed ∈ after.deeds, deed ∈ ledger.deeds ∨ deed = ⟨call, ledger.held⟩ := by
    intro deed made
    rcases took with rfl | rfl
    · exact Or.inl made
    · exact (List.mem_append.mp made).imp_right List.mem_singleton.mp
  constructor
  case tells =>
    intro unverified
    have before : ¬mover.IsVerified suffix ids history :=
      fun verified => unverified (verified.concat _)
    rcases took with rfl | rfl
    · exact together.tells before
    · exact (together.tells before).afterCall demanded before
  case landed =>
    intro verified
    by_cases before : mover.IsVerified suffix ids history
    · have landed := together.landed before
      rcases took with rfl | rfl
      · exact landed
      · exact landed.afterCall secludes apart obeys demanded before
    · exact allLanded_of_reply served (together.tells before) before verified
  case copied =>
    intro dependent separate deed made destination filter same
    rcases deeds deed made with earlier | rfl
    · exact (together.copied dependent separate deed earlier destination filter same).concat _
    · simp only at same
      subst same
      obtain ⟨_, _, ⟨root, _⟩ | ⟨verified, _⟩⟩ := demanded
      · exact absurd root (secludes.ne_rootTransfer separate rfl)
      · exact verified.concat _
  case emptied =>
    intro dependent separate event member outcome
    rcases List.mem_append.mp member with earlier | new
    · exact stillNone dependent separate
        (together.emptied dependent separate event earlier outcome)
    · cases List.mem_singleton.mp new
      exact noneLeft_of_reply secludes separate planned served outcome
  case planned =>
    intro deed made
    rcases deeds deed made with earlier | rfl
    · exact together.planned deed earlier
    · exact planned
  case removed =>
    intro deed made filter same dependent separate
    apply stillNone dependent separate
    rcases deeds deed made with earlier | rfl
    · exact together.removed deed earlier filter same dependent separate
    · simp only at same
      subst same
      rcases demanded.dependents_gone secludes.fromRoots dependent separate with
        ⟨event, among, deletes, granted⟩ | ⟨event, among, copies, missing⟩
      · exact together.emptied dependent separate event among (Or.inl ⟨deletes, granted⟩)
      · exact together.emptied dependent separate event among (Or.inr ⟨copies, missing⟩)

end Step

theorem deletes_of_removed {index id : String} {source : Value}
    (planned : mover.Plans suffix ids call) (held : now.document? index id = some source)
    (gone : (now.after call).document? index id = none) :
    ∃ filter, call = .deleteByQuery index filter := by
  match call with
  | .search request =>
    rw [Holdings.after_search, held] at gone
    cases gone
  | .refresh _ =>
    change now.document? index id = none at gone
    rw [held] at gone
    cases gone
  | .ensureExists destination =>
    rw [Holdings.document?_after_ensureExists, held] at gone
    cases gone
  | .reindex from_ destination filter =>
    rw [Holdings.document?_after_reindex, held] at gone
    split at gone
    · rw [Option.or_eq_none_iff] at gone
      cases gone.2
    · cases gone
  | .deleteByQuery emptied filter =>
    rw [Holdings.document?_after_deleteByQuery] at gone
    split at gone
    · rename_i here
      exact ⟨filter, here ▸ rfl⟩
    · rw [held] at gone
      cases gone
  | .bulkWrite _ _ | .bulkDelete _ _ => exact planned.elim

/-- Wherever a move has come to, and whatever failed: when it has copied dependents, a root is in
its destination for each id of the batch, and when it has removed something from the index of the
roots, no dependent of the batch is live any more. -/
theorem roots_and_dependents_stay_together (mover : Mover) (batch : Batch) (suffix : String)
    (named : mover.namer.suffix batch.finishDate = some suffix)
    (secludes : mover.Secludes suffix) (start : Holdings) (tells : mover.TellsRoots suffix start)
    (recalls : String → Bool) (after : Site Ledger) (rest : Work (Except ArchiveFailure Nat))
    (reached : (mover.move batch).Reaches (Backend.booked .sighted).service
      ⟨⟨start, []⟩, recalls⟩ after rest) :
    (∀ dependent ∈ mover.separateDependents, ∀ deed ∈ after.store.deeds, ∀ destination filter,
      deed.call = .reindex dependent.index destination filter →
        ∀ text ∈ batch.ids, ∃ id source,
          after.store.held.document? (mover.root.index ++ suffix) id = some source ∧
          mover.root.isRoot source = true ∧
          source.textAt mover.root.idField = some text) ∧
    ∀ deed ∈ after.store.deeds, ∀ id source,
      deed.before.document? mover.root.index id = some source →
        deed.after.document? mover.root.index id = none →
          ∀ dependent ∈ mover.separateDependents, ∀ other left,
            after.store.held.document? dependent.index other = some left →
              ∀ text ∈ batch.ids, left.textAt dependent.foreignKey ≠ some text := by
  have together : ∀ dependent ∈ mover.separateDependents, ∃ history,
      mover.Together suffix batch.ids history after.store := by
    intro dependent separate
    by_cases empty : batch.ids = []
    · rw [move, if_pos (List.isEmpty_iff.mpr empty)] at reached
      cases reached
      exact ⟨[], together_begun tells⟩
    · rw [move_of_named empty named] at reached
      have ensured := ensures_moveTo_maintained (fun _ => True) (fun _ => False) mover suffix
        batch.ids ⟨⟨start, []⟩, recalls⟩ (fun _ _ _ _ _ _ => trivial)
        (together_maintained secludes (secludes.root_apart separate)) (together_begun tells)
      obtain ⟨⟨history, _, holds⟩, _⟩ :=
        ensured.holds ⟨[], conduct_begun, together_begun tells⟩ reached
      exact ⟨history, holds⟩
  refine ⟨?_, ?_⟩
  · intro dependent separate deed made destination filter same
    obtain ⟨history, holds⟩ := together dependent separate
    exact holds.landed (holds.copied dependent separate deed made destination filter same)
  · intro deed made id source held gone dependent separate
    obtain ⟨history, holds⟩ := together dependent separate
    obtain ⟨filter, deletes⟩ := deletes_of_removed (holds.planned deed made) held gone
    exact holds.removed deed made filter deletes dependent separate

theorem specimen_home {index id : String} {source : Value} (home : specimen.IsHome "x" index)
    (held : specimenStart.document? index id = some source) : id = "r" := by
  rw [← Holdings.mem_documents_iff] at held
  rcases home with rfl | rfl
  · rw [show specimenStart.documents specimen.root.index = [("r", specimenRoot)] from rfl,
      List.mem_singleton] at held
    exact congrArg Prod.fst held
  · rw [show specimenStart.documents (specimen.root.index ++ "x") = [] from rfl] at held
    cases held

def specimenMoved : Site Ledger × Work (Except ArchiveFailure Nat) :=
  (specimen.move ⟨⟨2024, 1, 1⟩, ["7"]⟩).follow (Backend.serve Backend.book) 40
    ⟨⟨specimenStart, []⟩, fun _ => false⟩

theorem specimenMoved_copied : ∃ deed ∈ specimenMoved.1.store.deeds, ∃ destination filter,
    deed.call = .reindex "events" destination filter := by
  have found : (specimenMoved.1.store.deeds.any fun deed =>
      deed.call.copiedIndex? == some "events") = true := by decide +kernel
  obtain ⟨deed, made, copies⟩ := List.any_eq_true.mp found
  obtain ⟨destination, filter, same⟩ := Call.exists_of_copiedIndex? (beq_iff_eq.mp copies)
  exact ⟨deed, made, destination, filter, same⟩

theorem specimenMoved_removed : ∃ deed ∈ specimenMoved.1.store.deeds, ∃ source,
    deed.before.document? "operate-list-view_" "r" = some source ∧
      deed.after.document? "operate-list-view_" "r" = none := by
  have found : (specimenMoved.1.store.deeds.any fun deed =>
      (deed.before.document? "operate-list-view_" "r").isSome &&
        (deed.after.document? "operate-list-view_" "r").isNone) = true := by decide +kernel
  obtain ⟨deed, made, removes⟩ := List.any_eq_true.mp found
  rw [Bool.and_eq_true, Option.isSome_iff_exists, Option.isNone_iff_eq_none] at removes
  obtain ⟨⟨source, held⟩, gone⟩ := removes
  exact ⟨deed, made, source, held, gone⟩

/-- An event is copied and its root is removed, with all that belongs to the root. -/
theorem event_goes_with_its_root :
    ∃ after rest, (specimen.move ⟨⟨2024, 1, 1⟩, ["7"]⟩).Reaches (Backend.booked .sighted).service
        ⟨⟨specimenStart, []⟩, fun _ => false⟩ after rest ∧
      (∃ id source,
        after.store.held.document? ("operate-list-view_" ++ "x") id = some source ∧
        specimen.root.isRoot source = true ∧ source.textAt "key" = some "7") ∧
      ∀ other left, after.store.held.document? "events" other = some left →
        ∀ text ∈ ["7"], left.textAt "workflowInstanceKey" ≠ some text := by
  have reached := Dialogue.reaches_follow (Backend.serve Backend.book)
    (Backend.service_serve (Backend.booked .sighted) _ (Backend.booked_book .sighted)) 40
    ⟨⟨specimenStart, []⟩, fun _ => false⟩ (specimen.move ⟨⟨2024, 1, 1⟩, ["7"]⟩)
  have secludes : specimen.Secludes "x" := by
    have separates := specimen_separates (· = "x") fun _ marked => marked
    constructor
    · decide
    · intro dependent separate base live
      exact separates.apart "x" rfl base _ live
        (isLive_of_mem (List.mem_cons_of_mem _ (List.mem_map_of_mem separate)))
  have tells : specimen.TellsRoots "x" specimenStart := by
    intro index another id other source copy text home also held there _ _ _ _
    exact (specimen_home home held).trans (specimen_home also there).symm
  obtain ⟨landed, emptied⟩ := roots_and_dependents_stay_together specimen ⟨⟨2024, 1, 1⟩, ["7"]⟩ "x"
    rfl secludes specimenStart tells (fun _ => false) _ _ reached
  obtain ⟨copying, made, destination, filter, copies⟩ := specimenMoved_copied
  obtain ⟨removing, also, source, held, gone⟩ := specimenMoved_removed
  refine ⟨_, _, reached, ?_, ?_⟩
  · exact landed (.separate "event" "events") (by decide) copying made destination filter copies "7"
      List.mem_cons_self
  · exact emptied removing also "r" source held gone (.separate "event" "events") (by decide)

end Mover

end Archivist
