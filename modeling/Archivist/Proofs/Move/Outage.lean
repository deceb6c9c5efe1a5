import Archivist.Proofs.Move.Effect
import Archivist.Proofs.Move.Preservation
import Archivist.Proofs.Store.Outage

set_option autoImplicit false

namespace Archivist

variable {troubles : Troubles} {mover : Mover} {suffix : String} {ids : List String}

/-- What a reply tells about a store. -/
structure Event.Kept (event : Event) (honest : Prop) (now : Holdings) : Prop where
  made : ∀ destination, event.call = .ensureExists destination → event.isGranted = true →
    (now.documents? destination).isSome = true
  copied : ∀ transfer : Transfer, event.call = transfer.copying → event.isGranted = true →
    ∀ id source, now.document? transfer.source id = some source →
      transfer.filter.accepts source = true →
        now.document? transfer.destination id = some source
  deleted : ∀ index filter, event.call = .deleteByQuery index filter → event.isGranted = true →
    ∀ id source, now.document? index id = some source → filter.accepts source = false
  absent : honest → ∀ transfer : Transfer, event.call = transfer.copying →
    event.isMissing = true → now.documents? transfer.source = none

namespace Mover

theorem kept_of_reply {call : Call} {now after : Holdings} {reply : Option call.Reply}
    (apart : mover.Apart suffix) (planned : mover.Plans suffix ids call)
    (served : Backend.outages troubles call now reply after) :
    Event.Kept ⟨call, reply⟩ troubles.Honest after := by
  constructor
  · intro destination same granted
    obtain rfl := same
    rw [Backend.outages_granted served granted, Holdings.isSome_after_ensureExists]
    simp only [decide_true, Bool.true_or]
  · intro transfer same granted id source held accepted
    obtain rfl := same
    have elsewhere := apart.destination_ne planned (isLive_source planned)
    rw [Backend.outages_granted served granted, Transfer.copying,
      Holdings.document?_after_reindex] at held ⊢
    simp only [elsewhere, ↓reduceIte] at held
    simp only [↓reduceIte, held, Option.filter_some, accepted, Option.some_or]
  · intro index filter same granted id source held
    obtain rfl := same
    rw [Backend.outages_granted served granted, Holdings.document?_after_deleteByQuery] at held
    simp only [↓reduceIte] at held
    simpa only [Bool.not_eq_true', Bool.not_eq_eq_eq_not, Bool.not_true] using
      (Option.filter_eq_some_iff.mp held).2
  · intro honest transfer same missing
    obtain rfl := same
    obtain ⟨rfl, rfl⟩ := Backend.outages_missing served honest missing
    have absent := Holdings.documents?_of_isMissing missing
    rw [Transfer.copying, Holdings.after, Holdings.perform, absent]
    exact absent

/-- A change of a store that takes back nothing of what the replies to a move's calls have told. -/
structure Upholds (mover : Mover) (suffix : String) (ids : List String) (now after : Holdings) :
    Prop where
  grows : ∀ index, (now.documents? index).isSome = true → (after.documents? index).isSome = true
  stays : ∀ index, mover.IsLive index → ∀ id source,
    after.document? index id = some source → now.document? index id = some source
  lasts : ∀ transfer ∈ mover.transfers suffix ids, ∀ id source,
    now.document? transfer.source id = some source →
      now.document? transfer.destination id = some source →
        after.document? transfer.destination id = some source
  absent : ∀ index, mover.IsLive index → (after.documents? index).isSome = true →
    (now.documents? index).isSome = true

variable {now after : Holdings}

theorem Upholds.kept {event : Event} {honest : Prop} (upholds : mover.Upholds suffix ids now after)
    (planned : mover.Plans suffix ids event.call) (kept : event.Kept honest now) :
    event.Kept honest after where
  made destination same granted := upholds.grows destination (kept.made destination same granted)
  copied transfer same granted id source held accepted := by
    rw [same] at planned
    have before := upholds.stays _ (isLive_source planned) id source held
    exact upholds.lasts transfer planned id source before
      (kept.copied transfer same granted id source before accepted)
  deleted index filter same granted id source held := by
    rw [same] at planned
    obtain ⟨transfer, member, rfl, rfl⟩ := planned
    exact kept.deleted _ _ same granted id source
      (upholds.stays _ (isLive_source member) id source held)
  absent honest transfer same missing := by
    rw [same] at planned
    have absent := kept.absent honest transfer same missing
    rw [← Option.not_isSome_iff_eq_none] at absent ⊢
    exact fun there => absent (upholds.absent _ (isLive_source planned) there)

theorem Effect.upholds {call : Call} (effect : mover.Effect suffix ids call now after)
    (apart : mover.Apart suffix) : mover.Upholds suffix ids now after where
  grows := effect.grows
  stays := effect.live
  lasts transfer planned id source held there := by
    rcases effect.arrives _ (apart.not_isLive planned) id with
      unchanged | ⟨other, also, here, moved, from_, _, arrived⟩
    · rwa [unchanged]
    · -- Only the document itself can have been copied there.
      rw [source_eq_of_destination_eq also planned here, held] at from_
      cases from_
      exact arrived
  absent index live there := by
    refine (effect.makes index there).resolve_right ?_
    intro given
    obtain ⟨transfer, planned, here⟩ := given
    exact apart.destination_ne planned live here

variable {known : String → Bool} {history : History} {honest : Prop}

theorem Ready.made (ready : mover.Ready suffix ids history)
    (obeys : history.Obeys (mover.Demands suffix ids known))
    (kept : ∀ event ∈ history, event.Kept honest now)
    (mindful : ∀ destination, known destination = true →
      (now.documents? destination).isSome = true) :
    ∀ transfer ∈ mover.transfers suffix ids,
      (now.documents? transfer.destination).isSome = true := by
  intro transfer planned
  obtain ⟨event, inHistory, copies⟩ := ready.exists_copying transfer planned
  obtain ⟨before, later, split⟩ := List.append_of_mem inHistory
  have warranted := obeys before event later split
  rw [copies] at warranted
  rcases warranted.2.1 with recalled | ⟨ensuring, earlier, ensures, granted⟩
  · exact mindful _ recalled
  · have within : ensuring ∈ history := split ▸ List.mem_append_left _ earlier
    exact (kept ensuring within).made _ ensures granted

/-- When all that was copied has been deleted, nothing that a move takes along is live any more. -/
theorem Ready.emptied (ready : mover.Ready suffix ids history) (honestly : honest)
    (kept : ∀ event ∈ history, event.Kept honest now)
    (deleted : List.Forall₂ Deletes history.copied.reverse (history.finals .deleteByQuery)) :
    ∀ transfer ∈ mover.transfers suffix ids, ∀ id source,
      now.document? transfer.source id = some source → transfer.filter.accepts source = false := by
  have gone : ∀ transfer ∈ history.copied, ∀ id source,
      now.document? transfer.source id = some source →
        transfer.filter.accepts source = false := by
    intro transfer copied id source held
    obtain ⟨event, final, deletes, granted⟩ :=
      exists_of_forall₂ deleted transfer (List.mem_reverse.mpr copied)
    exact (kept event (mem_of_mem_finals final)).deleted _ _ deletes granted id source held
  obtain ⟨root, others, finals, same, success, settled⟩ := ready.settled
  have copied := copied_of_finals finals same success
  intro transfer planned id source held
  rcases List.mem_cons.mp planned with rfl | later
  · exact gone _ (copied ▸ List.mem_cons_self) id source held
  obtain ⟨dependent, listed, rfl⟩ := List.mem_map.mp later
  obtain ⟨event, there, copies, outcome⟩ := exists_of_forall₂ settled dependent listed
  rcases outcome with granted | ⟨_, missing⟩
  · refine gone _ (copied ▸ List.mem_cons_of_mem _ ?_) id source held
    exact List.mem_filterMap.mpr ⟨event, there, event.copied?_of_isGranted _ copies granted⟩
  · -- A type that was passed over has no index, and so no documents.
    have inHistory := mem_of_mem_finals (finals ▸ List.mem_cons_of_mem root there)
    have absent := (kept event inHistory).absent honestly _ copies missing
    cases held.symm.trans (now.document?_of_missing _ id absent)

/-- Something of a store outlasts the calls that are warranted, whether they take effect or not. -/
def Preserves (mover : Mover) (suffix : String) (ids : List String) (known : String → Bool)
    (troubles : Troubles) (invariant : Holdings → Prop) : Prop :=
  ∀ history call now after, history.Obeys (mover.Demands suffix ids known) →
    mover.Demands suffix ids known history call →
    (∀ event ∈ history, event.Kept troubles.Honest now) →
    (after = now ∨ after = now.after call) → mover.Effect suffix ids call now after →
    invariant now → invariant after

/-- What the warranted calls preserve, and what a store has replied, stays true while only the move
writes to it. -/
theorem Preserves.maintains {invariant : Holdings → Prop} (apart : mover.Apart suffix)
    (keeps : mover.Preserves suffix ids known troubles invariant) :
    mover.Maintains suffix ids known (Backend.outages troubles) fun history now =>
      invariant now ∧ ∀ event ∈ history, event.Kept troubles.Honest now := by
  intro history call now reply after obeys demanded served held
  obtain ⟨holds, kept⟩ := held
  have planned := plans_of_demands obeys demanded
  have took := Backend.outages_effect served
  have effect : mover.Effect suffix ids call now after := by
    rcases took with rfl | rfl
    · exact effect_refl call _
    · exact effect_after _ apart planned
  refine ⟨keeps _ call _ _ obeys demanded kept took effect holds, fun event member => ?_⟩
  rcases List.mem_append.mp member with before | new
  · exact (effect.upholds apart).kept (plans_of_mem obeys before) (kept event before)
  · cases List.mem_singleton.mp new
    exact kept_of_reply apart planned served

/-- A move preserves what its warranted calls preserve, wherever it is cut off, and remembers only
destinations that it knew or that are there. -/
theorem ensures_moveTo_outages (troubles : Troubles) (rests invariant : Holdings → Prop)
    (excuses : Crash → Prop) (mover : Mover) (suffix : String) (ids : List String)
    (apart : mover.Apart suffix) (site : Site Holdings)
    (restful : (Backend.outages troubles).Restful rests)
    (keeps : mover.Preserves suffix ids site.recalls troubles invariant)
    (begun : invariant site.store) :
    ((Backend.outages troubles).setting rests (fun after => invariant after.store ∧
        ∀ destination, after.recalls destination = true → site.recalls destination = true ∨
          (after.store.documents? destination).isSome = true) excuses).Ensures
      (fun _ after => invariant after.store ∧
        ∀ destination, after.recalls destination = true → site.recalls destination = true ∨
          (after.store.documents? destination).isSome = true)
      (mover.moveTo suffix ids) site := by
  have holds : ∀ after : Site Holdings, ∀ history,
      mover.Honors suffix ids site.recalls (fun history now =>
        invariant now ∧ ∀ event ∈ history, event.Kept troubles.Honest now) after history →
      invariant after.store ∧
        ∀ destination, after.recalls destination = true → site.recalls destination = true ∨
          (after.store.documents? destination).isSome = true := by
    intro after history honors
    obtain ⟨conduct, holds, kept⟩ := honors
    refine ⟨holds, fun destination recalled => ?_⟩
    refine (conduct.mindful destination recalled).imp_right ?_
    intro given
    obtain ⟨event, member, same, granted⟩ := given
    exact (kept event member).made destination same granted
  have ensured := ensures_moveTo_maintained rests excuses mover suffix ids site restful
    (keeps.maintains apart)
    ⟨begun, by simp only [List.not_mem_nil, false_implies, implies_true]⟩
  refine (ensured.mono ?_).relax (fun _ _ _ _ => id) (fun _ _ => id) ?_ fun _ => id
  · intro result after reached
    obtain ⟨history, honors, _⟩ := reached
    exact holds after history honors
  · intro after reached
    obtain ⟨history, honors⟩ := reached
    exact holds after history honors

end Mover

end Archivist
