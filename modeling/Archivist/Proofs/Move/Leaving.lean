import Archivist.Proofs.Move.Asking
import Archivist.Proofs.Move.Effect
import Archivist.Proofs.Store.Outage

set_option autoImplicit false

namespace Archivist

namespace Mover

variable {mover : Mover} {suffix : String} {ids : List String} {troubles : Troubles}

theorem Apart.allows_spares (apart : mover.Apart suffix)
    (elsewhere : ∀ dependent ∈ mover.separateDependents, dependent.index ≠ mover.root.index) :
    mover.Allows suffix ids (Holdings.Spares mover.root.index) where
  verifies := trivial
  refreshes _ _ := trivial
  makes _ _ := trivial
  copies _ planned := apart.destination_ne planned (isLive_of_mem List.mem_cons_self)
  deletes dependent listed := elsewhere dependent listed

theorem ensures_clear_faulty (apart : mover.Apart suffix)
    (elsewhere : ∀ dependent ∈ mover.separateDependents, dependent.index ≠ mover.root.index)
    (site : Site Holdings) :
    (Backend.faults troubles).Ensures
      (fun _ after =>
        after.store.documents mover.root.index = site.store.documents mover.root.index)
      (mover.clear suffix ids) site := by
  refine Backend.ensures_making (Work.makes_within (asks_clear (apart.allows_spares elsewhere)))
    (fun now => now.documents mover.root.index = site.store.documents mover.root.index) ?_
    (fun _ _ => trivial) site rfl
  intro call now reply after spares same served
  rcases served with ⟨_, took⟩ | ⟨_, _, _, unchanged⟩
  · rw [took, now.documents_after_of_spares spares, same]
  · rw [unchanged, same]

/-- What a move of some roots has left of the documents in their index. -/
def LeavesBehind (mover : Mover) (suffix : String) (ids : List String) (before after : Documents) :
    Except ArchiveFailure Nat → Prop
  | .ok count => count = ids.length ∧ after = before.filter fun document =>
    !(mover.rootTransfer suffix ids).filter.accepts document.2
  | .error _ => after = before

/-- Where failures have no effect, a move that fails has taken nothing out of the index of the
roots. -/
theorem ensures_moveTo_faulty (apart : mover.Apart suffix)
    (elsewhere : ∀ dependent ∈ mover.separateDependents, dependent.index ≠ mover.root.index)
    (site : Site Holdings) :
    (Backend.faults troubles).Ensures
      (fun result after => mover.LeavesBehind suffix ids (site.store.documents mover.root.index)
        (after.store.documents mover.root.index) result)
      (mover.moveTo suffix ids) site := by
  rw [moveTo_eq, Setting.ensures_andThen]
  refine (ensures_clear_faulty apart elsewhere site).mono ?_
  intro cleared between same
  rcases cleared with failure | _
  · exact same
  simp only
  rw [Setting.ensures_andThen, deleteAll, Setting.ensures_andThen, Setting.ensures_mapFailure,
    Setting.ensures_onFailure, ← same]
  refine Backend.ensures_call_faulty _ _ _ between _ ?answered ?failed
  case answered =>
    intro count _
    exact ⟨rfl, between.store.documents_after_deleteByQuery _ _⟩
  case failed => exact fun failure => Backend.ensures_count _ _ between _ trivial rfl

end Mover

end Archivist
