import Archivist.Proofs.Cycle.Sweep
import Archivist.Proofs.Store.Outage

set_option autoImplicit false

namespace Archivist

open Calendar (Instant)

namespace Archiver

variable {archiver : Archiver} {cutoff : Instant} {start : Holdings}

theorem finds_of_nobody (archiver : Archiver) (cutoff : Instant) (source : Json.Value) :
    (archiver.owning ⟨[]⟩).finds cutoff source = false := by
  refine Bool.eq_false_iff.mpr fun found => ?_
  obtain ⟨_, ⟨_, owned, _⟩, _⟩ := finds_iff.mp found
  cases owned

theorem ensures_calm_of_company {Result : Type} {done : Result → Holdings → Prop}
    {ours theirs : Holdings → Holdings → Prop} {work : Work Result}
    (idle : ∀ held, theirs held held) (site : Site Ledger) (proper : Backend.Proper ours site)
    (ensured : (Backend.company theirs ours).Ensures
      (fun result after => done result after.store.held) work site) :
    Backend.calm.Ensures (fun result after => done result after.store) work site.contents := by
  refine (Setting.Ensures.simulate
    (fun (here : Site Holdings) (there : Site Ledger) => there.contents = here)
    ?permitted ?answered (fun _ _ _ _ => trivial) (fun _ => False.elim) rfl proper ensured).mono
    ?ended
  case permitted =>
    intro question state there same permits
    cases question <;> exact permits
  case answered =>
    intro question state there answer after same _ served
    obtain rfl := same
    cases question with
    | attempt call limit =>
      obtain ⟨answered, recalls⟩ := served
      obtain ⟨rfl, took⟩ := Backend.outages_calm answered
      obtain ⟨store, recalled⟩ := after
      obtain rfl := took
      obtain rfl := recalls
      exact ⟨⟨there.store.record call, there.recalls⟩,
        ⟨Backend.shared_of_relies (idle _), rfl⟩, rfl⟩
    | recalls destination =>
      obtain ⟨rfl, rfl⟩ := served
      exact ⟨there, ⟨rfl, rfl⟩, rfl⟩
    | remember destination =>
      obtain rfl := served
      exact ⟨_, rfl, rfl⟩
    | rest _ | enter _ | count _ _ =>
      obtain rfl := served
      exact ⟨there, rfl, rfl⟩
  case ended =>
    intro result after reached
    obtain ⟨there, rfl, _, ended⟩ := reached
    exact ended

/-- A cycle that nothing goes wrong in archives everything that is due, and says how many roots
that were. -/
theorem ensures_cycle_calm (healthy : archiver.Healthy cutoff start) (now : Instant)
    (begins : archiver.finder.cutoff now = some cutoff) (site : Site Holdings)
    (safe : archiver.IsSafe cutoff start site)
    (fuel : Nat) (enough : 2 * (archiver.listing cutoff site.store).length + 2 ≤ fuel) :
    Backend.calm.Ensures (fun outcome after =>
      outcome = .ok (archiver.listing cutoff site.store).length ∧
        archiver.Archived cutoff start after.store) (archiver.cycle fuel now) site := by
  have alone : Backend.Proper (archiver.Steps archiver.partitions cutoff start)
      ⟨⟨site.store, []⟩, site.recalls⟩ := nofun
  have ensured := ensures_cycle_company archiver.partitions ⟨[]⟩ healthy (fun _ => id)
    now begins ⟨⟨site.store, []⟩, site.recalls⟩ safe alone
    (advances_refl _ _ _ _ site.store) fuel enough
  refine (ensures_calm_of_company (advances_refl _ _ _ _) _ alone ensured).mono ?_
  intro outcome after reached
  obtain ⟨moved, rfl, swept⟩ := reached
  have counted := swept.length_eq (healthy.between safe.recoverable.between)
    fun source _ => finds_of_nobody archiver cutoff source
  exact ⟨congrArg Except.ok counted, swept.recoverable.archived_of_listing healthy swept.emptied⟩

end Archiver

end Archivist
