import Archivist.Proofs.Cycle.Drawing
import Archivist.Proofs.Cycle.Recovery

set_option autoImplicit false

namespace Archivist

open Calendar (Instant)
open Json (Value)

namespace Archiver

variable {archiver : Archiver} {cutoff : Instant} {start : Holdings} {troubles : Troubles}

theorem Recoverable.showsDue {now : Holdings} (recoverable : archiver.Recoverable cutoff start now)
    (healthy : archiver.Healthy cutoff start) : archiver.ShowsDue cutoff start now := by
  intro record held found
  have original := recoverable.between.stays _ healthy.isLive_root _ _ held
  obtain ⟨_, _, _, named, _⟩ := healthy.exists_text original (isRoot_of_finds found)
  exact ⟨original, found, _, named⟩

/-- Cycles in front of a store that may fail, where it can be recovered at every moment. -/
def trouble (archiver : Archiver) (cutoff : Instant) (start : Holdings) (troubles : Troubles) :
    Setting Action.Yield (Site Holdings) :=
  (Backend.outages troubles).setting (fun _ => True) (archiver.IsSafe cutoff start) fun _ => True

theorem ensures_cycle_trouble (healthy : archiver.Healthy cutoff start) (honest : troubles.Honest)
    (now : Instant) (begins : archiver.finder.cutoff now = some cutoff) (fuel : Nat)
    (site : Site Holdings) (safe : archiver.IsSafe cutoff start site) :
    (archiver.trouble cutoff start troubles).Ensures
      (fun _ after => archiver.IsSafe cutoff start after) (archiver.cycle fuel now) site := by
  refine ensures_cycle_outages start fuel safe ?shown ?moved
  case shown =>
    intro other after same still
    cases begins.symm.trans same
    exact still.recoverable.showsDue healthy
  case moved =>
    intro other after batch suffix same still gathers named
    cases begins.symm.trans same
    exact ensures_moveTo_safe _ _ healthy honest (fun _ _ _ _ _ _ => trivial) gathers.nonempty
      (gathers.isDue named) after still

/-- Cycles with one clock reading, one after the other. Each may fail in the ways that are allowed
and may be cut off anywhere, and an archiver that starts anew remembers nothing. -/
inductive Cycles (archiver : Archiver) (troubles : Troubles) (now : Instant)
    (start : Site Holdings) : Site Holdings → Prop where
  | begun : Cycles archiver troubles now start start
  | cycled {before : Site Holdings} (earlier : Cycles archiver troubles now start before)
      (fuel : Nat) (after : Site Holdings) (rest : Work Cycle.Outcome)
      (reached : (archiver.cycle fuel now).Reaches (Backend.outages troubles).service before after
        rest) :
    Cycles archiver troubles now start after
  | restarted {before : Site Holdings} (earlier : Cycles archiver troubles now start before) :
    Cycles archiver troubles now start ⟨before.store, fun _ => false⟩

theorem Cycles.safe {now : Instant} {begun after : Site Holdings}
    (cycles : archiver.Cycles troubles now begun after)
    (healthy : archiver.Healthy cutoff begun.store) (honest : troubles.Honest)
    (begins : archiver.finder.cutoff now = some cutoff) (mindful : IsMindful begun) :
    archiver.IsSafe cutoff begun.store after := by
  induction cycles with
  | begun => exact ⟨recoverable_refl archiver cutoff begun.store, mindful⟩
  | cycled earlier fuel after rest reached ih =>
    have ensured := ensures_cycle_trouble healthy honest now begins fuel _ ih
    exact (ensured.holds ih reached).1
  | restarted earlier ih => exact ⟨ih.recoverable, nofun⟩

end Archiver

end Archivist
