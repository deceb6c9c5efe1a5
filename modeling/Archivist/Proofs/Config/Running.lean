import Archivist.Proofs.Config.Checks
import Archivist.Proofs.Cycle.Ending
import Archivist.Proofs.Dialogue.Rehearsal

set_option autoImplicit false

namespace Archivist

open Calendar (Date Instant Pattern PatternItem)
open Json (Value)
open Rehearsal (World carryOn)

namespace Settings

/-- Settings that have passed their checks describe an archiver if the minimum age does not lead out
of the calendar and destinations are dated by what a date has. Whatever fails on the way, no search
of its cycles breaks off as long as the roots that may be due have an order, and its cycles give a
result unless they run out of turns. Where those roots have ids of one kind there are turns
enough. -/
theorem checked_settings_run (settings : Settings) (checked : settings.fault? = none)
    (short : settings.archiver.minAgeSeconds ≤ longestAge)
    (dated : ∀ pattern, Pattern.read settings.archiver.datePattern = some pattern →
      pattern.all PatternItem.isOfDate = true) :
    ∃ archiver, settings.archiver? = .ok archiver ∧
      ∀ now : Instant, now.nanos < 2 * Calendar.nanosPerSecond →
        1970 ≤ Date.yearOfDay (now.seconds / Calendar.secondsPerDay) →
        Date.yearOfDay (now.seconds / Calendar.secondsPerDay) ≤ 9998 →
        ∃ cutoff, archiver.finder.cutoff now = some cutoff ∧
          ∀ (start : Holdings) (recalls : String → Bool),
            (archiver.finder.Orders (· ∈ archiver.prospects cutoff start) → ∀ fuel,
              (Backend.steady .any (fun _ => True) (· = .exhausted)).Ensures (fun _ _ => True)
                (archiver.cycle fuel now) ⟨start, recalls⟩) ∧
            ∀ kind : Kind, archiver.Alike cutoff start kind → ∀ fuel,
              (archiver.prospects cutoff start).length * (max archiver.batchSize 1 + 1) + 2 ≤ fuel →
              (Backend.steady .any (fun _ => True) fun _ => False).Ensures (fun _ _ => True)
                (archiver.cycle fuel now) ⟨start, recalls⟩ := by
  obtain ⟨namer, offset, named, near, wired⟩ := archiver?_of_checked checked
  have spans : ¬Instant.longestSpan < settings.archiver.minAgeSeconds * 1000 := by
    have longest : longestAge * 1000 ≤ Instant.longestSpan := by decide
    omega
  rw [if_neg spans] at wired
  refine ⟨_, wired, fun now whole early late => ?_⟩
  obtain ⟨cutoff, begins⟩ := Finder.exists_cutoff ⟨settings.root, _, offset,
    settings.archiver.rollover, settings.archiver.retryPolicy⟩ now whole early late short
  have named : ∀ date, (namer.suffix date).isSome = true := by
    intro date
    rw [Namer.suffix, Pattern.isSome_format]
    rw [Namer.ofText] at named
    split at named
    · cases named
    split at named
    · rename_i pattern read
      cases named
      exact dated pattern read
    · cases named
  refine ⟨cutoff, begins, fun start recalls =>
    ⟨fun orders fuel => ?_, fun kind alike fuel enough => ?_⟩⟩
  · apply Archiver.ensures_cycle_steady
    · exact begins
    · rfl
    · exact orders
    · apply Archiver.ensures_tireless
      · exact named
      · exact near
      · exact ⟨cutoff, begins⟩
  · apply Archiver.ensures_cycle_steady
    · exact begins
    · rfl
    · exact alike.orders
    · exact Archiver.ensures_ends named near rfl alike begins fuel enough recalls

theorem standard_is_checked : standard.fault? = none := by decide +kernel

def specimenRoots : Holdings :=
  Holdings.empty.write standard.root.index [("r", Mover.specimenRoot)]

theorem specimenRoots_only {index id : String} {source : Value}
    (held : specimenRoots.document? index id = some source) : source = Mover.specimenRoot := by
  rw [specimenRoots, Holdings.document?_write _ _ _ _ _ (List.pairwise_singleton _ _)] at held
  split at held
  · rcases Option.or_eq_some_iff.mp held with new | ⟨_, before⟩
    · have member := Json.mem_of_memberOf? id source _ new
      exact (Prod.mk.inj (List.mem_singleton.mp member)).2
    · cases before
  · cases held

/-- With the standard settings no search breaks off over a single root, and a cycle over it ends. -/
theorem standard_settings_run :
    ∃ archiver, standard.archiver? = .ok archiver ∧
      (∀ fuel, (Backend.steady .any (fun _ => True) (· = .exhausted)).Ensures (fun _ _ => True)
        (archiver.cycle fuel ⟨1704200000, 0⟩) ⟨specimenRoots, fun _ => false⟩) ∧
      ∃ fuel, (Backend.steady .any (fun _ => True) fun _ => False).Ensures (fun _ _ => True)
        (archiver.cycle fuel ⟨1704200000, 0⟩) ⟨specimenRoots, fun _ => false⟩ := by
  obtain ⟨archiver, wired, runs⟩ := checked_settings_run standard standard_is_checked (by decide)
    (by decide +kernel)
  obtain ⟨cutoff, _, runs⟩ := runs ⟨1704200000, 0⟩ (by decide) (by decide) (by decide)
  have root : archiver.finder.root = .standard := by
    obtain ⟨_, _, _, _, same⟩ := archiver?_of_checked standard_is_checked
    rw [if_neg (by decide)] at same
    cases wired.symm.trans same
    rfl
  have alike : archiver.Alike cutoff specimenRoots .number := by
    intro source member
    obtain ⟨_, index, id, _, held⟩ := Archiver.mem_prospects.mp member
    rw [specimenRoots_only held, root]
    exact ⟨.nat 7, rfl, rfl⟩
  obtain ⟨ordered, ends⟩ := runs specimenRoots fun _ => false
  exact ⟨archiver, wired, ordered alike.orders, _, ends .number alike _ (Nat.le_refl _)⟩

/-- Settings with a minimum age as long as a signed number of seconds may be. -/
def ageless : Settings :=
  { standard with archiver := { ArchiverSettings.standard with minAgeSeconds := 2 ^ 63 - 1 } }

def hourly : Settings :=
  { standard with archiver := { ArchiverSettings.standard with datePattern := "%Y-%m-%d-%H" } }

def specimenOf (id : Value) : Value := .ofMembers [
  ("joinRelation", .text "workflowInstance"), ("key", id), ("partitionId", .nat 1),
  ("endDate", .text "2024-01-01T13:00:00Z")]

/-- A store of roots of which the first has a text for an id and all others have numbers. -/
def mixedRoots : Holdings :=
  Holdings.empty.write standard.root.index
    (("00", specimenOf (.text "1x")) :: (List.range 20).map fun number =>
      (Numeral.zeroPadded 2 (number + 1), specimenOf (.nat (number + 1))))

/-- The checks let settings pass that describe no archiver, and settings with which no destination
has a name. With the standard settings a cycle may break off where roots have no order. -/
theorem checks_let_faults_pass :
    (ageless.fault? = none ∧ ageless.archiver? = .error (.crash .ageTooLong)) ∧
    (hourly.fault? = none ∧ ∃ namer, hourly.archiver.namer = .ok namer ∧
      ∀ date, namer.suffix date = none) ∧
    standard.fault? = none ∧ ∃ archiver, standard.archiver? = .ok archiver ∧
      (carryOn .job { World.begin ⟨1704200000, 0⟩ with store := ⟨mixedRoots, [], []⟩ }
        (archiver.cycle 4 ⟨1704200000, 0⟩)).2.cause? = some .noOrder := by
  refine ⟨⟨by decide +kernel, by decide +kernel⟩, ⟨by decide +kernel, ?_⟩, standard_is_checked, ?_⟩
  · have read : hourly.archiver.namer = .ok ⟨[.part .year .zeros, .literal ['-'],
        .part .month .zeros, .literal ['-'], .part .day .zeros, .literal ['-'], .clockNumber]⟩ := by
      decide +kernel
    refine ⟨_, read, fun date => ?_⟩
    rw [Namer.suffix, ← Option.not_isSome_iff_eq_none, Pattern.isSome_format]
    decide
  · obtain ⟨namer, offset, _, _, wired⟩ := archiver?_of_checked standard_is_checked
    rw [if_neg (by decide)] at wired
    have broken : (match standard.archiver? with
        | .ok archiver => (carryOn .job
            { World.begin ⟨1704200000, 0⟩ with store := ⟨mixedRoots, [], []⟩ }
            (archiver.cycle 4 ⟨1704200000, 0⟩)).2.cause?
        | .error _ => none) = some .noOrder := by decide +kernel
    rw [wired] at broken
    exact ⟨_, wired, broken⟩

end Settings

end Archivist
