import Archivist.Archive.Discovery
import Archivist.Cluster.Query
import Archivist.Proofs.Calendar.Written
import Archivist.Proofs.Move.Selection

set_option autoImplicit false

namespace Archivist

open Calendar (Instant)
open Json (Value)

theorem Finder.isOnClock_cutoff {finder : Finder} {now cutoff : Instant} (onClock : now.IsOnClock)
    (begins : finder.cutoff now = some cutoff) : cutoff.IsOnClock :=
  Instant.isOnClock_of_shift onClock (by decide) begins

namespace Filter

theorem accepts_upTo {source : Value} {field : String} {limit : Instant} :
    (Filter.upTo field limit).accepts source = true ↔
      ∃ endDate, source.instantAt field = some endDate ∧ endDate.isAtMost limit = true := by
  simp only [accepts, Value.instantAt]
  cases (source.member? field).bind instantOf? with
  | none => simp
  | some endDate => simp

variable {limit : Instant}

/-- The limit that is written for a cluster can be read, and it is the one that is meant or less than
a millisecond before it. Whatever passes by it passes by the limit that is meant, and the other way
round only documents are lost that ended in the last millisecond before that. -/
theorem written_limits_are_never_later (onClock : limit.IsOnClock) (begun : 0 ≤ limit.year)
    (ended : limit.year ≤ 9999) (field : String) :
    ∃ written bound,
      (Filter.upTo field limit).query =
        .single "range" (.single field (.single "lte" (.text written))) ∧
      Instant.read written = some bound ∧
      bound.isAtMost limit = true ∧ bound.IsShortlyBefore limit ∧
      ∀ source,
        ((Filter.upTo field bound).accepts source = true →
          (Filter.upTo field limit).accepts source = true) ∧
        ((Filter.upTo field limit).accepts source = true →
          (Filter.upTo field bound).accepts source = false →
            ∃ endDate, source.instantAt field = some endDate ∧
              endDate.isAtMost bound = false ∧ endDate.IsShortlyBefore limit) := by
  have shortly := limit.floorMillis_isShortlyBefore
  refine ⟨limit.text, limit.floorMillis, rfl, Instant.read_text onClock begun ended,
    shortly.isAtMost, shortly, fun source => ⟨?_, ?_⟩⟩
  · intro passes
    obtain ⟨endDate, timed, early⟩ := accepts_upTo.mp passes
    exact accepts_upTo.mpr ⟨endDate, timed, Instant.isAtMost_trans early shortly.isAtMost⟩
  · intro passes stays
    obtain ⟨endDate, timed, early⟩ := accepts_upTo.mp passes
    have late : endDate.isAtMost limit.floorMillis = false := by
      rw [← Bool.not_eq_true] at stays ⊢
      exact fun earlier => stays (accepts_upTo.mpr ⟨endDate, timed, earlier⟩)
    exact ⟨endDate, timed, late, Instant.isShortlyBefore_of_floorMillis late early⟩

/-- A clock that stands in a leap second before 1970, and a root that ended in the same second. -/
theorem leap_second_limit_is_cut :
    let finder : Finder := ⟨.standard, 0, 0, .day, ⟨0, 5, 5, 5⟩⟩
    let now : Instant := ⟨-31536001, 1250900000⟩
    let ended : Value := .object [("endDate", .text "1968-12-31T22:29:60.2507-01:30")]
    Instant.read "1968-12-31T23:59:60.2509Z" = some now ∧ finder.cutoff now = some now ∧
      (Filter.upTo "endDate" now).query = .single "range" (.single "endDate"
        (.single "lte" (.text "1968-12-31T23:59:60.250Z"))) ∧
      (∀ source, (Filter.upTo "endDate" ⟨-31536001, 1250000000⟩).accepts source = true →
        (Filter.upTo "endDate" now).accepts source = true) ∧
      (Filter.upTo "endDate" now).accepts ended = true ∧
      (Filter.upTo "endDate" ⟨-31536001, 1250000000⟩).accepts ended = false := by
  intro finder now ended
  have read : Instant.read "1968-12-31T23:59:60.2509Z" = some now := by decide +kernel
  have begins : finder.cutoff now = some now := by decide +kernel
  have onClock := Finder.isOnClock_cutoff (Instant.isOnClock_of_read read) begins
  obtain ⟨written, bound, query, known, _, _, passes⟩ :=
    written_limits_are_never_later onClock (by decide +kernel) (by decide +kernel) "endDate"
  have text : now.text = "1968-12-31T23:59:60.250Z" := by decide +kernel
  have same : now.text = written := by
    simpa [Filter.query, Value.single] using query
  obtain rfl := text.symm.trans same
  have there : Instant.read "1968-12-31T23:59:60.250Z" = some ⟨-31536001, 1250000000⟩ := by
    decide +kernel
  cases there.symm.trans known
  exact ⟨read, begins, query, fun source => (passes source).1, by decide +kernel, by decide +kernel⟩

end Filter

end Archivist
