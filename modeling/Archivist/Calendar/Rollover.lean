import Archivist.Calendar.Instant

set_option autoImplicit false

namespace Archivist.Calendar

/-- How long one archive destination takes in finished records. -/
inductive Rollover where
  | day
  | week
deriving Repr, DecidableEq

/-- The first date of the bucket of an instant, at an offset in seconds east of universal time. None
when it falls outside the years that dates may have. -/
@[irreducible]
def Rollover.bucket (rollover : Rollover) (instant : Instant) (offset : Int) : Option Date :=
  match instant.localDate offset with
  | none => none
  | some date =>
    match rollover with
    | .day => some date
    | .week => Date.ofDayNumber? (date.dayNumber - date.weekday.fromMonday)

end Archivist.Calendar
