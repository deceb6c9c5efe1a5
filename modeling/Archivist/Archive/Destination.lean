import Archivist.Archive.Action
import Archivist.Calendar.Pattern

set_option autoImplicit false

namespace Archivist

open Calendar (Date Pattern)

/-- Why a text is no date pattern for destinations. -/
inductive PatternFault where
  | empty
  | malformed (text : String)
deriving Repr, DecidableEq

def PatternFault.message : PatternFault → String
  | .empty => "rollover date format must not be empty"
  | .malformed text => "'" ++ text ++ "' is not a valid strftime pattern"

/-- The pattern in which destinations are dated. -/
structure Namer where
  pattern : Pattern
deriving Repr, DecidableEq

namespace Namer

def ofText (text : String) : Except PatternFault Namer :=
  if text = "" then .error .empty
  else
    match Pattern.read text with
    | some pattern => .ok ⟨pattern⟩
    | none => .error (.malformed text)

/-- What is put behind the name of a live index; none when the pattern asks for more than a date. -/
def suffix (namer : Namer) (date : Date) : Option String := namer.pattern.format date

/-- The name of a destination. Without a date it is the live index itself. -/
def resolve (namer : Namer) (base : String) : Option Date → Option String
  | none => some base
  | some date => (namer.suffix date).map (base ++ ·)

def suffixOrCrash (namer : Namer) (date : Date) : Work String :=
  match namer.suffix date with
  | some suffix => .finish suffix
  | none => .crash .patternNeedsClock

end Namer

namespace Work

/-- Creates a destination that is not there yet. One that is remembered costs no call, and one that
was found or made is remembered. -/
def ensure (policy : RetryPolicy) (destination : String) : Work (Except ArchiveFailure Unit) :=
  (Dialogue.question (Action.recalls destination)).bind fun known =>
    if known then .finish (.ok ())
    else
      ((call policy "ensure destination" (.ensureExists destination)).mapFailure
          (.preparation destination)).andThen fun _ =>
        (Dialogue.question (Action.remember destination)).bind fun _ => .finish (.ok ())

end Work

end Archivist
