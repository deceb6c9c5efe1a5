import Archivist.Proofs.Store.Outage

set_option autoImplicit false

namespace Archivist

/-- The index that a call copies from. -/
def Call.copiedIndex? : Call → Option String
  | .reindex source _ _ => some source
  | _ => none

theorem Call.exists_of_copiedIndex? {call : Call} {index : String}
    (copies : call.copiedIndex? = some index) :
    ∃ destination filter, call = .reindex index destination filter := by
  cases call with
  | reindex source destination filter =>
    cases copies
    exact ⟨destination, filter, rfl⟩
  | _ => cases copies

/-- A call that took effect, and what was held before it. -/
structure Deed where
  call : Call
  before : Holdings

def Deed.after (deed : Deed) : Holdings := deed.before.after deed.call

structure Ledger where
  held : Holdings
  deeds : List Deed

/-- What is held and done when a call has taken effect. -/
def Ledger.record (ledger : Ledger) (call : Call) : Ledger where
  held := ledger.held.after call
  deeds := ledger.deeds ++ [⟨call, ledger.held⟩]

def Site.contents (site : Site Ledger) : Site Holdings := ⟨site.store.held, site.recalls⟩

/-- The failures that may be reported in place of the answer to a call; none stands for no report at
all within the time an attempt has. -/
abbrev Reports : Type := Call → Holdings → Option StoreFailure → Prop

namespace Reports

def never : Reports := fun _ _ _ => False

/-- Anything may fail in any way, but an index that is there is not said to be missing when it is to
be copied from. -/
def sighted : Reports := fun call held report =>
  ∀ source destination filter failure, call = .reindex source destination filter →
    report = some failure → failure.isMissing = true → held.documents? source = none

end Reports

namespace Backend

def book (call : Call) (now : Ledger) : Option call.Reply × Ledger :=
  (some (now.held.perform call).1, now.record call)

/-- A call is answered as it is when all goes well, or reported as failed, whether it took effect or
not. -/
def booked (reports : Reports) : Backend Ledger := fun call now reply after =>
  (reply = some (now.held.perform call).1 ∧ after = now.record call) ∨
    ∃ report, reports call now.held report ∧ reply = report.map .error ∧
      (after = now ∨ after = now.record call)

theorem booked_book (reports : Reports) (call : Call) (now : Ledger) :
    booked reports call now (book call now).1 (book call now).2 :=
  Or.inl ⟨rfl, rfl⟩

variable {reports : Reports} {call : Call} {now after : Ledger} {reply : Option call.Reply}

theorem booked_effect (served : booked reports call now reply after) :
    after = now ∨ after = now.record call := by
  rcases served with ⟨_, took⟩ | ⟨_, _, _, effect⟩
  · exact Or.inr took
  · exact effect

theorem booked_granted (served : booked reports call now reply after)
    (granted : (Event.mk call reply).isGranted = true) :
    reply = some (now.held.perform call).1 ∧ after = now.record call := by
  rcases served with answered | ⟨report, _, rfl, _⟩
  · exact answered
  · cases report <;> cases granted

theorem booked_missing {source destination : String} {filter : Filter}
    {reply : Option (Call.reindex source destination filter).Reply}
    (served : booked .sighted (.reindex source destination filter) now reply after)
    (missing : (Event.mk (.reindex source destination filter) reply).isMissing = true) :
    now.held.documents? source = none := by
  rcases served with ⟨rfl, _⟩ | ⟨report, allowed, rfl, _⟩
  · exact Holdings.documents?_of_isMissing missing
  · cases report with
    | none => cases missing
    | some failure => exact allowed source destination filter failure rfl rfl missing

theorem booked_never (served : booked .never call now reply after) :
    reply = some (now.held.perform call).1 ∧ after = now.record call := by
  rcases served with answered | ⟨_, allowed, _⟩
  · exact answered
  · exact absurd allowed id

end Backend

end Archivist
