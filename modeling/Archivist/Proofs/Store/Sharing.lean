import Archivist.Proofs.Store.Ledger
import Archivist.Proofs.Store.Outage

set_option autoImplicit false

namespace Archivist

namespace Backend

/-- A store that others use as well. The book is kept for one of its users only. -/
def shared (relies : Holdings → Holdings → Prop) : Backend Ledger :=
  (booked .never).accompanied fun now after => relies now.held after.held ∧ after.deeds = now.deeds

variable {relies guarantees : Holdings → Holdings → Prop}

theorem shared_served {call : Call} {now after : Ledger} {reply : Option call.Reply}
    (served : shared relies call now reply after) :
    reply = some (now.held.perform call).1 ∧ relies (now.held.after call) after.held ∧
      after.deeds = now.deeds ++ [⟨call, now.held⟩] := by
  obtain ⟨between, answered, relied, deeds⟩ := served
  obtain ⟨rfl, rfl⟩ := booked_never answered
  exact ⟨rfl, relied, deeds⟩

theorem shared_of_relies {call : Call} {now : Ledger} {held : Holdings}
    (relied : relies (now.held.after call) held) :
    shared relies call now (some (now.held.perform call).1)
      ⟨held, now.deeds ++ [⟨call, now.held⟩]⟩ :=
  ⟨now.record call, booked_book .never call now, relied, rfl⟩

theorem restful_shared (rests : Ledger → Prop) : (shared relies).Restful rests := by
  intro call now reply after served passing
  obtain ⟨rfl, _⟩ := shared_served served
  rw [Holdings.not_isPassing_perform] at passing
  cases passing

/-- Every call that was made did what is guaranteed. -/
def Proper (guarantees : Holdings → Holdings → Prop) (site : Site Ledger) : Prop :=
  ∀ deed ∈ site.store.deeds, guarantees deed.before deed.after

/-- Work in company, where nobody ever waits or gives up. -/
def company (relies guarantees : Holdings → Holdings → Prop) :
    Setting Action.Yield (Site Ledger) :=
  (shared relies).setting (fun _ => False) (Proper guarantees) fun _ => False

theorem Proper.record {site : Site Ledger} (proper : Proper guarantees site) {call : Call}
    (guaranteed : guarantees site.store.held (site.store.held.after call)) (held : Holdings) :
    Proper guarantees ⟨⟨held, site.store.deeds ++ [⟨call, site.store.held⟩]⟩, site.recalls⟩ := by
  intro deed made
  rcases List.mem_append.mp made with before | new
  · exact proper deed before
  · cases List.mem_singleton.mp new
    exact guaranteed

theorem ensures_call_company (policy : RetryPolicy) (step : String) (call : Call)
    (site : Site Ledger) (done : call.Reply → Site Ledger → Prop) (proper : Proper guarantees site)
    (guaranteed : guarantees site.store.held (site.store.held.after call))
    (reached : ∀ held, relies (site.store.held.after call) held →
      done (site.store.held.perform call).1
        ⟨⟨held, site.store.deeds ++ [⟨call, site.store.held⟩]⟩, site.recalls⟩) :
    (company relies guarantees).Ensures done (Work.call policy step call) site := by
  refine ensures_call policy step call (site = ·) done ?_ site rfl
  intro _ reply store same served
  obtain rfl := same
  obtain ⟨held, deeds⟩ := store
  obtain ⟨rfl, relied, rfl⟩ := shared_served served
  refine ⟨proper.record guaranteed held, reached held relied, fun passing => ?_⟩
  rw [Holdings.not_isPassing_perform] at passing
  cases passing

end Backend

end Archivist
