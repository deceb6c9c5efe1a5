import Archivist.Proofs.Dialogue.Account
import Archivist.Proofs.Dialogue.History
import Archivist.Proofs.Store.Contents

set_option autoImplicit false

namespace Archivist

/-- The reports of failure that may come in place of an answer; none stands for no report at all
within the time an attempt has. -/
abbrev Troubles : Type := Option StoreFailure → Prop

namespace Troubles

def any : Troubles := fun _ => True

def calm : Troubles := fun _ => False

/-- Failures that may pass, and requests that are refused as bad ones. -/
def outage : Troubles
  | none => True
  | some failure => failure.isTransient = true ∨ ∃ body, failure = .rejected 400 body

/-- An index is reported as missing only when it is. -/
def Honest (troubles : Troubles) : Prop :=
  ∀ failure, troubles (some failure) → failure.isMissing = false

theorem honest_calm : calm.Honest := nofun

theorem honest_outage : outage.Honest := by
  intro failure outcome
  rcases outcome with transient | ⟨body, rfl⟩
  · cases failure with
    | transient _ => rfl
    | _ => cases transient
  · rfl

end Troubles

theorem Holdings.not_isPassing_perform (now : Holdings) (call : Call) :
    isPassing (some (now.perform call).1) = false := by
  cases call with
  | search request => simp only [perform]; split <;> rfl
  | reindex source destination filter => simp only [perform]; split <;> rfl
  | deleteByQuery index filter => simp only [perform]; split <;> rfl
  | bulkDelete index ids => simp only [perform]; split <;> rfl
  | ensureExists index => simp only [perform]; split <;> rfl
  | bulkWrite index written => rfl
  | refresh index => rfl

/-- A copy that is performed and finds its source missing is right. -/
theorem Holdings.documents?_of_isMissing {now : Holdings} {source destination : String}
    {filter : Filter} (missing : (Event.mk (.reindex source destination filter)
      (some (now.perform (.reindex source destination filter)).1)).isMissing = true) :
    now.documents? source = none := by
  obtain ⟨failure, replied, _⟩ := Event.exists_failure_of_isMissing missing
  exact documents?_of_copy_error (Option.some.inj replied)

namespace Backend

def outages (troubles : Troubles) : Backend Holdings := fun call now reply after =>
  (reply = some (now.perform call).1 ∧ after = now.after call) ∨
    ∃ report, troubles report ∧ reply = report.map .error ∧
      (after = now ∨ after = now.after call)

/-- A store in memory whose failures come before it has done anything. -/
def faulty (troubles : Troubles) : Backend Holdings := fun call now reply after =>
  (reply = some (now.perform call).1 ∧ after = now.after call) ∨
    ∃ report, troubles report ∧ reply = report.map .error ∧ after = now

theorem outages_of_faulty {troubles : Troubles} {call : Call} {now after : Holdings}
    {reply : Option call.Reply} (served : faulty troubles call now reply after) :
    outages troubles call now reply after := by
  rcases served with answered | ⟨report, allowed, same, unchanged⟩
  · exact Or.inl answered
  · exact Or.inr ⟨report, allowed, same, Or.inl unchanged⟩

/-- Performs every call and says what came of it. -/
def oblige (call : Call) (now : Holdings) : Option call.Reply × Holdings :=
  (some (now.perform call).1, now.after call)

theorem outages_oblige (troubles : Troubles) (call : Call) (now : Holdings) :
    outages troubles call now (oblige call now).1 (oblige call now).2 := Or.inl ⟨rfl, rfl⟩

/-- Performs every call, and never reports back about those of one operation. -/
def lose (operation : Operation) (call : Call) (now : Holdings) :
    Option call.Reply × Holdings :=
  (if call.operation = operation then none else some (now.perform call).1, now.after call)

theorem outages_lose (operation : Operation) (call : Call) (now : Holdings) :
    outages .any call now (lose operation call now).1 (lose operation call now).2 := by
  simp only [lose]
  split
  · exact Or.inr ⟨none, trivial, rfl, Or.inr rfl⟩
  · exact Or.inl ⟨rfl, rfl⟩

variable {troubles : Troubles} {call : Call} {now after : Holdings} {reply : Option call.Reply}

theorem outages_effect (served : outages troubles call now reply after) :
    after = now ∨ after = now.after call := by
  rcases served with ⟨_, took⟩ | ⟨_, _, _, effect⟩
  · exact Or.inr took
  · exact effect

theorem outages_granted (served : outages troubles call now reply after)
    (granted : (Event.mk call reply).isGranted = true) : after = now.after call := by
  rcases served with ⟨_, took⟩ | ⟨report, _, rfl, _⟩
  · exact took
  · cases report <;> cases granted

/-- Where reports are honest an index that is said to be missing is. -/
theorem outages_missing (served : outages troubles call now reply after) (honest : troubles.Honest)
    (missing : (Event.mk call reply).isMissing = true) :
    reply = some (now.perform call).1 ∧ after = now.after call := by
  rcases served with answered | ⟨report, allowed, rfl, _⟩
  · exact answered
  · cases report with
    | none => cases missing
    | some failure =>
      rw [show (Event.mk call (Option.map Except.error (some failure))).isMissing =
        failure.isMissing from rfl, honest failure allowed] at missing
      cases missing

theorem outages_calm (served : outages .calm call now reply after) :
    reply = some (now.perform call).1 ∧ after = now.after call := by
  rcases served with answered | ⟨_, allowed, _⟩
  · exact answered
  · exact absurd allowed id

/-- Work in front of a store whose failures have no effect. -/
def faults (troubles : Troubles) : Setting Action.Yield (Site Holdings) :=
  (faulty troubles).setting (fun _ => True) (fun _ => True) fun _ => True

/-- In front of a store whose failures have no effect a call is answered as it is when all goes
well, or fails and leaves everything as it was. -/
theorem ensures_call_faulty (policy : RetryPolicy) (step : String) (call : Call)
    (site : Site Holdings) (done : call.Reply → Site Holdings → Prop)
    (answered : ∀ value, (site.store.perform call).1 = .ok value →
      done (.ok value) ⟨site.store.after call, site.recalls⟩)
    (failed : ∀ failure, done (.error failure) site) :
    (faults troubles).Ensures done (Work.call policy step call) site := by
  refine ensures_call policy step call (site = ·) done ?_ site rfl
  intro _ reply store same served
  obtain rfl := same
  rcases served with ⟨rfl, rfl⟩ | ⟨report, _, rfl, rfl⟩
  · refine ⟨trivial, ?_, fun passing => ?_⟩
    · cases outcome : (site.store.perform call).1 with
      | ok value => exact answered value outcome
      | error failure =>
        rw [Holdings.after_of_error outcome]
        exact failed failure
    · rw [Holdings.not_isPassing_perform] at passing
      cases passing
  · refine ⟨trivial, ?_, fun _ => ⟨trivial, rfl⟩⟩
    cases report <;> exact failed _

/-- Work in front of a store that never fails, where nobody ever waits or gives up. -/
def calm : Setting Action.Yield (Site Holdings) :=
  (outages .calm).setting (fun _ => False) (fun _ => True) fun _ => False

/-- No reply of a store that never fails asks for another attempt. -/
theorem restful_calm : (outages .calm).Restful fun _ => False := by
  intro call now reply after served passing
  obtain ⟨rfl, _⟩ := outages_calm served
  rw [Holdings.not_isPassing_perform] at passing
  cases passing

theorem ensures_call_calm (policy : RetryPolicy) (step : String) (call : Call)
    (site : Site Holdings) (done : call.Reply → Site Holdings → Prop)
    (answered : done (site.store.perform call).1 ⟨site.store.after call, site.recalls⟩) :
    calm.Ensures done (Work.call policy step call) site := by
  refine ensures_call policy step call (site = ·) done ?_ site rfl
  intro _ reply store same served
  obtain rfl := same
  obtain ⟨rfl, rfl⟩ := outages_calm served
  refine ⟨trivial, answered, fun passing => ?_⟩
  exact (restful_calm call site.store _ _ served passing).elim

/-- Work in front of a store that may fail, which makes no call that breaks off. -/
def steady (troubles : Troubles) (rests : Holdings → Prop) (excuses : Crash → Prop) :
    Setting Action.Yield (Site Holdings) where
  service := (outages troubles).service
  permits
    | .attempt call _, site => site.store.breaksOff call = false
    | .rest _, site => rests site.store
    | _, _ => True
  always _ := True
  excuses := excuses

/-- Work makes no call that breaks off when all its calls are among some that do not, as long as
what the work keeps to holds. -/
theorem ensures_steady {Result : Type} {done other : Result → Site Holdings → Prop}
    {calls : Call → Prop} {work : Work Result} {rests : Holdings → Prop}
    {always holds : Site Holdings → Prop} {excuses : Crash → Prop} {site : Site Holdings}
    (makes : (Work.making calls).Ensures (fun _ _ => True) work ())
    (keeps : ((outages troubles).setting (fun _ => True) holds fun _ => True).Ensures other work
      site)
    (whole : ∀ call now, calls call → holds now → now.store.breaksOff call = false)
    (begun : holds site)
    (ensured : ((outages troubles).setting rests always excuses).Ensures done work site) :
    (steady troubles rests excuses).Ensures done work site := by
  induction work generalizing site with
  | finish result => exact ensured
  | crash cause => exact ensured
  | ask action resume ih =>
    obtain ⟨made, further⟩ := makes
    obtain ⟨permitted, ends⟩ := ensured
    constructor
    · cases action with
      | attempt call limit => exact whole call site made begun
      | rest millis => exact permitted
      | recalls _ | remember _ | enter _ | count _ _ => trivial
    · intro answer after answered
      obtain ⟨kept, onward⟩ := keeps.2 answer after answered
      exact ⟨trivial, ih answer (further answer () trivial).2 onward kept
        (ends answer after answered).2⟩

end Backend

end Archivist
