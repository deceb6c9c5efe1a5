import Archivist.Proofs.Dialogue.Backend
import Mathlib.Data.List.Induction

set_option autoImplicit false

namespace Archivist

def Grows {Item : Type} (kind : Item → Prop) (before after : List Item) : Prop :=
  ∃ more, after = before ++ more ∧ ∀ item ∈ more, kind item

namespace Grows

variable {Item : Type} {kind other : Item → Prop} {first second third : List Item}

theorem refl (items : List Item) : Grows kind items items :=
  ⟨[], (List.append_nil items).symm, List.forall_mem_nil kind⟩

theorem trans (earlier : Grows kind first second) (later : Grows kind second third) :
    Grows kind first third := by
  obtain ⟨more, rfl, before⟩ := earlier
  obtain ⟨further, rfl, after⟩ := later
  refine ⟨more ++ further, List.append_assoc first more further, fun item member => ?_⟩
  exact (List.mem_append.mp member).elim (before item) (after item)

theorem imp (grows : Grows kind first second) (weaker : ∀ item, kind item → other item) :
    Grows other first second := by
  obtain ⟨more, same, all⟩ := grows
  exact ⟨more, same, fun item member => weaker item (all item member)⟩

theorem concat {item : Item} (items : List Item) (such : kind item) :
    Grows kind items (items ++ [item]) :=
  ⟨[item], rfl, List.forall_mem_singleton.mpr such⟩

theorem mem (grows : Grows kind first second) {item : Item} (there : item ∈ first) :
    item ∈ second := by
  obtain ⟨more, rfl, _⟩ := grows
  exact List.mem_append_left more there

end Grows

/-- A call and the reply it got; none when the attempt was given up. -/
structure Event where
  call : Call
  reply : Option call.Reply

abbrev History : Type := List Event

namespace Event

/-- After a final reply the call is not made again. -/
def isFinal (event : Event) : Bool := !isPassing event.reply

def isGranted (event : Event) : Bool :=
  match event.reply with
  | some (.ok _) => true
  | _ => false

/-- The reply says that an index does not exist. -/
def isMissing (event : Event) : Bool :=
  match event.reply with
  | some (.error failure) => failure.isMissing
  | _ => false

theorem exists_failure_of_isMissing {event : Event} (missing : event.isMissing = true) :
    ∃ failure, event.reply = some (.error failure) ∧ failure.isMissing = true := by
  obtain ⟨call, reply⟩ := event
  match reply with
  | some (.error failure) => exact ⟨failure, rfl, missing⟩
  | some (.ok _) | none => cases missing

theorem isFinal_of_isGranted (event : Event) (granted : event.isGranted = true) :
    event.isFinal = true := by
  obtain ⟨call, reply⟩ := event
  match reply with
  | some (.ok _) => rfl
  | some (.error _) | none => cases granted

theorem isGranted_of_isMissing (event : Event) (missing : event.isMissing = true) :
    event.isGranted = false := by
  obtain ⟨call, reply⟩ := event
  match reply with
  | some (.error _) | none => rfl
  | some (.ok _) => cases missing

theorem isFinal_of_isMissing (event : Event) (missing : event.isMissing = true) :
    event.isFinal = true := by
  obtain ⟨call, reply⟩ := event
  match reply with
  | some (.error (.rejected _ _)) => rfl
  | some (.error (.transient _)) | some (.error (.malformed _)) | some (.error (.items _))
  | some (.ok _) | none => cases missing

end Event

/-- A store that answers as it likes; all there is to it is what it was asked and what it said. -/
def Backend.recorded : Backend History :=
  fun call history reply after => after = history ++ [⟨call, reply⟩]

/-- What a store answers that grants every call and finds as many records as it is asked for. -/
def Call.granted : (call : Call) → call.Reply
  | .search request => .ok (List.replicate request.limit ⟨"", request.index, .null⟩)
  | .bulkWrite _ written => .ok ⟨written.length, []⟩
  | .bulkDelete _ ids => .ok ⟨ids.length, []⟩
  | .reindex .. | .deleteByQuery .. => .ok 0
  | .ensureExists _ => .ok .created
  | .refresh _ => .ok ()

def Backend.grant (call : Call) (history : History) : Option call.Reply × History :=
  (some call.granted, history ++ [⟨call, some call.granted⟩])

namespace History

def finals (history : History) (operation : Operation) : History :=
  history.filter fun event => decide (event.call.operation = operation) && event.isFinal

theorem finals_append (first second : History) (operation : Operation) :
    finals (first ++ second) operation = first.finals operation ++ second.finals operation :=
  List.filter_append ..

theorem finals_singleton (event : Event) (final : event.isFinal = true) :
    finals [event] event.call.operation = [event] := by
  simp only [finals, List.filter_cons, decide_true, final, Bool.and_self, ↓reduceIte,
    List.filter_nil]

theorem finals_singleton_of_ne (event : Event) (operation : Operation)
    (different : event.call.operation ≠ operation) : finals [event] operation = [] := by
  simp only [finals, List.filter_cons, different, decide_false, Bool.false_and,
    Bool.false_eq_true, ↓reduceIte, List.filter_nil]

/-- The last reply left room for another attempt. -/
def IsPending (history : History) : Prop :=
  ∃ event, history.getLast? = some event ∧ isPassing event.reply = true

/-- Every call was one that what came before it warrants. -/
def Obeys (demand : History → Call → Prop) (history : History) : Prop :=
  ∀ before event later, history = before ++ event :: later → demand before event.call

theorem obeys_nil (demand : History → Call → Prop) : Obeys demand [] := by
  intro before event later same
  simp only [List.nil_eq, List.append_eq_nil_iff, reduceCtorEq, and_false] at same

theorem split_concat {α : Type} {items earlier later : List α} {last item : α}
    (split : items ++ [last] = earlier ++ item :: later) :
    later = [] ∧ earlier = items ∧ item = last ∨
      ∃ front, later = front ++ [last] ∧ items = earlier ++ item :: front := by
  rcases List.eq_nil_or_concat later with rfl | ⟨front, final, rfl⟩
  · obtain ⟨rfl, rest⟩ := List.append_inj' split rfl
    cases rest
    exact Or.inl ⟨rfl, rfl, rfl⟩
  · rw [List.concat_eq_append, ← List.cons_append, ← List.append_assoc] at split
    obtain ⟨rfl, rest⟩ := List.append_inj' split rfl
    cases rest
    exact Or.inr ⟨front, List.concat_eq_append, rfl⟩

theorem obeys_concat (demand : History → Call → Prop) (history : History) (event : Event) :
    Obeys demand (history ++ [event]) ↔ Obeys demand history ∧ demand history event.call := by
  constructor
  · intro obeys
    refine ⟨fun before other later same => ?_, obeys history event [] rfl⟩
    exact obeys before other (later ++ [event]) (by simp only [same, List.append_assoc,
      List.cons_append])
  · intro given before other later same
    obtain ⟨obeys, warranted⟩ := given
    rcases split_concat same with ⟨_, rfl, rfl⟩ | ⟨front, _, split⟩
    · exact warranted
    · exact obeys before other front split

/-- Attempts at one call that all left room for another one. -/
def Attempts (call : Call) (history : History) : Prop :=
  ∀ event ∈ history, event.call = call ∧ event.isFinal = false

theorem Attempts.finals_eq_nil {call : Call} {tries : History} (attempts : Attempts call tries)
    (operation : Operation) : tries.finals operation = [] := by
  refine List.filter_eq_nil_iff.mpr fun event member => ?_
  simp only [(attempts event member).2, Bool.and_false, Bool.false_eq_true, not_false_eq_true]

/-- What was warranted stays so while attempts at it fail. -/
def IsLasting (demand : History → Call → Prop) : Prop :=
  ∀ history tries call, Attempts call tries → demand history call → demand (history ++ tries) call

theorem Attempts.obeys {demand : History → Call → Prop} (lasting : IsLasting demand)
    {history tries : History} {call : Call} (attempts : Attempts call tries)
    (obeys : history.Obeys demand) (warranted : demand history call) :
    (history ++ tries).Obeys demand := by
  induction tries using List.reverseRecOn with
  | nil => simpa only [List.append_nil] using obeys
  | append_singleton front last ih =>
    have fewer : Attempts call front := fun event member =>
      attempts event (List.mem_append_left [last] member)
    rw [← List.append_assoc, obeys_concat]
    refine ⟨ih fewer, ?_⟩
    rw [(attempts last (List.mem_append_right front List.mem_cons_self)).1]
    exact lasting history front call fewer warranted

end History

namespace Backend

/-- A call in front of a store that answers as it likes leaves failed attempts and one more event,
which the reply is read from. -/
theorem ensures_call_recorded (always : Site History → Prop) (excuses : Crash → Prop)
    (policy : RetryPolicy) (step : String) (call : Call) (site : Site History)
    (done : call.Reply → Site History → Prop)
    (invariant : ∀ tries reply, History.Attempts call tries →
      always ⟨site.store ++ tries ++ [⟨call, reply⟩], site.recalls⟩)
    (reached : ∀ tries reply, History.Attempts call tries →
      done (reply.getD (.error (policy.timedOut step)))
        ⟨site.store ++ tries ++ [⟨call, reply⟩], site.recalls⟩) :
    (recorded.setting History.IsPending always excuses).Ensures done
      (Work.call policy step call) site := by
  refine ensures_call policy step call
    (fun other => ∃ tries, History.Attempts call tries ∧
      other = ⟨site.store ++ tries, site.recalls⟩) done ?_ site
    ⟨[], by simp only [History.Attempts, List.not_mem_nil, false_implies, implies_true],
      by simp only [List.append_nil]⟩
  intro _ reply _ given same
  obtain ⟨tries, attempts, rfl⟩ := given
  obtain rfl := same
  refine ⟨invariant tries reply attempts, reached tries reply attempts, fun passing => ?_⟩
  refine ⟨⟨⟨call, reply⟩, List.getLast?_concat, passing⟩, tries ++ [⟨call, reply⟩], ?_, ?_⟩
  · intro event member
    rcases List.mem_append.mp member with earlier | last
    · exact attempts event earlier
    · cases List.mem_singleton.mp last
      exact ⟨rfl, by simp only [Event.isFinal, passing, Bool.not_true]⟩
  · simp only [List.append_assoc]

end Backend

end Archivist
