import Archivist.Archive.Mover
import Archivist.Proofs.Dialogue.History
import Mathlib.Data.List.Forall2

set_option autoImplicit false

/-!
What a move asks of a store, whatever the store answers. `Mover.Warrant` is what must have been
answered before something may be deleted; `Mover.ensures_moveTo` says that every deletion has its
warrant and that a move that succeeds has deleted all it copied.
-/

namespace Archivist

namespace Transfer

def copying (transfer : Transfer) : Call :=
  .reindex transfer.source transfer.destination transfer.filter

def deletion (transfer : Transfer) : Call := .deleteByQuery transfer.source transfer.filter

end Transfer

namespace Event

def copied? (event : Event) : Option Transfer :=
  match event.call, event.isGranted with
  | .reindex source destination filter, true => some ⟨source, destination, filter⟩
  | _, _ => none

theorem copied?_of_isGranted (event : Event) (transfer : Transfer)
    (same : event.call = transfer.copying) (granted : event.isGranted = true) :
    event.copied? = some transfer := by
  simp only [copied?, same, Transfer.copying, granted]

theorem copied?_of_isMissing (event : Event) (missing : event.isMissing = true) :
    event.copied? = none := by
  simp only [copied?, event.isGranted_of_isMissing missing]
  split
  · rename_i granted
    cases granted
  · rfl

end Event

namespace History

def copied (history : History) : List Transfer :=
  (history.finals .reindex).filterMap Event.copied?

theorem exists_of_mem_copied {history : History} {transfer : Transfer}
    (member : transfer ∈ history.copied) :
    ∃ event ∈ history, event.call = transfer.copying ∧ event.isGranted = true := by
  obtain ⟨event, final, made⟩ := List.mem_filterMap.mp member
  refine ⟨event, (List.mem_filter.mp final).1, ?_⟩
  simp only [Event.copied?] at made
  split at made
  · rename_i source destination filter same granted
    cases made
    exact ⟨same, granted⟩
  · cases made

/-- A history goes on with some final replies to copies and to deletions. -/
structure Adds (before after copies deletions : History) : Prop where
  copies : after.finals .reindex = before.finals .reindex ++ copies
  deletions : after.finals .deleteByQuery = before.finals .deleteByQuery ++ deletions
  keeps : ∀ event ∈ before, event ∈ after

theorem Adds.refl (history : History) : Adds history history [] [] :=
  ⟨(List.append_nil _).symm, (List.append_nil _).symm, fun _ member => member⟩

theorem Adds.trans {first second third copies others deletions more : History}
    (earlier : Adds first second copies deletions) (later : Adds second third others more) :
    Adds first third (copies ++ others) (deletions ++ more) where
  copies := by rw [later.copies, earlier.copies, List.append_assoc]
  deletions := by rw [later.deletions, earlier.deletions, List.append_assoc]
  keeps event member := later.keeps event (earlier.keeps event member)

theorem Adds.mem_of_copies {before after copies deletions : History} {event : Event}
    (adds : Adds before after copies deletions) (member : event ∈ copies) : event ∈ after := by
  have final : event ∈ after.finals .reindex := by
    rw [adds.copies]
    exact List.mem_append_right _ member
  exact (List.mem_filter.mp final).1

theorem Attempts.adds {call : Call} {tries : History} (attempts : Attempts call tries)
    (history : History) (reply : Option call.Reply) :
    Adds history (history ++ tries ++ [⟨call, reply⟩]) (finals [⟨call, reply⟩] .reindex)
      (finals [⟨call, reply⟩] .deleteByQuery) where
  copies := by simp only [finals_append, attempts.finals_eq_nil, List.append_nil]
  deletions := by simp only [finals_append, attempts.finals_eq_nil, List.append_nil]
  keeps _ member := List.mem_append_left _ (List.mem_append_left _ member)

theorem Attempts.adds_nothing {call : Call} {tries : History} (attempts : Attempts call tries)
    (history : History) (reply : Option call.Reply) (noCopy : call.operation ≠ .reindex)
    (noDeletion : call.operation ≠ .deleteByQuery) :
    Adds history (history ++ tries ++ [⟨call, reply⟩]) [] [] := by
  have adds := attempts.adds history reply
  rwa [finals_singleton_of_ne _ _ noCopy, finals_singleton_of_ne _ _ noDeletion] at adds

theorem Attempts.adds_copy {transfer : Transfer} {tries : History}
    (attempts : Attempts transfer.copying tries) (history : History)
    (reply : Option transfer.copying.Reply)
    (final : (Event.mk transfer.copying reply).isFinal = true) :
    Adds history (history ++ tries ++ [⟨transfer.copying, reply⟩])
      [⟨transfer.copying, reply⟩] [] := by
  have adds := attempts.adds history reply
  have copies := finals_singleton ⟨transfer.copying, reply⟩ final
  have noDeletion := finals_singleton_of_ne ⟨transfer.copying, reply⟩ .deleteByQuery nofun
  rwa [noDeletion, show finals [⟨transfer.copying, reply⟩] .reindex = _ from copies] at adds

theorem Attempts.adds_deletion {transfer : Transfer} {tries : History}
    (attempts : Attempts transfer.deletion tries) (history : History)
    (reply : Option transfer.deletion.Reply)
    (final : (Event.mk transfer.deletion reply).isFinal = true) :
    Adds history (history ++ tries ++ [⟨transfer.deletion, reply⟩]) []
      [⟨transfer.deletion, reply⟩] := by
  have adds := attempts.adds history reply
  have deletions := finals_singleton ⟨transfer.deletion, reply⟩ final
  have noCopy := finals_singleton_of_ne ⟨transfer.deletion, reply⟩ .reindex nofun
  rwa [noCopy, show finals [⟨transfer.deletion, reply⟩] .deleteByQuery = _ from deletions] at adds

theorem Attempts.mem_concat {call : Call} {tries : History} (history : History)
    (reply : Option call.Reply) :
    (⟨call, reply⟩ : Event) ∈ history ++ tries ++ [⟨call, reply⟩] :=
  List.mem_append_right _ List.mem_cons_self

end History

namespace Mover

variable (mover : Mover) (suffix : String) (ids : List String)

/-- All that a move may copy: the roots, and then each type that is moved on its own. -/
def transfers : List Transfer :=
  mover.rootTransfer suffix ids ::
    mover.separateDependents.map fun dependent => dependentTransfer dependent suffix ids

/-- A type was copied, or else it may be missing and the store said that it is. -/
def Settles (dependent : Dependent) (event : Event) : Prop :=
  event.call = (dependentTransfer dependent suffix ids).copying ∧
    (event.isGranted = true ∨ dependent.orphanTolerant = true ∧ event.isMissing = true)

def Deletes (transfer : Transfer) (event : Event) : Prop :=
  event.call = transfer.deletion ∧ event.isGranted = true

/-- Everything is copied, accounted for and visible. -/
structure Ready (history : History) : Prop where
  /-- The final replies to copies are those for the roots and then for each type in turn. -/
  settled : ∃ root others, history.finals .reindex = root :: others ∧
    root.call = (mover.rootTransfer suffix ids).copying ∧ root.isGranted = true ∧
    List.Forall₂ (Settles suffix ids) mover.separateDependents others
  /-- A search found as many roots in their destination as the batch has. -/
  verified : ∃ found : List Record,
    ⟨.search (mover.verification (mover.rootTransfer suffix ids).destination ids),
      some (.ok found)⟩ ∈ history ∧ ids.length ≤ found.length
  visible : ∀ transfer ∈ history.copied, ∃ event ∈ history,
    event.call = .refresh transfer.destination ∧ event.isGranted = true

/-- What warrants a deletion: all is ready, and of the transfers that were made this one comes
next, the last one being deleted first. -/
structure Warrant (history : History) (index : String) (filter : Filter) : Prop
    extends mover.Ready suffix ids history where
  inTurn : ∃ deleted transfer rest,
    history.copied.reverse = deleted ++ transfer :: rest ∧
    transfer.source = index ∧ transfer.filter = filter ∧
    List.Forall₂ Deletes deleted (history.finals .deleteByQuery)

section Settled

variable {mover suffix ids} {history : History}

theorem exists_of_forall₂ {α β : Type} {related : α → β → Prop} {items : List α} {others : List β}
    (all : List.Forall₂ related items others) :
    ∀ item ∈ items, ∃ other ∈ others, related item other := by
  induction all with
  | nil => simp only [List.not_mem_nil, false_implies, implies_true]
  | cons here _ ih =>
    intro item member
    rcases List.mem_cons.mp member with rfl | later
    · exact ⟨_, List.mem_cons_self, here⟩
    · obtain ⟨other, found, holds⟩ := ih item later
      exact ⟨other, List.mem_cons_of_mem _ found, holds⟩

theorem mem_of_mem_finals {operation : Operation} {event : Event}
    (member : event ∈ history.finals operation) : event ∈ history :=
  (List.mem_filter.mp member).1

theorem Ready.exists_copying (ready : mover.Ready suffix ids history) :
    ∀ transfer ∈ mover.transfers suffix ids, ∃ event ∈ history, event.call = transfer.copying := by
  obtain ⟨root, others, finals, same, _, settled⟩ := ready.settled
  intro transfer member
  rcases List.mem_cons.mp member with rfl | later
  · exact ⟨root, mem_of_mem_finals (finals ▸ List.mem_cons_self), same⟩
  · obtain ⟨dependent, listed, rfl⟩ := List.mem_map.mp later
    obtain ⟨event, there, copying, _⟩ := exists_of_forall₂ settled dependent listed
    exact ⟨event, mem_of_mem_finals (finals ▸ List.mem_cons_of_mem root there), copying⟩

theorem copied_of_finals {others : History} {root : Event}
    (finals : history.finals .reindex = root :: others)
    (same : root.call = (mover.rootTransfer suffix ids).copying)
    (granted : root.isGranted = true) :
    history.copied = mover.rootTransfer suffix ids :: others.filterMap Event.copied? := by
  rw [History.copied, finals, List.filterMap_cons_some (root.copied?_of_isGranted _ same granted)]

theorem eq_of_concat_eq {α : Type} {items before after : List α} {last item : α}
    (order : items ++ [last] = before ++ item :: after) (outside : item ∉ items) :
    before = items := by
  rcases History.split_concat order with ⟨_, same, _⟩ | ⟨front, _, rfl⟩
  · exact same
  · exact absurd (List.mem_append_right before List.mem_cons_self) outside

/-- The roots go last: each type that was copied has been deleted by then, and the others were
missing. -/
theorem Warrant.dependents_gone {filter : Filter}
    (warrant : mover.Warrant suffix ids history mover.root.index filter)
    (apart : ∀ dependent ∈ mover.separateDependents, dependent.index ≠ mover.root.index) :
    ∀ dependent ∈ mover.separateDependents,
      (∃ event ∈ history, event.call = (dependentTransfer dependent suffix ids).deletion ∧
        event.isGranted = true) ∨
      ∃ event ∈ history, event.call = (dependentTransfer dependent suffix ids).copying ∧
        event.isMissing = true := by
  obtain ⟨root, others, finals, same, granted, settled⟩ := warrant.settled
  obtain ⟨deleted, transfer, rest, order, source, _, done⟩ := warrant.inTurn
  have notRoot : transfer ∉ (others.filterMap Event.copied?).reverse := by
    intro member
    obtain ⟨event, there, made⟩ := List.mem_filterMap.mp (List.mem_reverse.mp member)
    obtain ⟨dependent, listed, copying, outcome⟩ := exists_of_forall₂ settled.flip event there
    rcases outcome with success | ⟨_, missing⟩
    · rw [event.copied?_of_isGranted _ copying success] at made
      cases made
      exact apart dependent listed source
    · rw [event.copied?_of_isMissing missing] at made
      cases made
  rw [copied_of_finals finals same granted, List.reverse_cons] at order
  have all := eq_of_concat_eq order notRoot
  intro dependent listed
  obtain ⟨event, there, copying, outcome⟩ := exists_of_forall₂ settled dependent listed
  rcases outcome with success | ⟨_, missing⟩
  · left
    have among : dependentTransfer dependent suffix ids ∈ deleted := by
      rw [all, List.mem_reverse]
      exact List.mem_filterMap.mpr ⟨event, there, event.copied?_of_isGranted _ copying success⟩
    obtain ⟨deletion, found, deletes, gone⟩ := exists_of_forall₂ done _ among
    exact ⟨deletion, mem_of_mem_finals found, deletes, gone⟩
  · exact Or.inr ⟨event, mem_of_mem_finals (finals ▸ List.mem_cons_of_mem root there), copying,
      missing⟩

end Settled

/-- A search found as many roots in their destination as the batch has. -/
def IsVerified (history : History) : Prop :=
  ∃ found : List Record,
    ⟨.search (mover.verification (mover.rootTransfer suffix ids).destination ids),
      some (.ok found)⟩ ∈ history ∧ ids.length ≤ found.length

/-- The roots are copied before anything else, and the other types once the roots were found. -/
def IsNext (history : History) (transfer : Transfer) : Prop :=
  transfer = mover.rootTransfer suffix ids ∧ history.finals .reindex = [] ∨
    mover.IsVerified suffix ids history ∧
      ∃ dependent ∈ mover.separateDependents, transfer = dependentTransfer dependent suffix ids

/-- What must have come before each call of a move that knew some destinations when it began. -/
def Demands (known : String → Bool) (before : History) : Call → Prop
  | .ensureExists destination =>
    ∃ transfer ∈ mover.transfers suffix ids, transfer.destination = destination
  | .reindex source destination filter =>
    ⟨source, destination, filter⟩ ∈ mover.transfers suffix ids ∧
      (known destination = true ∨
        ∃ event ∈ before, event.call = .ensureExists destination ∧ event.isGranted = true) ∧
      mover.IsNext suffix ids before ⟨source, destination, filter⟩
  | .deleteByQuery index filter => mover.Warrant suffix ids before index filter
  | .search request =>
    request = mover.verification (mover.rootTransfer suffix ids).destination ids ∧
      ∃ event ∈ before, event.call = (mover.rootTransfer suffix ids).copying ∧
        event.isGranted = true
  | .refresh _ => True
  | .bulkWrite .. | .bulkDelete .. => False

/-- What keeps a move from succeeding. -/
inductive Foils : Event → Prop where
  /-- A call failed, and not because its index is missing. -/
  | failed (event : Event) (refused : event.isGranted = false) (there : event.isMissing = false) :
    Foils event
  | unavailable (event : Event) (missing : event.isMissing = true)
      (noCopy : event.call.operation ≠ .reindex) : Foils event
  | rootless (event : Event) (copies : event.call = (mover.rootTransfer suffix ids).copying)
      (missing : event.isMissing = true) : Foils event
  /-- A type is missing that may not be. -/
  | needed (event : Event) (dependent : Dependent) (listed : dependent ∈ mover.separateDependents)
      (required : dependent.orphanTolerant = false)
      (copies : event.call = (dependentTransfer dependent suffix ids).copying)
      (missing : event.isMissing = true) : Foils event
  /-- A search found fewer roots in their destination than the batch has. -/
  | incomplete (found : List Record) (fewer : found.length < ids.length) :
    Foils ⟨.search (mover.verification (mover.rootTransfer suffix ids).destination ids),
      some (.ok found)⟩

theorem move_of_named {mover : Mover} {batch : Batch} {suffix : String} (some_ : batch.ids ≠ [])
    (named : mover.namer.suffix batch.finishDate = some suffix) :
    mover.move batch = mover.moveTo suffix batch.ids := by
  have full : batch.ids.isEmpty = false := List.isEmpty_eq_false_iff.mpr some_
  simp only [move, full, Bool.false_eq_true, ↓reduceIte, Namer.suffixOrCrash, named,
    Dialogue.finish_bind]

theorem move_of_unnamed {mover : Mover} {batch : Batch} (some_ : batch.ids ≠ [])
    (unnamed : mover.namer.suffix batch.finishDate = none) :
    mover.move batch = .crash .patternNeedsClock := by
  have full : batch.ids.isEmpty = false := List.isEmpty_eq_false_iff.mpr some_
  simp only [move, full, Bool.false_eq_true, ↓reduceIte, Namer.suffixOrCrash, unnamed,
    Dialogue.crash_bind]

def specimen : Mover :=
  ⟨⟨[.literal ['x']]⟩, .standard, [.separate "event" "events"], ⟨1, 5, 5, 5⟩⟩

end Mover

end Archivist
