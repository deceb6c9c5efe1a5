import Archivist.Proofs.Cycle.Recovery
import Archivist.Proofs.Store.Sharing

set_option autoImplicit false

namespace Archivist

open Calendar (Instant)
open Json (Value)

theorem Holdings.granted_or_missing (now : Holdings) (call : Call) :
    (Event.mk call (some (now.perform call).1)).isGranted = true ∨
      (Event.mk call (some (now.perform call).1)).isMissing = true := by
  cases call with
  | bulkWrite _ _ | refresh _ => exact Or.inl rfl
  | search _ | reindex _ _ _ | deleteByQuery _ _ | bulkDelete _ _ | ensureExists _ =>
    simp only [perform]
    split
    · exact Or.inl rfl
    · first
      | exact Or.inl rfl
      | exact Or.inr rfl

namespace Archiver

def owning (archiver : Archiver) (partitions : Partitions) : Archiver :=
  { archiver with partitions := partitions }

/-- What archivers of some partitions may do to a store. -/
def Steps (archiver : Archiver) (own : Partitions) (cutoff : Instant) (start : Holdings) :
    Holdings → Holdings → Prop :=
  archiver.Advances cutoff start fun source => (archiver.owning own).finds cutoff source = true

/-- What others find may have gone, and what is linked to roots that were moved. -/
def Takes (archiver : Archiver) (theirs : Partitions) (cutoff : Instant) (moved : List String)
    (source : Value) : Prop :=
  (archiver.owning theirs).finds cutoff source = true ∨ archiver.IsLinked moved source

def Covers (archiver : Archiver) (own : Partitions) : Prop :=
  ∀ id ∈ own.ids, id ∈ archiver.partitions.ids

variable {archiver : Archiver} {own theirs : Partitions} {cutoff : Instant}
  {start now after : Holdings} {suffix : String} {ids : List String} {known : String → Bool}

theorem finds_of_owning (covers : archiver.Covers own) {source : Value}
    (found : (archiver.owning own).finds cutoff source = true) :
    archiver.finds cutoff source = true := by
  obtain ⟨root, ⟨id, member, written⟩, early⟩ := finds_iff.mp found
  exact finds_iff.mpr ⟨root, ⟨id, covers id member, written⟩, early⟩

theorem isDue_of_owning (covers : archiver.Covers own) {text : String}
    (due : (archiver.owning own).IsDue cutoff start text suffix) :
    archiver.IsDue cutoff start text suffix := by
  obtain ⟨id, source, held, found, rest⟩ := due
  exact ⟨id, source, held, finds_of_owning covers found, rest⟩

theorem Healthy.owning (healthy : archiver.Healthy cutoff start) (covers : archiver.Covers own) :
    (archiver.owning own).Healthy cutoff start where
  sameRoot := healthy.sameRoot
  numbered := healthy.numbered
  distinct := healthy.distinct
  listedOnce := healthy.listedOnce
  present := healthy.present
  dated id source held found := healthy.dated id source held (finds_of_owning covers found)
  separates := by
    have used : ∀ suffix, (archiver.owning own).IsUsed cutoff start suffix →
        archiver.IsUsed cutoff start suffix := by
      intro suffix inUse
      obtain ⟨text, due⟩ := inUse
      exact ⟨text, isDue_of_owning covers due⟩
    exact ⟨fun suffix inUse => healthy.separates.apart suffix (used suffix inUse),
      fun base other suffix another live also inUse alike =>
        healthy.separates.distinct base other suffix another live also (used suffix inUse)
          (used another alike)⟩

/-- Once the roots of a batch have been copied, all of them are in their destination: those that
were not live any more had been copied before they left. -/
theorem Recoverable.allLanded {history : History} {honest : Prop}
    (recoverable : archiver.Recoverable cutoff start now) (healthy : archiver.Healthy cutoff start)
    (due : ∀ text ∈ ids, archiver.IsDue cutoff start text suffix)
    (copied : ∃ event ∈ history, event.call = (archiver.mover.rootTransfer suffix ids).copying ∧
      event.isGranted = true)
    (kept : ∀ event ∈ history, event.Kept honest now) :
    archiver.mover.AllLanded suffix ids now := by
  obtain ⟨event, member, copies, granted⟩ := copied
  intro text among
  have owed := due text among
  obtain ⟨id, source, held, found, named, goes⟩ := owed
  obtain ⟨_, _, _, written, linked⟩ := healthy.exists_text held (isRoot_of_finds found)
  cases written.symm.trans named
  rw [healthy.sameRoot]
  refine ⟨id, source, ?_, isRoot_of_finds found, named⟩
  -- A root that is live was there to be copied, and one that is not has left for its destination.
  rcases recoverable.between.found _ healthy.isLive_root id source held with
    still | ⟨another, leaves, there⟩
  · have accepted : (archiver.mover.rootTransfer suffix ids).filter.accepts source = true := by
      rw [Mover.rootTransfer, healthy.sameRoot, Filter.accepts_terms]
      exact ⟨_, among, linked⟩
    have landed := (kept event member).copied _ copies granted id source
    rw [Mover.rootTransfer, healthy.sameRoot] at landed accepted
    exact landed still accepted
  · have own : archiver.Leaves cutoff start archiver.finder.root.index source suffix := by
      rw [← healthy.sameRoot] at linked ⊢
      exact ⟨_, List.mem_cons_self, rfl, _, linked, due _ among⟩
    rwa [healthy.leaves_unique leaves own] at there

/-- In a store that can be recovered a move of roots that were due meets no missing index, unless it
copies. -/
theorem Recoverable.operation_of_isMissing {history : History} {call : Call} {honest : Prop}
    (recoverable : archiver.Recoverable cutoff start now) (healthy : archiver.Healthy cutoff start)
    (nonempty : ids ≠ []) (due : ∀ text ∈ ids, archiver.IsDue cutoff start text suffix)
    (demanded : archiver.mover.Demands suffix ids known history call)
    (kept : ∀ event ∈ history, event.Kept honest now)
    (missing : (Event.mk call (some (now.perform call).1)).isMissing = true) :
    call.operation = .reindex := by
  obtain ⟨failure, replied, _⟩ := Event.exists_failure_of_isMissing missing
  rw [Option.some.injEq] at replied
  match call with
  | .reindex _ _ _ => rfl
  | .search request =>
    obtain ⟨rfl, copied⟩ := demanded
    obtain ⟨first, among⟩ := List.exists_mem_of_ne_nil ids nonempty
    obtain ⟨id, source, held, _⟩ := recoverable.allLanded healthy due copied kept first among
    have there := now.isSome_of_document? _ id source held
    rw [show now.documents? (archiver.mover.root.index ++ suffix) = none from
      Holdings.documents?_of_search_error replied] at there
    cases there
  | .refresh _ => cases replied
  | .ensureExists _ | .deleteByQuery _ _ =>
    simp only [Holdings.perform] at replied
    split at replied <;> cases replied
  | .bulkWrite _ _ | .bulkDelete _ _ => exact demanded.elim

/-- Nothing that a store answers to a move of roots that were due foils it, as long as the store can
be recovered. -/
theorem Recoverable.not_foils {history : History} {call : Call} {honest : Prop}
    (recoverable : archiver.Recoverable cutoff start now) (healthy : archiver.Healthy cutoff start)
    (nonempty : ids ≠ []) (once : ids.Nodup)
    (due : ∀ text ∈ ids, archiver.IsDue cutoff start text suffix)
    (demanded : archiver.mover.Demands suffix ids known history call)
    (kept : ∀ event ∈ history, event.Kept honest now) :
    ¬archiver.mover.Foils suffix ids ⟨call, some (now.perform call).1⟩ := by
  intro foils
  generalize same : Event.mk call (some (now.perform call).1) = event at foils
  cases foils with
  | failed _ refused there =>
    subst same
    rcases now.granted_or_missing call with granted | missing
    · rw [granted] at refused
      cases refused
    · rw [missing] at there
      cases there
  | unavailable _ missing noCopy =>
    subst same
    exact noCopy (recoverable.operation_of_isMissing healthy nonempty due demanded kept missing)
  | rootless _ copies missing =>
    subst same
    obtain rfl : call = (archiver.mover.rootTransfer suffix ids).copying := copies
    have absent := Holdings.documents?_of_isMissing missing
    obtain ⟨first, among⟩ := List.exists_mem_of_ne_nil ids nonempty
    obtain ⟨id, source, held, _⟩ := due first among
    have there := recoverable.between.kept _ (start.isSome_of_document? _ id source held)
    rw [Mover.rootTransfer, healthy.sameRoot] at absent
    rw [absent] at there
    cases there
  | needed _ dependent listed required copies missing =>
    subst same
    obtain rfl : call = (Mover.dependentTransfer dependent suffix ids).copying := copies
    have absent : now.documents? dependent.index = none := Holdings.documents?_of_isMissing missing
    rcases healthy.present dependent listed with there | tolerant
    · have still := recoverable.between.kept _ there
      rw [absent] at still
      cases still
    · rw [tolerant] at required
      cases required
  | incomplete found fewer =>
    obtain rfl := congrArg Event.call same
    simp only [Event.mk.injEq, heq_eq_eq, true_and, Option.some.injEq] at same
    have landed := recoverable.allLanded healthy due demanded.2 kept
    have enough := landed.length_le once same
    exact Nat.not_lt.mpr enough fewer

theorem Recoverable.steps (recoverable : archiver.Recoverable cutoff start now)
    (healthy : archiver.Healthy cutoff start) (covers : archiver.Covers own)
    (due : ∀ text ∈ ids, (archiver.owning own).IsDue cutoff start text suffix)
    (advances : archiver.Advances cutoff start (archiver.IsLinked ids) now after) :
    archiver.Steps own cutoff start now after := by
  refine advances.mono ?_
  intro id source held root linked
  obtain ⟨text, among, points⟩ := linked
  -- The link of a root says which root it is, so the one that goes is the one that was found.
  have original := recoverable.between.stays _ healthy.isLive_root id source held
  obtain ⟨_, _, _, written, link⟩ := healthy.exists_text original root
  cases link.symm.trans points
  obtain ⟨other, another, there, found, named, _⟩ := due _ among
  obtain ⟨_, rfl⟩ := healthy.eq_of_text original there root
    (isRoot_of_finds (finds_of_owning covers found)) written named
  exact found

/-- What a record and a ledger say while a move is under way in company. -/
structure Abides (archiver : Archiver) (own theirs : Partitions) (cutoff : Instant)
    (start : Holdings) (suffix : String) (ids : List String) (known : String → Bool)
    (begun : Holdings) (history : History) (ledger : Ledger) : Prop where
  recoverable : archiver.Recoverable cutoff start ledger.held
  kept : ∀ event ∈ history, event.Kept Troubles.calm.Honest ledger.held
  mindful : ∀ destination, known destination = true →
    (ledger.held.documents? destination).isSome = true
  sound : ∀ event ∈ history, ¬archiver.mover.Foils suffix ids event
  proper : ∀ deed ∈ ledger.deeds, archiver.Steps own cutoff start deed.before deed.after
  since : archiver.Advances cutoff start (archiver.Takes theirs cutoff ids) begun ledger.held

section Company

variable {begun : Holdings} {history : History} {ledger : Ledger}

theorem abides_begun {site : Site Ledger} (safe : archiver.IsSafe cutoff start site.contents)
    (proper : Backend.Proper (archiver.Steps own cutoff start) site) :
    archiver.Abides own theirs cutoff start suffix ids site.recalls site.store.held []
      site.store where
  recoverable := safe.recoverable
  kept _ member := by cases member
  mindful := safe.mindful
  sound _ member := by cases member
  proper := proper
  since := advances_refl _ _ _ _ _

theorem Abides.company {later : Ledger}
    (abides : archiver.Abides own theirs cutoff start suffix ids known begun history ledger)
    (healthy : archiver.Healthy cutoff start) (used : archiver.IsUsed cutoff start suffix)
    (obeys : history.Obeys (archiver.mover.Demands suffix ids known))
    (advances : archiver.Steps theirs cutoff start ledger.held later.held)
    (deeds : later.deeds = ledger.deeds) :
    archiver.Abides own theirs cutoff start suffix ids known begun history later where
  recoverable := abides.recoverable.advance advances healthy
  kept event member :=
    (advances.between.upholds healthy.separates (fun _ _ _ => isUsed_of_leaves) used).kept
      (Mover.plans_of_mem obeys member) (abides.kept event member)
  mindful destination recalled := advances.between.kept _ (abides.mindful destination recalled)
  sound := abides.sound
  proper := deeds ▸ abides.proper
  since := abides.since.trans (advances.mono fun _ _ _ _ => Or.inl) healthy

theorem Abides.call {call : Call}
    (abides : archiver.Abides own theirs cutoff start suffix ids known begun history ledger)
    (healthy : archiver.Healthy cutoff start) (covers : archiver.Covers own) (nonempty : ids ≠ [])
    (once : ids.Nodup) (due : ∀ text ∈ ids, (archiver.owning own).IsDue cutoff start text suffix)
    (used : archiver.IsUsed cutoff start suffix)
    (obeys : history.Obeys (archiver.mover.Demands suffix ids known))
    (demanded : archiver.mover.Demands suffix ids known history call) :
    archiver.Abides own theirs cutoff start suffix ids known begun
      (history ++ [⟨call, some (ledger.held.perform call).1⟩]) (ledger.record call) := by
  have owed : ∀ text ∈ ids, archiver.IsDue cutoff start text suffix :=
    fun text among => isDue_of_owning covers (due text among)
  have apart := healthy.separates.apart suffix used
  have planned := Mover.plans_of_demands obeys demanded
  have served : Backend.outages .calm call ledger.held (some (ledger.held.perform call).1)
      (ledger.held.after call) := Or.inl ⟨rfl, rfl⟩
  have effect : archiver.mover.Effect suffix ids call ledger.held (ledger.held.after call) :=
    Mover.effect_after _ apart planned
  have advances := abides.recoverable.advances healthy Troubles.honest_calm owed used
    abides.mindful obeys demanded abides.kept (Or.inr rfl) effect
  constructor
  case recoverable => exact abides.recoverable.advance advances healthy
  case kept =>
    intro event member
    rcases List.mem_append.mp member with before | new
    · exact (effect.upholds apart).kept (Mover.plans_of_mem obeys before) (abides.kept event before)
    · cases List.mem_singleton.mp new
      exact Mover.kept_of_reply apart planned served
  case mindful =>
    exact fun destination recalled => effect.grows destination (abides.mindful destination recalled)
  case sound =>
    intro event member
    rcases List.mem_append.mp member with before | new
    · exact abides.sound event before
    · cases List.mem_singleton.mp new
      exact abides.recoverable.not_foils healthy nonempty once owed demanded abides.kept
  case proper =>
    intro deed made
    rcases List.mem_append.mp made with before | new
    · exact abides.proper deed before
    · cases List.mem_singleton.mp new
      exact abides.recoverable.steps healthy covers due advances
  case since => exact abides.since.trans (advances.mono fun _ _ _ _ => Or.inr) healthy

theorem abides_maintained (theirs : Partitions) (healthy : archiver.Healthy cutoff start)
    (covers : archiver.Covers own) (nonempty : ids ≠ []) (once : ids.Nodup)
    (due : ∀ text ∈ ids, (archiver.owning own).IsDue cutoff start text suffix)
    (used : archiver.IsUsed cutoff start suffix) :
    archiver.mover.Maintains suffix ids known
      (Backend.shared (archiver.Steps theirs cutoff start))
      (archiver.Abides own theirs cutoff start suffix ids known begun) := by
  intro history call ledger reply after obeys demanded served abides
  obtain ⟨between, answered, others, deeds⟩ := served
  obtain ⟨rfl, rfl⟩ := Backend.booked_never answered
  have stepped := abides.call healthy covers nonempty once due used obeys demanded
  exact stepped.company healthy used ((History.obeys_concat _ _ _).mpr ⟨obeys, demanded⟩) others
    deeds

end Company

/-- What has become of a site when the roots of some ids have been moved in company. -/
structure Moved (archiver : Archiver) (own theirs : Partitions) (cutoff : Instant)
    (start : Holdings) (ids : List String) (before after : Site Ledger) : Prop where
  safe : archiver.IsSafe cutoff start after.contents
  proper : Backend.Proper (archiver.Steps own cutoff start) after
  since : archiver.Advances cutoff start (archiver.Takes theirs cutoff ids) before.store.held
    after.store.held
  gone : ∀ id source, after.store.held.document? archiver.finder.root.index id = some source →
    ¬archiver.IsLinked ids source

theorem ensures_moveTo_company (healthy : archiver.Healthy cutoff start)
    (covers : archiver.Covers own) (nonempty : ids ≠ []) (once : ids.Nodup)
    (due : ∀ text ∈ ids, (archiver.owning own).IsDue cutoff start text suffix)
    (site : Site Ledger) (safe : archiver.IsSafe cutoff start site.contents)
    (proper : Backend.Proper (archiver.Steps own cutoff start) site) :
    (Backend.company (archiver.Steps theirs cutoff start)
      (archiver.Steps own cutoff start)).Ensures
      (fun result after => result = .ok ids.length ∧
        archiver.Moved own theirs cutoff start ids site after)
      (archiver.mover.moveTo suffix ids) site := by
  obtain ⟨text, among⟩ := List.exists_mem_of_ne_nil ids nonempty
  have used : archiver.IsUsed cutoff start suffix :=
    ⟨text, isDue_of_owning covers (due text among)⟩
  have ensured := Mover.ensures_moveTo_maintained (fun _ => False) (fun _ => False) archiver.mover
    suffix ids site (Backend.restful_shared _)
    (abides_maintained theirs healthy covers nonempty once due used)
    (abides_begun safe proper)
  refine (ensured.mono ?finished).relax (fun _ _ _ _ => id) (fun _ _ => id) ?proper fun _ => id
  case proper =>
    intro after reached
    obtain ⟨_, _, abides⟩ := reached
    exact abides.proper
  case finished =>
    intro result after reached
    obtain ⟨history, ⟨conduct, abides⟩, outcome⟩ := reached
    rcases result with failure | count
    · -- A move fails only when an answer foils it.
      obtain ⟨event, member, foils⟩ := outcome
      exact absurd foils (abides.sound event member)
    obtain ⟨rfl, ready, deleted⟩ := outcome
    refine ⟨rfl, ⟨abides.recoverable, ?_⟩, abides.proper, abides.since, ?_⟩
    · intro destination recalled
      rcases conduct.mindful destination recalled with known | ⟨event, member, same, granted⟩
      · exact abides.mindful destination known
      · exact (abides.kept event member).made destination same granted
    · intro id source held linked
      obtain ⟨root, others, finals, copies, granted, _⟩ := ready.settled
      have copied : archiver.mover.rootTransfer suffix ids ∈ history.copied.reverse := by
        rw [Mover.copied_of_finals finals copies granted, List.mem_reverse]
        exact List.mem_cons_self
      obtain ⟨event, final, deletes, done⟩ := Mover.exists_of_forall₂ deleted _ copied
      have spared := (abides.kept event (Mover.mem_of_mem_finals final)).deleted _ _ deletes done id
      rw [Mover.rootTransfer, healthy.sameRoot] at spared
      have accepted := (Filter.accepts_terms source archiver.finder.root.linkField ids).mpr linked
      rw [spared source held] at accepted
      cases accepted

end Archiver

end Archivist
