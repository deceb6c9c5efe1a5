import Archivist.Proofs.Cycle.Due

set_option autoImplicit false

/-!
Half-finished archiving. `Archiver.Recoverable` says how a store may look between the start of some
cycles and their end, whatever failed on the way: roots that are due are still live, or all that
belongs to them is gone from the live indices. `Archiver.Advances` says the same of a part of the way,
and `Recoverable.advances` that the calls of moves are such parts.
-/

namespace Archivist

open Calendar (Date Instant)
open Json (Value)

namespace Archiver

/-- All that belongs to a root has left the live indices, and its destinations are there. -/
structure Cleared (archiver : Archiver) (text suffix : String) (now : Holdings) : Prop where
  made : ∀ index, archiver.mover.IsLive index →
    (now.documents? (index ++ suffix)).isSome = true
  emptied : ∀ collection ∈ archiver.mover.collections, ∀ id source,
    now.document? collection.index id = some source → source.textAt collection.field ≠ some text

structure Recoverable (archiver : Archiver) (cutoff : Instant) (start now : Holdings) : Prop where
  between : archiver.mover.Between (archiver.IsUsed cutoff start)
    (archiver.Leaves cutoff start) start now
  finished : ∀ text suffix, archiver.IsDue cutoff start text suffix →
    archiver.IsDue cutoff now text suffix ∨ archiver.Cleared text suffix now

/-- How a store may go on after the start of some cycles: what leaves goes where it should, a root
that was due is still live or all that belongs to it has left, and of the root records only those
leave that may be taken. -/
structure Advances (archiver : Archiver) (cutoff : Instant) (start : Holdings)
    (takes : Value → Prop) (now after : Holdings) : Prop where
  between : archiver.mover.Between (archiver.IsUsed cutoff start)
    (archiver.Leaves cutoff start) now after
  finished : ∀ text suffix, archiver.IsDue cutoff start text suffix →
    archiver.IsDue cutoff now text suffix →
      archiver.IsDue cutoff after text suffix ∨ archiver.Cleared text suffix after
  spares : ∀ id source, now.document? archiver.finder.root.index id = some source →
    archiver.finder.root.isRoot source = true →
      after.document? archiver.finder.root.index id = some source ∨ takes source

def IsLinked (archiver : Archiver) (ids : List String) (source : Value) : Prop :=
  ∃ text ∈ ids, source.textAt archiver.finder.root.linkField = some text

variable {archiver : Archiver} {cutoff : Instant} {start now after : Holdings}
  {suffix : String} {ids : List String} {known : String → Bool}

theorem advances_refl (archiver : Archiver) (cutoff : Instant) (start : Holdings)
    (takes : Value → Prop) (now : Holdings) : archiver.Advances cutoff start takes now now :=
  ⟨Mover.between_refl _ _ _ now, fun _ _ _ due => Or.inl due, fun _ _ held _ => Or.inl held⟩

theorem Cleared.between {text another : String} {due : String → Prop}
    {leaves : String → Value → String → Prop} (cleared : archiver.Cleared text another now)
    (between : archiver.mover.Between due leaves now after) :
    archiver.Cleared text another after where
  made index live := between.kept _ (cleared.made index live)
  emptied collection member id source held :=
    cleared.emptied collection member id source
      (between.stays _ (Mover.isLive_of_mem member) id source held)

namespace Advances

variable {takes : Value → Prop}

theorem trans {between : Holdings} (earlier : archiver.Advances cutoff start takes now between)
    (later : archiver.Advances cutoff start takes between after)
    (healthy : archiver.Healthy cutoff start) :
    archiver.Advances cutoff start takes now after where
  between := earlier.between.trans healthy.separates (fun _ _ _ => isUsed_of_leaves) later.between
  finished text suffix due still := by
    rcases earlier.finished text suffix due still with yet | cleared
    · exact later.finished text suffix due yet
    · exact Or.inr (cleared.between later.between)
  spares id source held root := by
    rcases earlier.spares id source held root with still | taken
    · exact later.spares id source still root
    · exact Or.inr taken

theorem mono {other : Value → Prop} (advances : archiver.Advances cutoff start takes now after)
    (weaker : ∀ id source, now.document? archiver.finder.root.index id = some source →
      archiver.finder.root.isRoot source = true → takes source → other source) :
    archiver.Advances cutoff start other now after where
  between := advances.between
  finished := advances.finished
  spares id source held root :=
    (advances.spares id source held root).imp_right (weaker id source held root)

end Advances

theorem Recoverable.advance {takes : Value → Prop}
    (recoverable : archiver.Recoverable cutoff start now)
    (advances : archiver.Advances cutoff start takes now after)
    (healthy : archiver.Healthy cutoff start) : archiver.Recoverable cutoff start after where
  between := recoverable.between.trans healthy.separates (fun _ _ _ => isUsed_of_leaves)
    advances.between
  finished text suffix due := by
    rcases recoverable.finished text suffix due with still | cleared
    · exact advances.finished text suffix due still
    · exact Or.inr (cleared.between advances.between)

theorem recoverable_refl (archiver : Archiver) (cutoff : Instant) (start : Holdings) :
    archiver.Recoverable cutoff start start :=
  ⟨Mover.between_refl _ _ _ start, fun _ _ due => Or.inl due⟩

/-- Once nothing is due any more, everything that belongs to a root that was due has left. -/
theorem Recoverable.gone (recoverable : archiver.Recoverable cutoff start now)
    (nothing : ∀ text suffix, ¬archiver.IsDue cutoff now text suffix) {index id suffix : String}
    {source : Value} (held : now.document? index id = some source) :
    ¬archiver.Leaves cutoff start index source suffix := by
  intro leaves
  obtain ⟨collection, member, rfl, text, linked, due⟩ := leaves
  have cleared := (recoverable.finished text suffix due).resolve_left (nothing text suffix)
  exact cleared.emptied collection member id source held linked

theorem Healthy.leaves_unique (healthy : archiver.Healthy cutoff start) {index suffix other : String}
    {source : Value} (leaves : archiver.Leaves cutoff start index source suffix)
    (also : archiver.Leaves cutoff start index source other) : suffix = other := by
  obtain ⟨collection, member, same, text, linked, due⟩ := leaves
  obtain ⟨another, listed, here, name, points, owed⟩ := also
  cases healthy.collection_eq member listed (same.trans here.symm)
  cases linked.symm.trans points
  exact healthy.suffix_unique due owed

theorem Recoverable.archived (recoverable : archiver.Recoverable cutoff start now)
    (healthy : archiver.Healthy cutoff start)
    (nothing : ∀ text suffix, ¬archiver.IsDue cutoff now text suffix) :
    archiver.Archived cutoff start now := by
  have settled := recoverable.between.settled (fun _ _ _ _ => healthy.leaves_unique)
    (fun _ _ _ _ _ => recoverable.gone nothing) ?made
  exact ⟨settled.stays, settled.arrives, settled.others, settled.indices⟩
  case made =>
    intro base suffix live used
    obtain ⟨text, due⟩ := used
    have cleared := (recoverable.finished text suffix due).resolve_left (nothing text suffix)
    exact cleared.made base live

theorem takesLeaving_of_isDue (now : Holdings)
    (due : ∀ text ∈ ids, archiver.IsDue cutoff start text suffix) :
    archiver.mover.TakesLeaving suffix ids now (archiver.Leaves cutoff start) := by
  intro transfer planned id source _ accepted
  obtain ⟨collection, member, rfl⟩ := Mover.exists_collection planned
  obtain ⟨text, among, linked⟩ := (Filter.accepts_terms source collection.field ids).mp accepted
  exact ⟨collection, member, rfl, text, linked, due text among⟩

namespace Healthy

variable (healthy : archiver.Healthy cutoff start)
include healthy

theorem root_alone : ∀ dependent ∈ archiver.mover.separateDependents,
    dependent.index ≠ archiver.mover.root.index := by
  intro dependent listed same
  have once := healthy.listedOnce
  simp only [Mover.collections, List.map_cons, List.map_map, List.nodup_cons] at once
  exact once.1 (List.mem_map.mpr ⟨dependent, listed, same⟩)

theorem linked_of_deleted {history : History} {filter : Filter} {source : Value}
    (obeys : history.Obeys (archiver.mover.Demands suffix ids known))
    (demanded : archiver.mover.Demands suffix ids known history
      (.deleteByQuery archiver.finder.root.index filter))
    (accepted : filter.accepts source = true) : archiver.IsLinked ids source := by
  obtain ⟨transfer, member, from_, rfl⟩ := Mover.plans_of_demands obeys demanded
  obtain ⟨own, listed, rfl⟩ := Mover.exists_collection member
  rw [IsLinked, ← healthy.sameRoot]
  rw [← healthy.sameRoot] at from_
  cases healthy.collection_eq listed List.mem_cons_self from_
  exact (Filter.accepts_terms source _ ids).mp accepted

end Healthy

theorem made_of_demands {history : History} {index filter} {troubles : Troubles}
    (obeys : history.Obeys (archiver.mover.Demands suffix ids known))
    (demanded : archiver.mover.Demands suffix ids known history (.deleteByQuery index filter))
    (kept : ∀ event ∈ history, event.Kept troubles.Honest now)
    (mindful : ∀ destination, known destination = true →
      (now.documents? destination).isSome = true)
    {base : String} (live : archiver.mover.IsLive base) :
    (now.documents? (base ++ suffix)).isSome = true := by
  obtain ⟨collection, there, rfl⟩ := live
  exact demanded.toReady.made obeys kept mindful (collection.transfer suffix ids)
    (Mover.transfers_eq archiver.mover suffix ids ▸ List.mem_map_of_mem there)

/-- Before the roots of a batch are deleted, nothing of a separate type belongs to them any more. -/
theorem dependent_gone {history : History} {filter : Filter} {troubles : Troubles}
    (healthy : archiver.Healthy cutoff start) (honest : troubles.Honest)
    (demanded : archiver.mover.Demands suffix ids known history
      (.deleteByQuery archiver.mover.root.index filter))
    (kept : ∀ event ∈ history, event.Kept troubles.Honest now)
    {dependent : Dependent} (separate : dependent ∈ archiver.mover.separateDependents)
    {id : String} {source : Value} (held : now.document? dependent.index id = some source) :
    (Mover.dependentTransfer dependent suffix ids).filter.accepts source = false := by
  rcases demanded.dependents_gone healthy.root_alone dependent separate with
    ⟨event, inHistory, deletes, granted⟩ | ⟨event, inHistory, copies, missing⟩
  · exact (kept event inHistory).deleted _ _ deletes granted id source held
  · have absent := (kept event inHistory).absent honest _ copies missing
    have nothing : now.document? dependent.index id = none :=
      now.document?_of_missing dependent.index id absent
    cases held.symm.trans nothing

theorem cleared_of_deletion {history : History} {filter : Filter} {text : String}
    {troubles : Troubles} (healthy : archiver.Healthy cutoff start) (honest : troubles.Honest)
    (obeys : history.Obeys (archiver.mover.Demands suffix ids known))
    (demanded : archiver.mover.Demands suffix ids known history
      (.deleteByQuery archiver.mover.root.index filter))
    (kept : ∀ event ∈ history, event.Kept troubles.Honest now)
    (mindful : ∀ destination, known destination = true →
      (now.documents? destination).isSome = true)
    (among : text ∈ ids) :
    archiver.Cleared text suffix
      (now.after (.deleteByQuery archiver.mover.root.index filter)) := by
  have planned := Mover.plans_of_demands obeys demanded
  obtain ⟨transfer, member, source, same⟩ := planned
  have live := source ▸ Mover.isLive_source member
  have effect : archiver.mover.Effect suffix ids _ now
      (now.after (.deleteByQuery archiver.mover.root.index filter)) :=
    Mover.effect_deleteByQuery _ filter now live
  obtain ⟨own, listed, rfl⟩ := Mover.exists_collection member
  cases healthy.collection_eq listed List.mem_cons_self source
  subst same
  refine ⟨fun index other => effect.grows _ (made_of_demands obeys demanded kept mindful other), ?_⟩
  intro collection there id found held linked
  have accepted : (Filter.terms collection.field (Mover.texts ids)).accepts found = true :=
    (Filter.accepts_terms found collection.field ids).mpr ⟨text, among, linked⟩
  have before := effect.live _ (Mover.isLive_of_mem there) id found held
  rcases List.mem_cons.mp there with rfl | others
  · rw [Holdings.document?_after_deleteByQuery, if_pos rfl] at held
    have spared := (Option.filter_eq_some_iff.mp held).2
    rw [show (Collection.transfer _ suffix ids).filter.accepts found = true from accepted] at spared
    cases spared
  · obtain ⟨dependent, separate, rfl⟩ := List.mem_map.mp others
    have emptied := dependent_gone healthy honest demanded kept separate before
    rw [show (Mover.dependentTransfer dependent suffix ids).filter.accepts found = true from
      accepted] at emptied
    cases emptied

/-- A call of a move is a step onward, which takes no roots but those of its batch. -/
theorem Recoverable.advances {history : History} {call : Call} {troubles : Troubles}
    (recoverable : archiver.Recoverable cutoff start now)
    (healthy : archiver.Healthy cutoff start) (honest : troubles.Honest)
    (due : ∀ text ∈ ids, archiver.IsDue cutoff start text suffix)
    (used : archiver.IsUsed cutoff start suffix)
    (mindful : ∀ destination, known destination = true →
      (now.documents? destination).isSome = true)
    (obeys : history.Obeys (archiver.mover.Demands suffix ids known))
    (demanded : archiver.mover.Demands suffix ids known history call)
    (kept : ∀ event ∈ history, event.Kept troubles.Honest now)
    (took : after = now ∨ after = now.after call)
    (effect : archiver.mover.Effect suffix ids call now after) :
    archiver.Advances cutoff start (archiver.IsLinked ids) now after where
  between := Mover.between_of_effect (healthy.separates.apart suffix used) used
    (takesLeaving_of_isDue now due) (Mover.hasCopied_of_demands obeys demanded kept) effect
  finished := by
    intro text another owed still
    obtain ⟨id, source, held, found, named, goes⟩ := still
    rcases effect.gone _ healthy.isLive_root id source held with yet | ⟨filter, rfl, accepted⟩
    · exact Or.inl ⟨id, source, yet, found, named, goes⟩
    · rcases took with rfl | rfl
      · exact Or.inl ⟨id, source, held, found, named, goes⟩
      · obtain ⟨linked, among, points⟩ := healthy.linked_of_deleted obeys demanded accepted
        have original := recoverable.between.stays _ healthy.isLive_root id source held
        obtain ⟨_, _, _, written, link⟩ := healthy.exists_text original (isRoot_of_finds found)
        cases points.symm.trans link
        cases named.symm.trans written
        rw [healthy.suffix_unique owed (due _ among)]
        rw [← healthy.sameRoot] at demanded ⊢
        exact Or.inr (cleared_of_deletion healthy honest obeys demanded kept mindful among)
  spares := by
    intro id source held _
    rcases effect.gone _ healthy.isLive_root id source held with yet | ⟨filter, rfl, accepted⟩
    · exact Or.inl yet
    · exact Or.inr (healthy.linked_of_deleted obeys demanded accepted)

def IsMindful (site : Site Holdings) : Prop :=
  ∀ destination, site.recalls destination = true →
    (site.store.documents? destination).isSome = true

structure IsSafe (archiver : Archiver) (cutoff : Instant) (start : Holdings)
    (site : Site Holdings) : Prop where
  recoverable : archiver.Recoverable cutoff start site.store
  mindful : IsMindful site

/-- Wherever a move of roots that are due is cut off, the store can be recovered. -/
theorem ensures_moveTo_safe {troubles : Troubles} (rests : Holdings → Prop)
    (excuses : Crash → Prop) (healthy : archiver.Healthy cutoff start) (honest : troubles.Honest)
    (restful : (Backend.outages troubles).Restful rests)
    (some_ : ids ≠ []) (due : ∀ text ∈ ids, archiver.IsDue cutoff start text suffix)
    (site : Site Holdings) (safe : archiver.IsSafe cutoff start site) :
    ((Backend.outages troubles).setting rests (archiver.IsSafe cutoff start) excuses).Ensures
      (fun _ after => archiver.IsSafe cutoff start after) (archiver.mover.moveTo suffix ids)
      site := by
  obtain ⟨text, among⟩ := List.exists_mem_of_ne_nil ids some_
  have used : archiver.IsUsed cutoff start suffix := ⟨text, due text among⟩
  have ensured := Mover.ensures_moveTo_outages troubles rests
    (fun now => archiver.Recoverable cutoff start now ∧ ∀ destination,
      site.recalls destination = true → (now.documents? destination).isSome = true)
    excuses archiver.mover suffix ids (healthy.separates.apart suffix used) site restful
    (by
      intro history call now after obeys demanded kept took effect held
      obtain ⟨holds, known⟩ := held
      have advances := holds.advances healthy honest due used known obeys demanded kept took effect
      refine ⟨holds.advance advances healthy, ?_⟩
      exact fun destination recalled => effect.grows destination (known destination recalled))
    ⟨safe.recoverable, safe.mindful⟩
  have there : ∀ after : Site Holdings,
      ((archiver.Recoverable cutoff start after.store ∧ ∀ destination,
        site.recalls destination = true → (after.store.documents? destination).isSome = true) ∧
        ∀ destination, after.recalls destination = true → site.recalls destination = true ∨
          (after.store.documents? destination).isSome = true) →
      archiver.IsSafe cutoff start after := by
    intro after reached
    obtain ⟨⟨holds, known⟩, remembered⟩ := reached
    refine ⟨holds, fun destination recalled => ?_⟩
    exact (remembered destination recalled).elim (known destination) id
  exact (ensured.mono fun _ => there).relax (fun _ _ _ _ => id) (fun _ _ => id) there (fun _ => id)

end Archiver

end Archivist
