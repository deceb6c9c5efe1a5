import Archivist.Proofs.Move.Loss
import Archivist.Proofs.Move.Selection

set_option autoImplicit false

namespace Archivist

open Json (Value)

theorem Work.ensures_ensure_calm (policy : RetryPolicy) (destination : String)
    (site : Site Holdings) :
    Backend.calm.Ensures (fun result after => result = .ok () ∧
      (after.store = site.store ∨ after.store = site.store.after (.ensureExists destination)))
      (Work.ensure policy destination) site := by
  refine ⟨trivial, fun known after reached => ?_⟩
  obtain ⟨rfl, rfl⟩ := reached
  refine ⟨trivial, ?_⟩
  simp only [Dialogue.finish_bind]
  split
  · exact ⟨rfl, Or.inl rfl⟩
  · rw [Setting.ensures_andThen, Setting.ensures_mapFailure]
    refine Backend.ensures_call_calm _ _ _ after _ ?_
    cases outcome : (after.store.perform (.ensureExists destination)).1 with
    | error failure =>
      simp only [Holdings.perform] at outcome
      split at outcome <;> cases outcome
    | ok value =>
      refine ⟨trivial, fun _ later remembered => ?_⟩
      rw [show later = _ from remembered]
      exact ⟨trivial, rfl, Or.inr rfl⟩

namespace Mover

def IsBatchRoot (mover : Mover) (ids : List String) (source : Value) : Prop :=
  mover.root.isRoot source = true ∧ ∃ text ∈ ids, source.textAt mover.root.idField = some text

/-- Once the roots are copied, one of them is in their destination under this id. -/
def Lands (mover : Mover) (suffix : String) (ids : List String) (now : Holdings)
    (id : String) : Prop :=
  ∃ source, (now.after (mover.rootTransfer suffix ids).copying).document?
    (mover.root.index ++ suffix) id = some source ∧ mover.IsBatchRoot ids source

def ArePresent (dependents : List Dependent) (now : Holdings) : Prop :=
  ∀ dependent ∈ dependents,
    (now.documents? dependent.index).isSome = true ∨ dependent.orphanTolerant = true

/-- What a move needs of a store in order to succeed. -/
structure Movable (mover : Mover) (suffix : String) (ids : List String) (now : Holdings) :
    Prop where
  rooted : (now.documents? mover.root.index).isSome = true
  present : ArePresent mover.separateDependents now
  /-- There are as many roots as the batch has ids, or more. -/
  counted : ∃ names : List String, names.Nodup ∧ ids.length ≤ names.length ∧
    ∀ id ∈ names, mover.Lands suffix ids now id

/-- A document that a move takes along is leaving, with the suffix of the move. -/
def Along (mover : Mover) (suffix : String) (ids : List String) (index : String) (source : Value)
    (another : String) : Prop :=
  another = suffix ∧ ∃ transfer ∈ mover.transfers suffix ids, transfer.source = index ∧
    transfer.filter.accepts source = true

/-- All that a move takes along has gone where it should, and nothing else has changed. -/
structure Moved (mover : Mover) (suffix : String) (ids : List String) (start final : Holdings) :
    Prop where
  between : mover.Between (· = suffix) (mover.Along suffix ids) start final
  gone : ∀ transfer ∈ mover.transfers suffix ids, ∀ id source,
    final.document? transfer.source id = some source → transfer.filter.accepts source = false
  made : ∀ transfer ∈ mover.transfers suffix ids,
    (final.documents? transfer.destination).isSome = true

variable {mover : Mover} {suffix : String} {ids : List String} {start now final : Holdings}

theorem Apart.separates (apart : mover.Apart suffix) : mover.Separates (· = suffix) where
  apart := by
    intro another same
    rwa [same]
  distinct := by
    intro base other one another _ _ same also equal
    rw [same, also] at equal
    exact String.append_left_inj suffix |>.mp equal

theorem takesLeaving_along (mover : Mover) (suffix : String) (ids : List String)
    (start : Holdings) : mover.TakesLeaving suffix ids start (mover.Along suffix ids) :=
  fun transfer planned _ _ _ accepted => ⟨rfl, transfer, planned, rfl, accepted⟩

theorem Moved.settled (moved : mover.Moved suffix ids start final) :
    mover.Settled (· = suffix) (mover.Along suffix ids) start final := by
  refine moved.between.settled ?once ?gone ?made
  case once => exact fun _ _ _ _ left also => left.1.trans also.1.symm
  case gone =>
    intro index _ id source another held left
    obtain ⟨_, transfer, planned, rfl, accepted⟩ := left
    rw [moved.gone transfer planned id source held] at accepted
    cases accepted
  case made =>
    intro base another live same
    obtain ⟨collection, member, rfl⟩ := live
    subst same
    exact moved.made (collection.transfer another ids)
      (transfers_eq mover another ids ▸ List.mem_map_of_mem member)

/-- A store after a copy, for which the destination may have been made. -/
structure Copied (transfer : Transfer) (now after : Holdings) : Prop where
  documents : ∀ index id,
    after.document? index id = (now.after transfer.copying).document? index id
  indices : ∀ index, transfer.destination ≠ index →
    (after.documents? index).isSome = (now.documents? index).isSome

theorem copied_after (transfer : Transfer) (now between : Holdings)
    (prepared : between = now ∨ between = now.after (.ensureExists transfer.destination)) :
    Copied transfer now (between.after transfer.copying) where
  documents index id := by
    rcases prepared with rfl | rfl <;>
      simp only [Transfer.copying, Holdings.document?_after_reindex,
        Holdings.document?_after_ensureExists]
  indices index elsewhere := by
    rcases prepared with rfl | rfl <;>
      simp only [Transfer.copying, Holdings.isSome_after_reindex,
        Holdings.isSome_after_ensureExists, elsewhere, decide_false, Bool.false_and,
        Bool.false_or]

theorem Copied.arePresent_iff {transfer : Transfer} {dependents : List Dependent}
    (copied : Copied transfer now final) (apart : mover.Apart suffix)
    (planned : transfer ∈ mover.transfers suffix ids)
    (separate : ∀ dependent ∈ dependents, dependent ∈ mover.separateDependents) :
    ArePresent dependents final ↔ ArePresent dependents now := by
  refine forall₂_congr fun dependent member => ?_
  have live : mover.IsLive dependent.index :=
    isLive_of_mem (List.mem_cons_of_mem _ (List.mem_map_of_mem (separate dependent member)))
  rw [copied.indices dependent.index (apart.destination_ne planned live)]

theorem ensures_copy_calm (transfer : Transfer)
    (elsewhere : transfer.destination ≠ transfer.source) (site : Site Holdings) :
    Backend.calm.Ensures (fun result after => Copied transfer site.store after.store ∧
      match result with
      | .ok _ => (site.store.documents? transfer.source).isSome = true ∧
        (after.store.documents? transfer.destination).isSome = true
      | .error failure => failure.isMissingSource = true ∧
        (site.store.documents? transfer.source).isSome = false)
      (mover.copy transfer) site := by
  rw [copy, Setting.ensures_andThen]
  refine (Work.ensures_ensure_calm mover.policy transfer.destination site).mono ?_
  intro made between reached
  obtain ⟨rfl, prepared⟩ := reached
  have copied := copied_after transfer site.store between.store prepared
  have same : (between.store.documents? transfer.source).isSome =
      (site.store.documents? transfer.source).isSome := by
    rcases prepared with unchanged | made
    · rw [unchanged]
    · rw [made, Holdings.isSome_after_ensureExists]
      simp only [elsewhere, decide_false, Bool.false_or]
  simp only
  rw [Setting.ensures_andThen, Setting.ensures_mapFailure]
  refine Backend.ensures_call_calm _ _ transfer.copying between _ ?_
  cases outcome : (between.store.perform transfer.copying).1 with
  | ok count =>
    have there := Holdings.isSome_of_copy_ok outcome
    refine ⟨copied, same ▸ there, ?_⟩
    rw [Transfer.copying, Holdings.isSome_after_reindex, there]
    simp only [decide_true, Bool.and_self, Bool.true_or]
  | error failure =>
    have absent := Holdings.documents?_of_copy_error outcome
    refine ⟨copied, Holdings.isMissing_of_copy_error outcome, ?_⟩
    rw [← same, absent, Option.isSome_none]

theorem error_ne_ok {Failure Result : Type} (failure : Failure) :
    ¬∃ result : Result, Except.error failure = .ok result := by
  simp only [reduceCtorEq, exists_false, not_false_eq_true]

theorem ensures_copyDependents_calm (apart : mover.Apart suffix) (dependents : List Dependent)
    (separate : ∀ dependent ∈ dependents, dependent ∈ mover.separateDependents)
    (site : Site Holdings) :
    Backend.calm.Ensures
      (fun result _ => (∃ others, result = .ok others) ↔ ArePresent dependents site.store)
      (mover.copyDependents suffix ids dependents) site := by
  induction dependents generalizing site with
  | nil => exact iff_of_true ⟨[], rfl⟩ (List.forall_mem_nil _)
  | cons dependent rest ih =>
    have listed := separate dependent List.mem_cons_self
    have restSeparate : ∀ other ∈ rest, other ∈ mover.separateDependents :=
      fun other member => separate other (List.mem_cons_of_mem dependent member)
    have planned : dependentTransfer dependent suffix ids ∈ mover.transfers suffix ids :=
      List.mem_cons_of_mem _ (List.mem_map_of_mem listed)
    rw [copyDependents, Setting.ensures_bind]
    refine (ensures_copy_calm _ (apart.destination_ne planned (isLive_source planned))
      site).mono ?_
    intro outcome between reached
    obtain ⟨copied, reached⟩ := reached
    have later := ih restSeparate between
    rw [copied.arePresent_iff apart planned restSeparate] at later
    rw [ArePresent, List.forall_mem_cons, ← ArePresent]
    rcases outcome with failure | _
    · obtain ⟨missing, absent⟩ := reached
      simp only
      split
      · rename_i tolerated
        have tolerant := ((Bool.and_eq_true _ _).mp tolerated).1
        rw [Setting.ensures_bind]
        refine Backend.ensures_count _ _ between _ trivial (later.mono ?_)
        intro result _ settled
        rw [settled]
        exact ⟨fun present => ⟨Or.inr tolerant, present⟩, And.right⟩
      · rename_i untolerated
        rw [missing, Bool.and_true] at untolerated
        rw [Setting.ensures_bind]
        refine Backend.ensures_count _ _ between _ trivial
          (iff_of_false (error_ne_ok failure) fun present => ?_)
        rcases present.1 with there | tolerant
        · exact absurd (there.symm.trans absent) Bool.noConfusion
        · exact absurd tolerant untolerated
    · rw [Setting.ensures_andThen]
      refine later.mono ?_
      intro result _ settled
      rcases result with failure | others
      · exact iff_of_false (error_ne_ok failure) fun present =>
          error_ne_ok failure (settled.mpr present.2)
      · exact iff_of_true ⟨_, rfl⟩ ⟨Or.inl reached.1, settled.mp ⟨others, rfl⟩⟩

theorem ensures_refreshAll_calm (transfers : List Transfer) (site : Site Holdings) :
    Backend.calm.Ensures (fun result _ => result = .ok ()) (mover.refreshAll transfers) site := by
  induction transfers generalizing site with
  | nil => rfl
  | cons transfer rest ih =>
    rw [refreshAll, Setting.ensures_andThen, Setting.ensures_mapFailure]
    exact Backend.ensures_call_calm _ _ (.refresh transfer.destination) site _ (ih _)

theorem ensures_deleteAll_calm (transfers : List Transfer) (site : Site Holdings) :
    Backend.calm.Ensures (fun result _ => result = .ok ()) (mover.deleteAll transfers) site := by
  induction transfers generalizing site with
  | nil => rfl
  | cons transfer rest ih =>
    rw [deleteAll, Setting.ensures_andThen, Setting.ensures_mapFailure, Setting.ensures_onFailure]
    refine Backend.ensures_call_calm _ _ transfer.deletion site _ ?_
    cases outcome : (site.store.perform transfer.deletion).1 with
    | ok count => exact ih _
    | error failure =>
      rw [Transfer.deletion] at outcome
      simp only [Holdings.perform] at outcome
      split at outcome <;> cases outcome

/-- Once the roots are copied, the search for them has a full page if there are enough of them. -/
theorem limit_le_iff {after : Holdings} {page : List Record}
    (copied : Copied (mover.rootTransfer suffix ids) now after)
    (answered : (after.perform (.search (mover.verification
      (mover.rootTransfer suffix ids).destination ids))).1 = .ok page) :
    ids.length ≤ page.length ↔ ∃ names : List String, names.Nodup ∧ ids.length ≤ names.length ∧
      ∀ id ∈ names, mover.Lands suffix ids now id := by
  constructor
  · intro enough
    refine ⟨page.map Record.id, Holdings.nodup_of_search answered, ?_, ?_⟩
    · rwa [List.length_map]
    · intro id member
      obtain ⟨record, shown, rfl⟩ := List.mem_map.mp member
      obtain ⟨held, accepted⟩ := Holdings.mem_of_search answered record shown
      rw [copied.documents] at held
      exact ⟨record.source, held, (accepts_verification _ _ _ _).mp accepted⟩
  · intro given
    obtain ⟨names, once, enough, landed⟩ := given
    refine Holdings.limit_le_of_search Record.id answered rfl once enough fun id member => ?_
    obtain ⟨source, held, root⟩ := landed id member
    rw [← copied.documents] at held
    exact ⟨id, source, held, (accepts_verification _ _ _ _).mpr root, rfl⟩

theorem ensures_moveTo_movable (apart : mover.Apart suffix) (site : Site Holdings) :
    Backend.calm.Ensures
      (fun result _ => (∃ count, result = .ok count) ↔ mover.Movable suffix ids site.store)
      (mover.moveTo suffix ids) site := by
  have planned : mover.rootTransfer suffix ids ∈ mover.transfers suffix ids := List.mem_cons_self
  rw [moveTo, Setting.ensures_andThen, Setting.ensures_onFailure]
  refine (ensures_copy_calm _ (apart.destination_ne planned (isLive_source planned)) site).mono ?_
  intro outcome between reached
  obtain ⟨copied, reached⟩ := reached
  rcases outcome with failure | _
  · refine Backend.ensures_count _ _ between _ trivial
      (iff_of_false (error_ne_ok failure) fun movable => ?_)
    exact absurd (movable.rooted.symm.trans reached.2) Bool.noConfusion
  simp only
  rw [Setting.ensures_andThen, countArchived, Setting.ensures_andThen, Setting.ensures_mapFailure]
  refine Backend.ensures_call_calm _ _ (.search _) between _ ?_
  cases outcome : (between.store.perform (.search (mover.verification
      (mover.rootTransfer suffix ids).destination ids))).1 with
  | error failure =>
    have absent := Holdings.documents?_of_search_error outcome
    rw [show (mover.verification (mover.rootTransfer suffix ids).destination ids).index =
      (mover.rootTransfer suffix ids).destination from rfl] at absent
    exact absurd (absent ▸ reached.2) Bool.noConfusion
  | ok page =>
    have counted := limit_le_iff copied outcome
    simp only [Except.mapError, Setting.Ensures]
    split
    · rename_i fewer
      rw [Setting.ensures_bind]
      refine Backend.ensures_count _ _ _ _ trivial
        (iff_of_false (error_ne_ok _) fun movable => ?_)
      exact absurd (counted.mpr movable.counted) (Nat.not_le.mpr fewer)
    rename_i enough
    rw [Holdings.after_search, Setting.ensures_andThen]
    refine (ensures_copyDependents_calm apart mover.separateDependents (fun _ => id) _).mono ?_
    intro result _ settled
    rw [copied.arePresent_iff apart planned fun _ => id] at settled
    rcases result with failure | others
    · exact iff_of_false (error_ne_ok failure) fun movable =>
        error_ne_ok failure (settled.mpr movable.present)
    have movable : mover.Movable suffix ids site.store :=
      ⟨reached.1, settled.mp ⟨others, rfl⟩, counted.mp (Nat.not_lt.mp enough)⟩
    simp only
    rw [Setting.ensures_andThen]
    refine (ensures_refreshAll_calm _ _).mono ?_
    rintro _ _ rfl
    simp only
    rw [Setting.ensures_andThen]
    refine (ensures_deleteAll_calm _ _).mono ?_
    rintro _ _ rfl
    exact iff_of_true ⟨_, rfl⟩ movable

theorem ensures_moveTo_moved (apart : mover.Apart suffix) (site : Site Holdings)
    (mindful : ∀ destination, site.recalls destination = true →
      (site.store.documents? destination).isSome = true) :
    Backend.calm.Ensures (fun result after => ∀ count, result = .ok count →
      count = ids.length ∧ mover.Moved suffix ids site.store after.store ∧
        ∀ destination, after.recalls destination = true →
          (after.store.documents? destination).isSome = true)
      (mover.moveTo suffix ids) site := by
  have preserves : mover.Preserves suffix ids site.recalls .calm fun now =>
      mover.Between (· = suffix) (mover.Along suffix ids) site.store now ∧
        ∀ destination, site.recalls destination = true →
          (now.documents? destination).isSome = true := by
    intro history call now after obeys demanded kept _ effect held
    refine ⟨held.1.effect apart.separates (fun _ _ _ => And.left) rfl
      (takesLeaving_along mover suffix ids site.store) (hasCopied_of_demands obeys demanded kept)
      effect, ?_⟩
    exact fun destination recalled => effect.grows destination (held.2 destination recalled)
  have ensured := ensures_moveTo_maintained (fun _ => False) (fun _ => False) mover suffix ids
    site Backend.restful_calm (preserves.maintains apart)
    ⟨⟨between_refl mover _ _ site.store, mindful⟩,
      by simp only [List.not_mem_nil, false_implies, implies_true]⟩
  refine (ensured.mono ?_).relax (fun _ _ _ _ => id) (fun _ _ => id) (fun _ _ => trivial)
    fun _ => id
  intro result after reached count same
  obtain ⟨history, ⟨conduct, ⟨between, known⟩, kept⟩, ends⟩ := reached
  subst same
  obtain ⟨rfl, ready, deleted⟩ := ends
  refine ⟨rfl, ⟨between, ?_, ?_⟩, ?_⟩
  · exact ready.emptied Troubles.honest_calm kept deleted
  · exact ready.made conduct.obeys kept known
  · intro destination recalled
    rcases conduct.mindful destination recalled with before | ⟨event, member, same, granted⟩
    · exact known destination before
    · exact (kept event member).made destination same granted

/-- What a move makes of a store when nothing fails: it succeeds where it can, and then it has moved
all that it takes along. -/
theorem ensures_moveTo_calm (apart : mover.Apart suffix) (site : Site Holdings)
    (mindful : ∀ destination, site.recalls destination = true →
      (site.store.documents? destination).isSome = true) :
    Backend.calm.Ensures (fun result after =>
      match result with
      | .ok count => count = ids.length ∧ mover.Movable suffix ids site.store ∧
        mover.Moved suffix ids site.store after.store ∧
        ∀ destination, after.recalls destination = true →
          (after.store.documents? destination).isSome = true
      | .error _ => ¬mover.Movable suffix ids site.store)
      (mover.moveTo suffix ids) site := by
  refine ((ensures_moveTo_movable apart site).both (ensures_moveTo_moved apart site mindful)
    fun _ _ _ _ served _ => served).mono ?_
  intro result after reached
  obtain ⟨possible, done⟩ := reached
  rcases result with failure | count
  · exact fun movable => error_ne_ok failure (possible.mpr movable)
  · obtain ⟨counted, moved, mindful⟩ := done count rfl
    exact ⟨counted, possible.mp ⟨count, rfl⟩, moved, mindful⟩

end Mover

end Archivist
