import Archivist.Proofs.Cluster.Traffic
import Archivist.Proofs.Move.Asking

set_option autoImplicit false

namespace Archivist

open Cluster (Cleaned Traffic backend copying requests)
open Json (Value)

def Transfer.removal (settings : ClusterSettings) (transfer : Transfer) : Cluster.Request :=
  Cluster.deletion settings transfer.source transfer.filter

namespace Mover

variable (settings : ClusterSettings) (mover : Mover) (suffix : String) (ids : List String)

/-- A type may be missing, and its copy was answered with the news that it is. -/
def Skipped (dependent : Dependent) (traffic : Traffic) : Prop :=
  let transfer := dependentTransfer dependent suffix ids
  dependent.orphanTolerant = true ∧ ∃ letter ∈ traffic, letter.isMissing = true ∧
    letter.request = copying settings transfer.source transfer.destination transfer.filter

/-- Each type was deleted without a failure the last time that was asked for, or it is missing. -/
def Cleared (traffic : Traffic) : Prop :=
  ∀ dependent ∈ mover.separateDependents, Skipped settings suffix ids dependent traffic ∨
    Cleaned ((dependentTransfer dependent suffix ids).removal settings) traffic

/-- Whenever the roots were to be deleted, the other types had been. -/
def Waits (traffic : Traffic) : Prop :=
  ∀ earlier letter later, traffic = earlier ++ letter :: later →
    letter.request = (mover.rootTransfer suffix ids).removal settings →
      Cleared settings mover suffix ids earlier

variable {settings mover suffix ids} {first second : Traffic} {kind : Cluster.Letter → Prop}

theorem Skipped.grows {dependent : Dependent} (skipped : Skipped settings suffix ids dependent first)
    (grows : Grows kind first second) : Skipped settings suffix ids dependent second := by
  obtain ⟨tolerant, letter, there, missing, same⟩ := skipped
  exact ⟨tolerant, letter, grows.mem there, missing, same⟩

theorem Cleared.grows (cleared : Cleared settings mover suffix ids first)
    (grows : Grows kind first second)
    (others : ∀ dependent ∈ mover.separateDependents, ∀ letter, kind letter →
      letter.request ≠ (dependentTransfer dependent suffix ids).removal settings) :
    Cleared settings mover suffix ids second := by
  intro dependent separate
  refine (cleared dependent separate).imp (·.grows grows) fun cleaned => ?_
  exact cleaned.grows grows (others dependent separate)

abbrev IsQuiet (settings : ClusterSettings) (mover : Mover) (suffix : String) (ids : List String)
    (letter : Cluster.Letter) : Prop :=
  letter.request ≠ (mover.rootTransfer suffix ids).removal settings

theorem waits_of_quiet (grows : Grows (IsQuiet settings mover suffix ids) [] first) :
    Waits settings mover suffix ids first := by
  obtain ⟨more, whole, quiet⟩ := grows
  rintro earlier letter later rfl sent
  rw [List.nil_append] at whole
  refine absurd sent (quiet letter ?_)
  exact whole ▸ List.mem_append_right earlier List.mem_cons_self

/-- No type that is moved on its own is chosen as the roots are, by the same field out of the same
index. -/
def RootsApart (mover : Mover) : Prop :=
  ∀ dependent ∈ mover.separateDependents, dependent.index = mover.root.index →
    dependent.foreignKey ≠ mover.root.linkField

instance (mover : Mover) : Decidable mover.RootsApart :=
  inferInstanceAs (Decidable (∀ dependent ∈ mover.separateDependents,
    dependent.index = mover.root.index → dependent.foreignKey ≠ mover.root.linkField))

theorem RootsApart.removal_ne (apart : mover.RootsApart) {dependent : Dependent}
    (separate : dependent ∈ mover.separateDependents) :
    (dependentTransfer dependent suffix ids).removal settings ≠
      (mover.rootTransfer suffix ids).removal settings := by
  intro same
  obtain ⟨index, field⟩ := Cluster.deletion_injective same
  exact apart dependent separate index field

theorem Cleared.waits (apart : mover.RootsApart)
    (quiet : Grows (IsQuiet settings mover suffix ids) [] first)
    (cleared : Cleared settings mover suffix ids first)
    (grows : Grows (fun letter =>
      letter.request = (mover.rootTransfer suffix ids).removal settings) first second) :
    Waits settings mover suffix ids second := by
  intro earlier letter later split sent
  obtain ⟨more, rfl, all⟩ := grows
  rcases List.append_eq_append_iff.mp split with ⟨between, rfl, rest⟩ | ⟨between, rfl, rest⟩
  · have last : Grows (fun letter =>
        letter.request = (mover.rootTransfer suffix ids).removal settings) first
        (first ++ between) :=
      ⟨between, rfl, fun other member => all other (rest ▸ List.mem_append_left _ member)⟩
    refine cleared.grows last fun dependent separate other same => ?_
    rw [same]
    exact (apart.removal_ne separate).symm
  · cases between with
    | nil => rwa [List.append_nil] at cleared
    | cons head tail =>
      cases rest
      exact waits_of_quiet quiet earlier letter tail rfl sent

theorem isMissing_of_copy {transfer : Transfer} {reply : Option transfer.copying.Reply}
    {policy : RetryPolicy} {step : String} {failure : StoreFailure}
    (served : backend settings transfer.copying first reply second)
    (answered : reply.getD (.error (policy.timedOut step)) = .error failure)
    (missing : failure.isMissing = true) :
    ∃ letter ∈ second, letter.isMissing = true ∧
      letter.request = copying settings transfer.source transfer.destination transfer.filter := by
  cases reply with
  | none =>
    cases answered
    cases missing
  | some reply =>
    rw [show reply = .error failure from answered] at served
    obtain ⟨letter, asked, rfl, told⟩ := Cluster.isMissing_of_backend missing served
    exact ⟨letter, List.mem_append_right first List.mem_cons_self, told, asked⟩

theorem ensures_not_missingSource (policy : RetryPolicy) (destination : String)
    (site : Site Traffic) :
    (Cluster.setting settings fun _ => True).Ensures (fun result _ => ∀ failure,
      result = .error failure → failure.isMissingSource = false)
      (Work.ensure policy destination) site := by
  refine ⟨trivial, fun known between _ => ⟨trivial, ?_⟩⟩
  simp only [Dialogue.finish_bind]
  split
  · exact nofun
  · rw [Setting.ensures_andThen, Setting.ensures_mapFailure]
    refine (Cluster.ensures_grows _ between).mono ?_
    rintro (failure | outcome) after _
    · intro other same
      cases same
      rfl
    · exact ⟨trivial, fun _ _ _ => ⟨trivial, nofun⟩⟩

theorem ensures_missing_of_copy (mover : Mover) (transfer : Transfer) (site : Site Traffic) :
    (Cluster.setting settings fun _ => True).Ensures (fun result later =>
      ∀ failure, result = .error failure → failure.isMissingSource = true →
        ∃ letter ∈ later.store, letter.isMissing = true ∧ letter.request =
          copying settings transfer.source transfer.destination transfer.filter)
      (mover.copy transfer) site := by
  rw [copy, Setting.ensures_andThen]
  refine (ensures_not_missingSource mover.policy transfer.destination site).mono ?_
  rintro (failure | _) between present
  · intro other same missing
    cases same
    rw [present failure rfl] at missing
    cases missing
  rw [Setting.ensures_andThen, Setting.ensures_mapFailure]
  refine (Cluster.ensures_call mover.policy "reindex" transfer.copying between).mono ?_
  rintro result later ⟨before, reply, _, served, same⟩
  rcases result with failure | count
  · intro other copied missing
    cases copied
    exact isMissing_of_copy served same.symm missing
  · rintro _ ⟨⟩

theorem ensures_copied (mover : Mover) (suffix : String) (ids : List String)
    (dependents : List Dependent) (site : Site Traffic) :
    (Cluster.setting settings fun _ => True).Ensures (fun result later =>
      ∀ others, result = .ok others → ∀ dependent ∈ dependents,
        Skipped settings suffix ids dependent later.store ∨
          dependentTransfer dependent suffix ids ∈ others)
      (mover.copyDependents suffix ids dependents) site := by
  induction dependents generalizing site with
  | nil => exact fun _ _ => List.forall_mem_nil _
  | cons dependent rest ih =>
    rw [copyDependents, Setting.ensures_bind]
    refine (ensures_missing_of_copy mover _ site).mono ?_
    rintro (failure | _) between missing
    · simp only
      split
      · rename_i passed
        obtain ⟨tolerant, absent⟩ := Bool.and_eq_true_iff.mp passed
        have skipped : Skipped settings suffix ids dependent between.store :=
          ⟨tolerant, missing failure rfl absent⟩
        rw [Setting.ensures_bind]
        refine Backend.ensures_count .orphanTolerantSkips 1 between _ trivial ?_
        refine ((ih between).both (Cluster.ensures_grows _ between)
          fun _ _ _ _ served _ => served).mono ?_
        rintro result later ⟨copied, grown⟩ others same other member
        rcases List.mem_cons.mp member with rfl | further
        · exact Or.inl (skipped.grows grown)
        · exact copied others same other further
      · rw [Setting.ensures_bind]
        refine Backend.ensures_count .reindexFailures 1 between _ trivial ?_
        rintro _ ⟨⟩
    · simp only
      rw [Setting.ensures_andThen]
      refine (ih between).mono ?_
      rintro (failure | others) later copied
      · rintro _ ⟨⟩
      · rintro transfers same other member
        cases same
        rcases List.mem_cons.mp member with rfl | further
        · exact Or.inr List.mem_cons_self
        · exact (copied others rfl other further).imp_right (List.mem_cons_of_mem _)

theorem cleaned_of_deletion {transfer : Transfer} {reply : Option transfer.deletion.Reply}
    {other : StoreFailure} {count : Nat} {start : Traffic}
    (grown : Grows (fun letter => letter.request ∈ requests settings transfer.deletion) start first)
    (served : backend settings transfer.deletion first reply second)
    (answered : reply.getD (.error other) = .ok count) :
    Cleaned (transfer.removal settings) second ∧
      ∀ request, Cleaned request start → Cleaned request second := by
  cases reply with
  | none => cases answered
  | some reply =>
    rw [show reply = .ok count from answered] at served
    obtain ⟨letter, asked, rfl, clean⟩ := Cluster.isClean_of_backend served
    have last : Cleaned (transfer.removal settings) (first ++ [letter]) := by
      rw [Transfer.removal, ← asked]
      exact Cluster.cleaned_concat clean
    refine ⟨last, fun request cleaned => ?_⟩
    by_cases same : transfer.removal settings = request
    · exact same ▸ last
    · refine (cleaned.grows grown fun letter sent => ?_).concat clean
      rw [List.mem_singleton.mp sent]
      exact same

theorem ensures_cleaned (mover : Mover) (transfers : List Transfer) (site : Site Traffic) :
    (Cluster.setting settings fun _ => True).Ensures (fun result later => result = .ok () →
      (∀ transfer ∈ transfers, Cleaned (transfer.removal settings) later.store) ∧
        ∀ request, Cleaned request site.store → Cleaned request later.store)
      (mover.deleteAll transfers) site := by
  induction transfers generalizing site with
  | nil => exact fun _ => ⟨List.forall_mem_nil _, fun _ => id⟩
  | cons transfer rest ih =>
    rw [deleteAll, Setting.ensures_andThen, Setting.ensures_mapFailure, Setting.ensures_onFailure]
    refine (Cluster.ensures_call mover.policy _ transfer.deletion site).mono ?_
    rintro result between ⟨before, reply, grown, served, same⟩
    rcases result with failure | count
    · refine Backend.ensures_count .cleanupDebt 1 between _ trivial ?_
      rintro ⟨⟩
    have clean := cleaned_of_deletion grown served same.symm
    refine (ih between).mono ?_
    intro result later further done
    obtain ⟨others, kept⟩ := further done
    refine ⟨fun other member => ?_, fun request cleaned => kept request (clean.2 request cleaned)⟩
    rcases List.mem_cons.mp member with rfl | later
    · exact kept _ clean.1
    · exact others other later

/-- When the steps before the last one have succeeded, the other types are deleted. -/
theorem ensures_cleared (mover : Mover) (suffix : String) (ids : List String)
    (site : Site Traffic) :
    (Cluster.setting settings fun _ => True).Ensures (fun result later => result = .ok () →
      Cleared settings mover suffix ids later.store) (mover.clear suffix ids) site := by
  rw [clear, Setting.ensures_andThen]
  refine (Cluster.ensures_grows _ site).mono ?_
  rintro (failure | _) copied _
  · rintro ⟨⟩
  rw [Setting.ensures_andThen]
  refine (Cluster.ensures_grows _ copied).mono ?_
  rintro (failure | found) verified _
  · rintro ⟨⟩
  simp only
  split
  · rw [Setting.ensures_bind]
    refine Backend.ensures_count .reindexFailures 1 verified _ trivial ?_
    rintro ⟨⟩
  rw [Setting.ensures_andThen]
  refine (ensures_copied mover suffix ids mover.separateDependents verified).mono ?_
  rintro (failure | others) settled accounted
  · rintro ⟨⟩
  simp only
  rw [Setting.ensures_andThen]
  refine (Cluster.ensures_grows _ settled).mono ?_
  rintro (failure | _) refreshed shown
  · rintro ⟨⟩
  refine ((ensures_cleaned mover others.reverse refreshed).both (Cluster.ensures_grows _ refreshed)
    fun _ _ _ _ served _ => served).mono ?_
  rintro result later ⟨cleaned, grown⟩ done dependent separate
  refine (accounted others rfl dependent separate).imp ?_ fun copied => ?_
  · intro skipped
    exact skipped.grows (shown.trans grown)
  · exact (cleaned done).1 _ (List.mem_reverse.mpr copied)

/-- A call that is never put into the request to delete the roots. -/
def Spares (settings : ClusterSettings) (mover : Mover) (suffix : String) (ids : List String)
    (call : Call) : Prop :=
  (mover.rootTransfer suffix ids).removal settings ∉ requests settings call

theorem spares_of_operation {call : Call} (another : call.operation ≠ .deleteByQuery) :
    Spares settings mover suffix ids call :=
  Cluster.deletion_not_mem another

theorem allows_spares (apart : mover.RootsApart) :
    mover.Allows suffix ids (Spares settings mover suffix ids) where
  verifies := spares_of_operation nofun
  refreshes _ _ := spares_of_operation nofun
  makes _ _ := spares_of_operation nofun
  copies _ _ := spares_of_operation nofun
  deletes _ separate member :=
    apart.removal_ne separate (List.mem_singleton.mp member).symm

theorem ensures_waits (apart : mover.RootsApart) (recalls : String → Bool) :
    (Cluster.setting settings (Waits settings mover suffix ids)).Ensures (fun _ _ => True)
      (mover.moveTo suffix ids) ⟨[], recalls⟩ := by
  have quiet : (Cluster.setting settings (Waits settings mover suffix ids)).Ensures
      (fun _ later => True ∧ Grows (IsQuiet settings mover suffix ids) [] later.store)
      (mover.clear suffix ids) ⟨[], recalls⟩ := by
    have allows : mover.Allows suffix ids (Spares settings mover suffix ids) :=
      allows_spares apart
    refine Cluster.ensures_letters (asks_clear allows) ?_ (fun _ => waits_of_quiet) (.refl [])
    intro call spares letter sent same
    exact spares (same ▸ sent)
  rw [moveTo_eq, Setting.ensures_andThen]
  refine (quiet.both (ensures_cleared mover suffix ids _) fun _ _ _ _ served _ => served).mono ?_
  rintro (failure | _) between ⟨⟨_, still⟩, cleared⟩
  · trivial
  have last : (Work.within (· = (mover.rootTransfer suffix ids).deletion)).Ensures
      (fun _ _ => True) (mover.deleteAll [mover.rootTransfer suffix ids]) () :=
    asks_deleteAll _ fun transfer member => by rw [List.mem_singleton.mp member]
  simp only
  rw [Setting.ensures_andThen]
  refine (Cluster.ensures_letters last ?_ (fun _ => (cleared rfl).waits apart still)
    (.refl between.store)).mono ?_
  · rintro call rfl letter sent
    exact List.mem_singleton.mp sent
  · rintro (failure | _) after _ <;> trivial

/-- For every way in which requests are answered: when the request to delete the roots of a batch is
sent, each type that is moved on its own was deleted before. The last answer to that was a success
that listed no failure, unless the type may be missing and the cluster said that it is. -/
theorem roots_wait_for_clean_deletions (settings : ClusterSettings) (mover : Mover) (batch : Batch)
    (recalls : String → Bool) (apart : mover.RootsApart) {after : Site Traffic}
    {rest : Work (Except ArchiveFailure Nat)}
    (reached : (mover.move batch).Reaches (backend settings).service ⟨[], recalls⟩ after rest)
    {earlier later : Traffic} {letter : Cluster.Letter}
    (split : after.store = earlier ++ letter :: later)
    (sent : letter.request = Cluster.deletion settings mover.root.index
      (.terms mover.root.linkField (texts batch.ids))) :
    ∃ suffix, mover.namer.suffix batch.finishDate = some suffix ∧
      ∀ dependent ∈ mover.separateDependents,
        Skipped settings suffix batch.ids dependent earlier ∨
          Cleaned (Cluster.deletion settings dependent.index
            (.terms dependent.foreignKey (texts batch.ids))) earlier := by
  rw [move] at reached
  split at reached
  · cases reached
    exact absurd split.symm (List.append_ne_nil_of_right_ne_nil _ (List.cons_ne_nil _ _))
  rw [Namer.suffixOrCrash] at reached
  split at reached
  · rename_i suffix named
    have begun : Waits settings mover suffix batch.ids [] :=
      fun earlier letter later same => absurd same.symm
        (List.append_ne_nil_of_right_ne_nil earlier (List.cons_ne_nil _ _))
    have waits := ((ensures_waits apart recalls).holds begun reached).1
    exact ⟨suffix, named, waits earlier letter later split sent⟩
  · cases reached
    exact absurd split.symm (List.append_ne_nil_of_right_ne_nil _ (List.cons_ne_nil _ _))

/-- Once the other types are deleted, a move ends with a deletion of its roots that lists no
failure. -/
theorem reaches_end {first second : Site Traffic} {delivery : Cluster.Delivery}
    (cleared : (mover.clear suffix ids).Reaches (backend settings).service first second
      (.finish (.ok ())))
    (clean : Cluster.Letter.isClean
      ⟨(mover.rootTransfer suffix ids).removal settings, some delivery⟩ = true) :
    (mover.moveTo suffix ids).Reaches (backend settings).service first
      ⟨second.store ++ [⟨(mover.rootTransfer suffix ids).removal settings, some delivery⟩],
        second.recalls⟩ (.finish (.ok ids.length)) := by
  obtain ⟨count, granted⟩ := Cluster.backend_of_clean clean second.store
  have deleted := Backend.reaches_call mover.policy "delete archived originals"
    (mover.rootTransfer suffix ids).deletion count second granted
  rw [moveTo_eq]
  refine Dialogue.reaches_bind.mpr ⟨.ok (), second, cleared, ?_⟩
  refine Dialogue.reaches_bind.mpr ⟨.ok (), _, ?_, .here _ _⟩
  rw [deleteAll]
  refine Dialogue.reaches_bind.mpr ⟨.ok count, _, ?_, .here _ _⟩
  refine Dialogue.reaches_bind.mpr ⟨.ok count, _, ?_, .here _ _⟩
  exact Dialogue.reaches_bind.mpr ⟨.ok count, _, deleted, .here _ _⟩

def specimenCluster : ClusterSettings := ⟨"http://localhost:9200", none, none, none, 0, 0⟩

/-- Finds a root wherever one is looked for, and reports conflicts for what is to be deleted. -/
def conflicting (conflicts : Nat) (request : Cluster.Request) : Cluster.Delivery :=
  let document : Value :=
    match request.payload with
    | .json body =>
      if (body.member? "size").isSome then
        .single "hits" (.single "hits" (.array [.single "_id" (.text "r")]))
      else .single "version_conflicts" (.nat conflicts)
    | .none | .lines _ => .null
  .answered ⟨200, document.compact, request.url⟩

def specimenClearing (conflicts : Nat) : Site Traffic × Work (Except ArchiveFailure Unit) :=
  (specimen.clear "x" ["7"]).follow
    (Backend.serve (Cluster.replyOf specimenCluster (conflicting conflicts))) 40
    ⟨[], fun _ => false⟩

theorem reaches_specimenMove {conflicts : Nat}
    (ended : (specimenClearing conflicts).2.result? = some (.ok ())) :
    (specimen.move ⟨⟨2024, 1, 1⟩, ["7"]⟩).Reaches (backend specimenCluster).service
      ⟨[], fun _ => false⟩
      ⟨(specimenClearing conflicts).1.store ++
        [⟨(specimen.rootTransfer "x" ["7"]).removal specimenCluster,
          some (.answered ⟨200, "[]", ""⟩)⟩], (specimenClearing conflicts).1.recalls⟩
      (.finish (.ok 1)) := by
  have cleared : (specimen.clear "x" ["7"]).Reaches (backend specimenCluster).service
      ⟨[], fun _ => false⟩ (specimenClearing conflicts).1 (.finish (.ok ())) := by
    rw [← Dialogue.eq_finish ended]
    exact Dialogue.reaches_follow _ (Backend.service_serve (backend specimenCluster) _
      (Cluster.backend_replyOf (conflicting conflicts))) 40 _ _
  exact reaches_end cleared (by decide +kernel)

/-- A root is to be deleted when the event that belongs to it has been. -/
theorem root_waits_for_its_event : ∃ after letter earlier,
    (specimen.move ⟨⟨2024, 1, 1⟩, ["7"]⟩).Reaches (backend specimenCluster).service
        ⟨[], fun _ => false⟩ after (.finish (.ok 1)) ∧
      after.store = earlier ++ [letter] ∧
      letter.request = Cluster.deletion specimenCluster "operate-list-view_"
        (.terms "workflowInstanceKey" [.text "7"]) ∧
      Cleaned (Cluster.deletion specimenCluster "events"
        (.terms "workflowInstanceKey" [.text "7"])) earlier := by
  have ended : (specimenClearing 0).2.result? = some (.ok ()) := by decide +kernel
  have reached := reaches_specimenMove ended
  refine ⟨_, _, _, reached, rfl, rfl, ?_⟩
  obtain ⟨suffix, _, settled⟩ := roots_wait_for_clean_deletions specimenCluster specimen
    ⟨⟨2024, 1, 1⟩, ["7"]⟩ _ (by decide) reached rfl rfl
  refine (settled (.separate "event" "events") List.mem_cons_self).resolve_left ?_
  exact fun skipped => absurd skipped.1 (by decide)

/-- An event that was left alone for a conflict holds no root back: the last answer to its deletion
reports one, and the root is deleted all the same. -/
theorem conflicts_hold_no_root_back : ∃ after root earlier,
    (specimen.move ⟨⟨2024, 1, 1⟩, ["7"]⟩).Reaches (backend specimenCluster).service
        ⟨[], fun _ => false⟩ after (.finish (.ok 1)) ∧
      after.store = earlier ++ [root] ∧
      root.request = Cluster.deletion specimenCluster "operate-list-view_"
        (.terms "workflowInstanceKey" [.text "7"]) ∧
      (earlier.filter fun letter => letter.request.url = Cluster.endpoint specimenCluster.url
        "events/_delete_by_query?refresh=true&conflicts=proceed").map (·.conflicts) = [1] := by
  have ended : (specimenClearing 1).2.result? = some (.ok ()) := by decide +kernel
  exact ⟨_, _, _, reaches_specimenMove ended, rfl, rfl, by decide +kernel⟩

end Mover

end Archivist
