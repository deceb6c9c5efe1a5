import Archivist.Proofs.Move.Warrant

set_option autoImplicit false

namespace Archivist

open History (Adds Attempts)

namespace Mover

variable {mover : Mover} {suffix : String} {ids : List String} {known : String → Bool}

theorem finals_append_attempts {history tries : History} {call : Call}
    (attempts : Attempts call tries) (operation : Operation) :
    (history ++ tries).finals operation = history.finals operation := by
  rw [History.finals_append, attempts.finals_eq_nil, List.append_nil]

theorem Ready.adds {history after deletions : History} (ready : mover.Ready suffix ids history)
    (adds : Adds history after [] deletions) : mover.Ready suffix ids after := by
  have copies : after.finals .reindex = history.finals .reindex := by
    rw [adds.copies, List.append_nil]
  have copied : after.copied = history.copied := by
    simp only [History.copied, copies]
  obtain ⟨settled, ⟨found, searched, enough⟩, visible⟩ := ready
  refine ⟨copies ▸ settled, ⟨found, adds.keeps _ searched, enough⟩, ?_⟩
  intro transfer member
  obtain ⟨event, earlier, refreshed⟩ := visible transfer (copied ▸ member)
  exact ⟨event, adds.keeps event earlier, refreshed⟩

theorem IsVerified.adds {history after copies deletions : History}
    (verified : mover.IsVerified suffix ids history)
    (adds : Adds history after copies deletions) : mover.IsVerified suffix ids after := by
  obtain ⟨found, searched, enough⟩ := verified
  exact ⟨found, adds.keeps _ searched, enough⟩

theorem IsNext.adds {history after deletions : History} {transfer : Transfer}
    (next : mover.IsNext suffix ids history transfer)
    (adds : Adds history after [] deletions) : mover.IsNext suffix ids after transfer := by
  rcases next with ⟨root, begun⟩ | ⟨verified, dependent⟩
  · left
    refine ⟨root, ?_⟩
    rw [adds.copies, begun, List.append_nil]
  · exact Or.inr ⟨verified.adds adds, dependent⟩

theorem Attempts.adds_tries {history tries : History} {call : Call}
    (attempts : Attempts call tries) : Adds history (history ++ tries) [] [] where
  copies := by rw [finals_append_attempts attempts, List.append_nil]
  deletions := by rw [finals_append_attempts attempts, List.append_nil]
  keeps _ member := List.mem_append_left tries member

theorem isLasting_demands : History.IsLasting (mover.Demands suffix ids known) := by
  intro history tries call attempts demanded
  have adds : Adds history (history ++ tries) [] [] := Attempts.adds_tries attempts
  match call with
  | .ensureExists _ | .refresh _ | .bulkWrite _ _ | .bulkDelete _ _ => exact demanded
  | .search _ =>
    obtain ⟨same, event, earlier, copied⟩ := demanded
    exact ⟨same, event, adds.keeps event earlier, copied⟩
  | .reindex _ _ _ =>
    obtain ⟨planned, known, next⟩ := demanded
    refine ⟨planned, known.imp_right ?_, next.adds adds⟩
    intro given
    obtain ⟨event, earlier, ensured⟩ := given
    exact ⟨event, adds.keeps event earlier, ensured⟩
  | .deleteByQuery _ _ =>
    refine ⟨demanded.toReady.adds adds, ?_⟩
    obtain ⟨deleted, transfer, rest, order, source, filter, granted⟩ := demanded.inTurn
    refine ⟨deleted, transfer, rest, ?_, source, filter, ?_⟩
    · rw [← order, History.copied, finals_append_attempts attempts, ← History.copied]
    · rw [finals_append_attempts attempts]
      exact granted

variable (mover suffix ids known)

/-- Every call so far was warranted, and every destination that is remembered was known or made
sure of. -/
structure Conduct (site : Site History) : Prop where
  obeys : site.store.Obeys (mover.Demands suffix ids known)
  mindful : ∀ destination, site.recalls destination = true → known destination = true ∨
    ∃ event ∈ site.store, event.call = .ensureExists destination ∧ event.isGranted = true

def terms : Setting Action.Yield (Site History) :=
  Backend.recorded.setting History.IsPending (mover.Conduct suffix ids known) fun _ => False

variable {mover suffix ids known}

theorem conduct_begun : mover.Conduct suffix ids known ⟨[], known⟩ :=
  ⟨History.obeys_nil _, fun _ recalled => Or.inl recalled⟩

theorem Conduct.call {site : Site History} (conduct : mover.Conduct suffix ids known site)
    {call : Call} (demanded : mover.Demands suffix ids known site.store call) {tries : History}
    (attempts : Attempts call tries) (reply : Option call.Reply) :
    mover.Conduct suffix ids known ⟨site.store ++ tries ++ [⟨call, reply⟩], site.recalls⟩ where
  obeys := by
    refine (History.obeys_concat _ _ _).mpr ⟨?_, ?_⟩
    · exact attempts.obeys isLasting_demands conduct.obeys demanded
    · exact isLasting_demands site.store tries call attempts demanded
  mindful := by
    intro destination recalled
    refine (conduct.mindful destination recalled).imp_right ?_
    intro given
    obtain ⟨event, earlier, ensured⟩ := given
    exact ⟨event, (attempts.adds site.store reply).keeps event earlier, ensured⟩

theorem ensures_call (policy : RetryPolicy) (step : String) (call : Call) (site : Site History)
    (conduct : mover.Conduct suffix ids known site)
    (demanded : mover.Demands suffix ids known site.store call)
    (done : call.Reply → Site History → Prop)
    (reached : ∀ tries reply, Attempts call tries →
      mover.Conduct suffix ids known ⟨site.store ++ tries ++ [⟨call, reply⟩], site.recalls⟩ →
      done (reply.getD (.error (policy.timedOut step)))
        ⟨site.store ++ tries ++ [⟨call, reply⟩], site.recalls⟩) :
    (mover.terms suffix ids known).Ensures done (Work.call policy step call) site :=
  Backend.ensures_call_recorded _ _ policy step call site done
    (fun _ reply attempts => conduct.call demanded attempts reply)
    fun tries reply attempts => reached tries reply attempts (conduct.call demanded attempts reply)

theorem ensures_count (counter : Counter) (amount : Nat) (site : Site History)
    (done : Unit → Site History → Prop) (conduct : mover.Conduct suffix ids known site)
    (reached : done () site) :
    (mover.terms suffix ids known).Ensures done (Work.count counter amount) site :=
  Backend.ensures_count counter amount site done conduct reached

theorem isGranted_of_getD {call : Call} (reply : Option call.Reply) (other : StoreFailure)
    (value : call.Answer) (answered : reply.getD (.error other) = .ok value) :
    (Event.mk call reply).isGranted = true ∧ reply = some (.ok value) := by
  match reply with
  | some (.ok _) =>
    cases answered
    exact ⟨rfl, rfl⟩
  | some (.error _) | none => cases answered

theorem isMissing_of_getD {call : Call} (reply : Option call.Reply) (policy : RetryPolicy)
    (step : String) (failure : StoreFailure)
    (answered : reply.getD (.error (policy.timedOut step)) = .error failure)
    (missing : failure.isMissing = true) : (Event.mk call reply).isMissing = true := by
  match reply with
  | some (.ok _) => cases answered
  | some (.error _) =>
    cases answered
    exact missing
  | none =>
    cases answered
    cases missing

theorem isGranted_of_error {call : Call} (reply : Option call.Reply) (other failure : StoreFailure)
    (answered : reply.getD (.error other) = .error failure) :
    (Event.mk call reply).isGranted = false := by
  match reply with
  | some (.ok _) => cases answered
  | some (.error _) | none => rfl

theorem isMissing_of_error {call : Call} (reply : Option call.Reply) (other failure : StoreFailure)
    (answered : reply.getD (.error other) = .error failure) (there : failure.isMissing = false) :
    (Event.mk call reply).isMissing = false := by
  match reply with
  | some (.ok _) => cases answered
  | some (.error _) =>
    cases answered
    exact there
  | none => rfl

theorem foils_of_error {call : Call} (reply : Option call.Reply) (other failure : StoreFailure)
    (noCopy : call.operation ≠ .reindex)
    (answered : reply.getD (.error other) = .error failure) :
    mover.Foils suffix ids ⟨call, reply⟩ := by
  have refused := isGranted_of_error reply other failure answered
  cases missing : (Event.mk call reply).isMissing with
  | true => exact .unavailable _ missing noCopy
  | false => exact .failed _ refused missing

theorem ensures_ensure (destination : String) (site : Site History)
    (conduct : mover.Conduct suffix ids known site)
    (planned : ∃ transfer ∈ mover.transfers suffix ids, transfer.destination = destination) :
    (mover.terms suffix ids known).Ensures (fun result after =>
      mover.Conduct suffix ids known after ∧ Adds site.store after.store [] [] ∧
      match result with
      | .ok _ => known destination = true ∨
        ∃ event ∈ after.store, event.call = .ensureExists destination ∧ event.isGranted = true
      | .error failure => failure.isMissingSource = false ∧
        ∃ event ∈ after.store, mover.Foils suffix ids event)
      (Work.ensure mover.policy destination) site := by
  refine ⟨trivial, ?_⟩
  intro remembered after reached
  obtain ⟨same, unchanged⟩ := reached
  rw [show after = site from unchanged]
  refine ⟨conduct, ?_⟩
  simp only [Dialogue.finish_bind]
  split
  · rename_i recalled
    refine ⟨conduct, Adds.refl _, conduct.mindful destination ?_⟩
    rw [← same, recalled]
  · rw [Setting.ensures_andThen, Setting.ensures_mapFailure]
    refine ensures_call _ _ (.ensureExists destination) site conduct planned _ ?_
    intro tries reply attempts kept
    have adds := attempts.adds_nothing site.store reply nofun nofun
    cases outcome : reply.getD (.error (mover.policy.timedOut "ensure destination")) with
    | error failure =>
      exact ⟨kept, adds, rfl, _, Attempts.mem_concat site.store reply,
        foils_of_error reply _ failure nofun outcome⟩
    | ok value =>
      have granted := (isGranted_of_getD reply _ value outcome).1
      have ensured : ∃ event ∈ site.store ++ tries ++ [⟨.ensureExists destination, reply⟩],
          event.call = .ensureExists destination ∧ event.isGranted = true :=
        ⟨_, Attempts.mem_concat site.store reply, rfl, granted⟩
      have remembering : mover.Conduct suffix ids known (Site.remember
          ⟨site.store ++ tries ++ [⟨.ensureExists destination, reply⟩], site.recalls⟩
          destination) := by
        refine ⟨kept.obeys, fun name recalled => ?_⟩
        simp only [Site.remember, Bool.or_eq_true, decide_eq_true_eq] at recalled
        rcases recalled with rfl | earlier
        · exact Or.inr ensured
        · exact kept.mindful name earlier
      refine ⟨trivial, fun _ after remembered => ?_⟩
      rw [show after = _ from remembered]
      exact ⟨remembering, remembering, adds, Or.inr ensured⟩

theorem ensures_copy (transfer : Transfer) (site : Site History)
    (conduct : mover.Conduct suffix ids known site)
    (planned : transfer ∈ mover.transfers suffix ids)
    (next : mover.IsNext suffix ids site.store transfer) :
    (mover.terms suffix ids known).Ensures (fun result after =>
      mover.Conduct suffix ids known after ∧
      match result with
      | .ok _ => ∃ event, event.call = transfer.copying ∧ event.isGranted = true ∧
        Adds site.store after.store [event] []
      | .error failure =>
        (failure.isMissingSource = true →
          ∃ event, event.call = transfer.copying ∧ event.isMissing = true ∧
            Adds site.store after.store [event] []) ∧
        (failure.isMissingSource = false → ∃ event ∈ after.store, mover.Foils suffix ids event))
      (mover.copy transfer) site := by
  rw [Mover.copy, Setting.ensures_andThen]
  refine (ensures_ensure transfer.destination site conduct ⟨transfer, planned, rfl⟩).mono ?_
  intro made between reached
  obtain ⟨kept, prepared, ensured⟩ := reached
  rcases made with failure | _
  · refine ⟨kept, fun missing => ?_, fun _ => ensured.2⟩
    rw [ensured.1] at missing
    cases missing
  · rw [Setting.ensures_andThen, Setting.ensures_mapFailure]
    refine ensures_call _ _ transfer.copying between kept
      ⟨planned, ensured, next.adds prepared⟩ _ ?_
    intro tries reply attempts done
    cases outcome : reply.getD (.error (mover.policy.timedOut "reindex")) with
    | error failure =>
      refine ⟨done, fun missing => ?_, fun there => ?_⟩
      · have refused := isMissing_of_getD reply _ _ failure outcome missing
        exact ⟨⟨transfer.copying, reply⟩, rfl, refused,
          prepared.trans (attempts.adds_copy _ reply (Event.isFinal_of_isMissing _ refused))⟩
      · refine ⟨_, Attempts.mem_concat between.store reply, .failed _ ?_ ?_⟩
        · exact isGranted_of_error reply _ failure outcome
        · exact isMissing_of_error reply _ failure outcome there
    | ok value =>
      have granted := (isGranted_of_getD reply _ value outcome).1
      exact ⟨done, ⟨transfer.copying, reply⟩, rfl, granted,
        prepared.trans (attempts.adds_copy _ reply (Event.isFinal_of_isGranted _ granted))⟩

theorem ensures_copyDependents (dependents : List Dependent) (site : Site History)
    (conduct : mover.Conduct suffix ids known site)
    (separate : ∀ dependent ∈ dependents, dependent ∈ mover.separateDependents)
    (verified : mover.IsVerified suffix ids site.store) :
    (mover.terms suffix ids known).Ensures (fun result after =>
      mover.Conduct suffix ids known after ∧
      match result with
      | .ok others => ∃ events, Adds site.store after.store events [] ∧
        List.Forall₂ (Settles suffix ids) dependents events ∧
        others = events.filterMap Event.copied?
      | .error _ => ∃ event ∈ after.store, mover.Foils suffix ids event)
      (mover.copyDependents suffix ids dependents) site := by
  induction dependents generalizing site with
  | nil => exact ⟨conduct, [], Adds.refl _, .nil, rfl⟩
  | cons dependent rest ih =>
    have listed := separate dependent List.mem_cons_self
    have restSeparate : ∀ other ∈ rest, other ∈ mover.separateDependents :=
      fun other member => separate other (List.mem_cons_of_mem dependent member)
    have planned : dependentTransfer dependent suffix ids ∈ mover.transfers suffix ids :=
      List.mem_cons_of_mem _ (List.mem_map_of_mem listed)
    rw [copyDependents, Setting.ensures_bind]
    refine (ensures_copy _ site conduct planned
      (Or.inr ⟨verified, dependent, listed, rfl⟩)).mono ?_
    intro outcome between reached
    obtain ⟨kept, copied⟩ := reached
    rcases outcome with failure | _
    · -- The type is passed over when it may be missing and is, and stops the batch otherwise.
      simp only
      split
      · rename_i tolerated
        obtain ⟨tolerant, missing⟩ := (Bool.and_eq_true _ _).mp tolerated
        obtain ⟨event, same, refused, adds⟩ := copied.1 missing
        rw [Setting.ensures_bind]
        refine ensures_count _ _ between _ kept ?_
        refine (ih between kept restSeparate (verified.adds adds)).mono ?_
        intro result after reached
        obtain ⟨done, settled⟩ := reached
        rcases result with _ | others
        · exact ⟨done, settled⟩
        obtain ⟨events, more, all, transfers⟩ := settled
        refine ⟨done, event :: events, adds.trans more,
          .cons ⟨same, Or.inr ⟨tolerant, refused⟩⟩ all, ?_⟩
        rw [transfers, List.filterMap_cons_none (event.copied?_of_isMissing refused)]
      · rename_i untolerated
        rw [Setting.ensures_bind]
        refine ensures_count _ _ between _ kept ⟨kept, ?_⟩
        cases missing : failure.isMissingSource with
        | false => exact copied.2 missing
        | true =>
          rw [missing, Bool.and_true, Bool.not_eq_true] at untolerated
          obtain ⟨event, same, refused, adds⟩ := copied.1 missing
          exact ⟨event, adds.mem_of_copies List.mem_cons_self,
            .needed event dependent listed untolerated same refused⟩
    · obtain ⟨event, same, granted, adds⟩ := copied
      rw [Setting.ensures_andThen]
      refine (ih between kept restSeparate (verified.adds adds)).mono ?_
      intro outcome after reached
      obtain ⟨done, settled⟩ := reached
      rcases outcome with failure | others
      · exact ⟨done, settled⟩
      · obtain ⟨events, more, all, transfers⟩ := settled
        refine ⟨done, event :: events, adds.trans more, .cons ⟨same, Or.inl granted⟩ all, ?_⟩
        rw [transfers, List.filterMap_cons_some (event.copied?_of_isGranted _ same granted)]

theorem ensures_refreshAll (transfers : List Transfer) (site : Site History)
    (conduct : mover.Conduct suffix ids known site) :
    (mover.terms suffix ids known).Ensures (fun result after =>
      mover.Conduct suffix ids known after ∧ Adds site.store after.store [] [] ∧
      match result with
      | .ok _ => ∀ transfer ∈ transfers, ∃ event ∈ after.store,
        event.call = .refresh transfer.destination ∧ event.isGranted = true
      | .error _ => ∃ event ∈ after.store, mover.Foils suffix ids event)
      (mover.refreshAll transfers) site := by
  induction transfers generalizing site with
  | nil =>
    exact ⟨conduct, Adds.refl _, by simp only [List.not_mem_nil, false_implies, implies_true]⟩
  | cons transfer rest ih =>
    rw [refreshAll, Setting.ensures_andThen, Setting.ensures_mapFailure]
    refine ensures_call _ _ (.refresh transfer.destination) site conduct trivial _ ?_
    intro tries reply attempts kept
    have adds := attempts.adds_nothing site.store reply nofun nofun
    cases outcome : reply.getD (.error (mover.policy.timedOut "refresh destination")) with
    | error failure =>
      exact ⟨kept, adds, _, Attempts.mem_concat site.store reply,
        foils_of_error reply _ failure nofun outcome⟩
    | ok value =>
      have granted := (isGranted_of_getD reply _ value outcome).1
      refine (ih _ kept).mono ?_
      intro result after reached
      obtain ⟨done, more, visible⟩ := reached
      refine ⟨done, adds.trans more, ?_⟩
      rcases result with _ | _
      · exact visible
      intro other member
      rcases List.mem_cons.mp member with rfl | later
      · exact ⟨_, more.keeps _ (Attempts.mem_concat site.store reply), rfl, granted⟩
      · exact visible other later

theorem ensures_deleteAll (transfers deleted : List Transfer) (site : Site History)
    (conduct : mover.Conduct suffix ids known site)
    (ready : mover.Ready suffix ids site.store)
    (order : site.store.copied.reverse = deleted ++ transfers)
    (granted : List.Forall₂ Deletes deleted (site.store.finals .deleteByQuery)) :
    (mover.terms suffix ids known).Ensures (fun result after =>
      mover.Conduct suffix ids known after ∧
      match result with
      | .ok _ => mover.Ready suffix ids after.store ∧
        List.Forall₂ Deletes after.store.copied.reverse (after.store.finals .deleteByQuery)
      | .error _ => ∃ event ∈ after.store, mover.Foils suffix ids event)
      (mover.deleteAll transfers) site := by
  induction transfers generalizing site deleted with
  | nil =>
    refine ⟨conduct, ready, ?_⟩
    rw [order, List.append_nil]
    exact granted
  | cons transfer rest ih =>
    rw [deleteAll, Setting.ensures_andThen, Setting.ensures_mapFailure,
      Setting.ensures_onFailure]
    refine ensures_call _ _ transfer.deletion site conduct
      ⟨ready, deleted, transfer, rest, order, rfl, rfl, granted⟩ _ ?_
    intro tries reply attempts kept
    cases outcome : reply.getD (.error (mover.policy.timedOut "delete archived originals")) with
    | error failure =>
      exact ensures_count _ _ _ _ kept ⟨kept, _, Attempts.mem_concat site.store reply,
        foils_of_error reply _ failure nofun outcome⟩
    | ok value =>
      have success := (isGranted_of_getD reply _ value outcome).1
      have adds := attempts.adds_deletion site.store reply (Event.isFinal_of_isGranted _ success)
      refine ih (deleted ++ [transfer]) _ kept (ready.adds adds) ?_ ?_
      · have copies := adds.copies
        rw [List.append_nil] at copies
        simp only [History.copied, copies]
        rw [← History.copied, order, List.append_assoc, List.singleton_append]
      · rw [adds.deletions]
        exact List.rel_append granted (.cons ⟨rfl, success⟩ .nil)

theorem ensures_countArchived (site : Site History)
    (conduct : mover.Conduct suffix ids known site)
    (copied : ∃ event ∈ site.store, event.call = (mover.rootTransfer suffix ids).copying ∧
      event.isGranted = true) :
    (mover.terms suffix ids known).Ensures (fun result after =>
      mover.Conduct suffix ids known after ∧ Adds site.store after.store [] [] ∧
      match result with
      | .ok found => ∃ page : List Record, page.length = found ∧
        ⟨.search (mover.verification (mover.rootTransfer suffix ids).destination ids),
          some (.ok page)⟩ ∈ after.store
      | .error _ => ∃ event ∈ after.store, mover.Foils suffix ids event)
      (mover.countArchived (mover.rootTransfer suffix ids).destination ids) site := by
  rw [countArchived, Setting.ensures_andThen, Setting.ensures_mapFailure]
  refine ensures_call _ _ (.search (mover.verification (mover.rootTransfer suffix ids).destination
    ids)) site conduct ⟨rfl, copied⟩ _ ?_
  intro tries reply attempts kept
  have adds := attempts.adds_nothing site.store reply nofun nofun
  cases outcome : reply.getD (.error (mover.policy.timedOut "verify archived roots")) with
  | error failure =>
    exact ⟨kept, adds, _, Attempts.mem_concat site.store reply,
      foils_of_error reply _ failure nofun outcome⟩
  | ok page =>
    refine ⟨kept, adds, page, rfl, ?_⟩
    rw [← (isGranted_of_getD reply _ page outcome).2]
    exact Attempts.mem_concat site.store reply

/-- A move keeps to its terms. When it succeeds, everything was ready and all that was copied has
been deleted, the roots last; when it does not, the history shows what foiled it. -/
theorem ensures_moveTo_outcome (mover : Mover) (suffix : String) (ids : List String)
    (known : String → Bool) :
    (mover.terms suffix ids known).Ensures (fun result after =>
      mover.Conduct suffix ids known after ∧
      match result with
      | .ok count => count = ids.length ∧ mover.Ready suffix ids after.store ∧
        List.Forall₂ Deletes after.store.copied.reverse (after.store.finals .deleteByQuery)
      | .error _ => ∃ event ∈ after.store, mover.Foils suffix ids event)
      (mover.moveTo suffix ids) ⟨[], known⟩ := by
  rw [moveTo, Setting.ensures_andThen, Setting.ensures_onFailure]
  refine (ensures_copy (mover.rootTransfer suffix ids) ⟨[], known⟩ conduct_begun
    List.mem_cons_self (Or.inl ⟨rfl, rfl⟩)).mono ?_
  intro outcome copied reached
  obtain ⟨kept, rootCopied⟩ := reached
  rcases outcome with failure | _
  · refine ensures_count _ _ copied _ kept ⟨kept, ?_⟩
    cases missing : failure.isMissingSource with
    | false => exact rootCopied.2 missing
    | true =>
      obtain ⟨event, same, refused, adds⟩ := rootCopied.1 missing
      exact ⟨event, adds.mem_of_copies List.mem_cons_self, .rootless event same refused⟩
  obtain ⟨root, same, granted, rootAdds⟩ := rootCopied
  rw [Setting.ensures_andThen]
  refine (ensures_countArchived copied kept
    ⟨root, rootAdds.mem_of_copies List.mem_cons_self, same, granted⟩).mono ?_
  intro outcome counted reached
  obtain ⟨kept, searchAdds, searched⟩ := reached
  rcases outcome with failure | found
  · exact ⟨kept, searched⟩
  obtain ⟨page, rfl, pageFound⟩ := searched
  simp only
  split
  · rename_i fewer
    rw [Setting.ensures_bind]
    exact ensures_count _ _ _ _ kept ⟨kept, _, pageFound, .incomplete page fewer⟩
  rename_i enough
  rw [Setting.ensures_andThen]
  refine (ensures_copyDependents mover.separateDependents counted kept (fun _ => id)
    ⟨page, pageFound, Nat.not_lt.mp enough⟩).mono ?_
  intro outcome settled reached
  obtain ⟨kept, all⟩ := reached
  rcases outcome with failure | others
  · exact ⟨kept, all⟩
  obtain ⟨events, dependentAdds, each, rfl⟩ := all
  have adds := (rootAdds.trans searchAdds).trans dependentAdds
  simp only
  rw [Setting.ensures_andThen]
  refine (ensures_refreshAll _ settled kept).mono ?_
  intro outcome refreshed reached
  obtain ⟨kept, refreshAdds, visible⟩ := reached
  rcases outcome with failure | _
  · exact ⟨kept, visible⟩
  have finals : refreshed.store.finals .reindex = root :: events := by
    simpa only [History.finals, List.filter_nil, List.nil_append, List.append_nil,
      List.cons_append] using (adds.trans refreshAdds).copies
  have copies := copied_of_finals finals same granted
  have ready : mover.Ready suffix ids refreshed.store := by
    refine ⟨⟨root, events, finals, same, granted, each⟩, ⟨page, ?_, Nat.not_lt.mp enough⟩, ?_⟩
    · exact refreshAdds.keeps _ (dependentAdds.keeps _ pageFound)
    · rw [copies]
      exact visible
  have nothingDeleted : refreshed.store.finals .deleteByQuery = [] := by
    have deletions := (adds.trans refreshAdds).deletions
    simpa only [History.finals, List.filter_nil, List.append_nil] using deletions
  simp only
  rw [Setting.ensures_andThen]
  refine (ensures_deleteAll _ [] refreshed kept ready (by rw [copies, List.nil_append])
    (nothingDeleted ▸ .nil)).mono ?_
  intro outcome after reached
  obtain ⟨done, all⟩ := reached
  rcases outcome with failure | _
  · exact ⟨done, all⟩
  · exact ⟨done, rfl, all⟩

theorem ensures_moveTo (mover : Mover) (suffix : String) (ids : List String)
    (known : String → Bool) :
    (mover.terms suffix ids known).Ensures (fun result after =>
      mover.Conduct suffix ids known after ∧ ∀ count, result = .ok count →
        count = ids.length ∧ mover.Ready suffix ids after.store ∧
        List.Forall₂ Deletes after.store.copied.reverse (after.store.finals .deleteByQuery))
      (mover.moveTo suffix ids) ⟨[], known⟩ := by
  refine (ensures_moveTo_outcome mover suffix ids known).mono ?_
  intro result after reached
  refine ⟨reached.1, ?_⟩
  intro count equal
  subst equal
  exact reached.2

/-- Whatever a store answers to a move, each deletion that it is asked for has its warrant, and the
move succeeds only when all that was copied has been deleted. -/
theorem move_deletes_with_warrant (mover : Mover) (batch : Batch) (known : String → Bool)
    (after : Site History) (rest : Work (Except ArchiveFailure Nat))
    (reached : (mover.move batch).Reaches Backend.recorded.service ⟨[], known⟩ after rest) :
    (∀ before event later index filter, after.store = before ++ event :: later →
      event.call = .deleteByQuery index filter →
        ∃ suffix, mover.namer.suffix batch.finishDate = some suffix ∧
          mover.Warrant suffix batch.ids before index filter) ∧
    ∀ count, rest = .finish (.ok count) → count = batch.ids.length ∧
      List.Forall₂ Deletes after.store.copied.reverse (after.store.finals .deleteByQuery) := by
  by_cases empty : batch.ids = []
  · simp only [move, empty, List.isEmpty_nil, ↓reduceIte] at reached
    cases reached with
    | here =>
      refine ⟨fun before event later _ _ split => absurd split.symm (by simp), ?_⟩
      intro count equal
      cases equal
      exact ⟨by rw [empty]; rfl, .nil⟩
  · cases named : mover.namer.suffix batch.finishDate with
    | none =>
      rw [move_of_unnamed empty named] at reached
      cases reached with
      | here =>
        refine ⟨fun before event later _ _ split => absurd split.symm (by simp), ?_⟩
        intro count equal
        cases equal
    | some suffix =>
      rw [move_of_named empty named] at reached
      obtain ⟨conduct, ends⟩ := (ensures_moveTo mover suffix batch.ids known).holds
        conduct_begun reached
      refine ⟨fun before event later index filter split same => ⟨suffix, rfl, ?_⟩, ?_⟩
      · have demanded := conduct.obeys before event later split
        rwa [same] at demanded
      · intro count equal
        obtain rfl := equal
        exact ⟨(ends.2 count rfl).1, (ends.2 count rfl).2.2⟩

/-- A move in front of a store that grants everything makes two deletions with their warrant. -/
theorem granted_move_deletes_with_warrant :
    ∃ after rest, (specimen.move ⟨⟨2024, 1, 1⟩, ["7"]⟩).Reaches Backend.recorded.service
        ⟨[], fun _ => false⟩ after rest ∧
      (after.store.finals .deleteByQuery).length = 2 ∧
      ∀ before event later index filter, after.store = before ++ event :: later →
        event.call = .deleteByQuery index filter →
          ∃ suffix, specimen.namer.suffix ⟨2024, 1, 1⟩ = some suffix ∧
            specimen.Warrant suffix ["7"] before index filter := by
  have reached := Dialogue.reaches_follow (Backend.serve Backend.grant)
    (Backend.recorded.service_serve Backend.grant fun _ _ => rfl) 40 ⟨[], fun _ => false⟩
    (specimen.move ⟨⟨2024, 1, 1⟩, ["7"]⟩)
  exact ⟨_, _, reached, by decide +kernel, (move_deletes_with_warrant _ _ _ _ _ reached).1⟩

end Mover

end Archivist
