import Archivist.Proofs.Move.Conduct

set_option autoImplicit false

namespace Archivist

variable {Store : Type} {backend : Backend Store} {rests : Store → Prop}

namespace Mover

/-- Something of a record and of a store outlasts the calls that are demanded. -/
def Maintains (mover : Mover) (suffix : String) (ids : List String) (known : String → Bool)
    (backend : Backend Store) (invariant : History → Store → Prop) : Prop :=
  ∀ history call now reply after, history.Obeys (mover.Demands suffix ids known) →
    mover.Demands suffix ids known history call → backend call now reply after →
      invariant history now → invariant (history ++ [⟨call, reply⟩]) after

/-- There is a record of what was asked that is in order, and it fits the store. -/
def Honors (mover : Mover) (suffix : String) (ids : List String) (known : String → Bool)
    (invariant : History → Store → Prop) (site : Site Store) (history : History) : Prop :=
  mover.Conduct suffix ids known ⟨history, site.recalls⟩ ∧ invariant history site.store

/-- A record mirrors a store when it fits, as long as the calls so far were what is demanded. -/
structure Mirrors (mover : Mover) (suffix : String) (ids : List String) (known : String → Bool)
    (rests : Store → Prop) (invariant : History → Store → Prop) (site : Site Store)
    (there : Site History) : Prop where
  recalls : site.recalls = there.recalls
  rests : there.store.IsPending → rests site.store
  truthful : there.store.Obeys (mover.Demands suffix ids known) →
    invariant there.store site.store

variable {mover : Mover} {suffix : String} {ids : List String} {known : String → Bool}
  {invariant : History → Store → Prop}

theorem Mirrors.call {site : Site Store} {there : Site History} {call : Call}
    {reply : Option call.Reply} {after : Store} (restful : backend.Restful rests)
    (maintains : mover.Maintains suffix ids known backend invariant)
    (mirrors : mover.Mirrors suffix ids known rests invariant site there)
    (served : backend call site.store reply after) :
    mover.Mirrors suffix ids known rests invariant ⟨after, site.recalls⟩
      ⟨there.store ++ [⟨call, reply⟩], there.recalls⟩ where
  recalls := mirrors.recalls
  rests := by
    intro given
    obtain ⟨event, last, passing⟩ := given
    cases Option.some.inj (List.getLast?_concat.symm.trans last)
    exact restful call site.store reply after served passing
  truthful := by
    intro obeys
    obtain ⟨earlier, demanded⟩ := (History.obeys_concat _ _ _).mp obeys
    exact maintains _ call _ _ _ earlier demanded served (mirrors.truthful earlier)

theorem Mirrors.answered {action : Action} {site after : Site Store} {there : Site History}
    {answer : action.Yield} (restful : backend.Restful rests)
    (maintains : mover.Maintains suffix ids known backend invariant)
    (mirrors : mover.Mirrors suffix ids known rests invariant site there)
    (served : backend.service action site answer after) :
    ∃ next, Backend.recorded.service action there answer next ∧
      mover.Mirrors suffix ids known rests invariant after next := by
  cases action with
  | attempt call limit =>
    obtain ⟨store, recalls⟩ := after
    obtain ⟨effect, rfl⟩ := served
    have recorded : Backend.recorded.service (.attempt call limit) there answer
        ⟨there.store ++ [⟨call, answer⟩], there.recalls⟩ := ⟨rfl, rfl⟩
    exact ⟨_, recorded, mirrors.call restful maintains effect⟩
  | recalls destination =>
    obtain ⟨rfl, rfl⟩ := served
    exact ⟨there, ⟨congrFun mirrors.recalls destination, rfl⟩, mirrors⟩
  | remember destination =>
    rw [show after = _ from served]
    refine ⟨there.remember destination, rfl, ?_, mirrors.rests, mirrors.truthful⟩
    simp only [Site.remember, mirrors.recalls]
  | rest _ | enter _ | count _ _ =>
    rw [show after = site from served]
    exact ⟨there, rfl, mirrors⟩

theorem Mirrors.honors {site : Site Store} {there : Site History}
    (mirrors : mover.Mirrors suffix ids known rests invariant site there)
    (conduct : mover.Conduct suffix ids known there) :
    mover.Honors suffix ids known invariant site there.store := by
  obtain ⟨obeys, mindful⟩ := conduct
  exact ⟨⟨obeys, mirrors.recalls ▸ mindful⟩, mirrors.truthful obeys⟩

/-- A move keeps what outlasts its calls, wherever it is cut off. When it succeeds the record shows
that everything was ready and that all that was copied has been deleted, and when it does not the
record shows what foiled it. -/
theorem ensures_moveTo_maintained (rests : Store → Prop) (excuses : Crash → Prop) (mover : Mover)
    (suffix : String) (ids : List String) (site : Site Store) (restful : backend.Restful rests)
    (maintains : mover.Maintains suffix ids site.recalls backend invariant)
    (begun : invariant [] site.store) :
    (backend.setting rests
      (fun after => ∃ history, mover.Honors suffix ids site.recalls invariant after history)
      excuses).Ensures (fun result after => ∃ history,
        mover.Honors suffix ids site.recalls invariant after history ∧
        match result with
        | .ok count => count = ids.length ∧ mover.Ready suffix ids history ∧
          List.Forall₂ Deletes history.copied.reverse (history.finals .deleteByQuery)
        | .error _ => ∃ event ∈ history, mover.Foils suffix ids event)
      (mover.moveTo suffix ids) site := by
  refine (Setting.Ensures.simulate (mover.Mirrors suffix ids site.recalls rests invariant)
    ?permitted (fun _ _ _ _ _ mirrors _ => mirrors.answered restful maintains)
    ?kept (fun _ => False.elim) ?begun conduct_begun
    (ensures_moveTo_outcome mover suffix ids site.recalls)).mono ?finished
  case permitted =>
    intro action now there mirrors permitted
    cases action with
    | rest millis => exact mirrors.rests permitted
    | _ => trivial
  case kept => exact fun after there mirrors conduct => ⟨there.store, mirrors.honors conduct⟩
  case begun =>
    refine ⟨rfl, ?_, fun _ => begun⟩
    intro given
    obtain ⟨event, last, _⟩ := given
    cases last
  case finished =>
    intro result after reached
    obtain ⟨there, mirrors, conduct, _, ends⟩ := reached
    exact ⟨there.store, mirrors.honors conduct, ends⟩

end Mover

end Archivist
