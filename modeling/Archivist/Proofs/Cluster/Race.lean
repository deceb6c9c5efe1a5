import Archivist.Proofs.Cluster.Traffic
import Archivist.Proofs.Dialogue.Crowd
import Mathlib.Data.Set.List

set_option autoImplicit false

namespace Archivist

theorem Text.occurs_iff {part text : List Char} : occurs part text = true ↔ part <:+: text := by
  induction text with
  | nil => simp [occurs]
  | cons character rest ih => simp [occurs, ih, List.infix_cons_iff, List.isPrefixOf_iff_prefix]

namespace Cluster

abbrev Indices : Type := String → Bool

def Indices.make (indices : Indices) (index : String) : Indices :=
  fun other => other = index || indices other

/-- Which index of a cluster an address stands for. A cluster may have more than one address. -/
abbrev Location : Type := String → String

/-- What a cluster is known to answer. A request to make an index succeeds where it is not there and
is refused with the reason where it is. -/
def answers (locate : Location) : Service (fun _ : Request => Delivery) Indices
  | ⟨.head, address, _, _⟩, indices, delivery, after =>
    ∃ response, delivery = .answered response ∧ after = indices ∧
      response.status = if indices (locate address) then 200 else 404
  | ⟨.put, address, _, _⟩, indices, delivery, after =>
    ∃ response, delivery = .answered response ∧
      if indices (locate address) then
        after = indices ∧ response.status = 400 ∧
          "resource_already_exists_exception".toList <:+: response.body.toList
      else after = indices.make (locate address) ∧ response.isSuccess = true
  | _, _, _, _ => True

def serve (locate : Location) (request : Request) (indices : Indices) : Delivery × Indices :=
  let there := indices (locate request.url)
  match request.method with
  | .head => (.answered ⟨if there then 200 else 404, "", request.url⟩, indices)
  | .put =>
    if there then (.answered ⟨400, "resource_already_exists_exception", request.url⟩, indices)
    else (.answered ⟨200, "acknowledged", request.url⟩, indices.make (locate request.url))
  | _ => (.failed "nobody asked", indices)

theorem answers_serve (locate : Location) (request : Request) (indices : Indices) :
    answers locate request indices (serve locate request indices).1
      (serve locate request indices).2 := by
  obtain ⟨method, address, authorization, payload⟩ := request
  cases method with
  | get | post => trivial
  | head => exact ⟨_, rfl, rfl, rfl⟩
  | put =>
    cases there : indices (locate address) with
    | true => simp [answers, serve, there]
    | false => simp [answers, serve, there, Response.isSuccess]

def making (settings : ClusterSettings) (index : String) :
    Exchange (Except StoreFailure EnsureOutcome) :=
  (send settings .put index .none).bind fun
    | .ok _ => .finish (.ok .created)
    | .error (.rejected 400 body) =>
      .finish (if saysAlreadyExists body then .ok .alreadyExisted
        else .error (.rejected 400 body))
    | .error failure => .finish (.error failure)

inductive Stage where
  | looking
  | making
  | ended (outcome : EnsureOutcome)

def workAt (settings : ClusterSettings) (index : String) :
    Stage → Exchange (Except StoreFailure EnsureOutcome)
  | .looking => ensure settings index
  | .making => making settings index
  | .ended outcome => .finish (.ok outcome)

section Client

variable {locate : Location} {settings : ClusterSettings} {index : String} {indices after : Indices}
  {delivery : Delivery} {stage : Stage} {request : Request}
  {resume : Delivery → Exchange (Except StoreFailure EnsureOutcome)}

theorem verdict_of_success {response : Response} (success : response.isSuccess = true) :
    verdict response = .ok response := verdict_eq_ok.mpr ⟨success, rfl⟩

theorem verdict_of_refusal {response : Response} (refused : 400 ≤ response.status)
    (final : response.status < 429) :
    verdict response = .error (.rejected response.status response.body) := by
  have failure : response.isSuccess = false := by
    simp only [Response.isSuccess, Bool.and_eq_false_iff, decide_eq_false_iff_not]
    omega
  have lasting : response.isPassing = false := by
    simp only [Response.isPassing, Bool.or_eq_false_iff, Bool.and_eq_false_iff,
      decide_eq_false_iff_not]
    omega
  simp [verdict, failure, lasting]

def Stage.next (there : Bool) : Stage → Stage
  | .looking => if there then .ended .alreadyExisted else .making
  | .making => .ended (if there then .alreadyExisted else .created)
  | .ended outcome => .ended outcome

def Stage.effect (indices : Indices) (index : String) : Stage → Indices
  | .making => if indices index then indices else indices.make index
  | _ => indices

/-- A client that asks takes one step, and only the first one to make the index changes anything. -/
theorem step_of_asks (asks : .ask request resume = workAt settings index stage)
    (served : answers locate request indices delivery after) :
    resume delivery = workAt settings index
        (stage.next (indices (locate (endpoint settings.url index)))) ∧
      after = stage.effect indices (locate (endpoint settings.url index)) := by
  cases stage with
  | ended outcome => cases asks
  | looking =>
    cases asks
    obtain ⟨response, rfl, rfl, status⟩ := served
    refine ⟨?_, rfl⟩
    cases there : after (locate (endpoint settings.url index)) with
    | true =>
      rw [there, if_pos rfl] at status
      have success : response.isSuccess = true := by simp [Response.isSuccess, status]
      simp [verdict_of_success success, Stage.next, workAt]
    | false =>
      rw [there, if_neg (by decide)] at status
      have judged : verdict response = .error (.rejected response.status response.body) :=
        verdict_of_refusal (by omega) (by omega)
      simp only [judged, status, StoreFailure.isMissing]
      rfl
  | making =>
    cases asks
    obtain ⟨response, rfl, given⟩ := served
    cases there : indices (locate (endpoint settings.url index)) with
    | true =>
      rw [there, if_pos rfl] at given
      obtain ⟨rfl, status, reason⟩ := given
      have judged : verdict response = .error (.rejected response.status response.body) :=
        verdict_of_refusal (by omega) (by omega)
      have named : saysAlreadyExists response.body = true := Text.occurs_iff.mpr reason
      simp [judged, status, named, Stage.next, Stage.effect, there, workAt]
    | false =>
      rw [there, if_neg (by decide)] at given
      obtain ⟨rfl, success⟩ := given
      simp [verdict_of_success success, Stage.next, Stage.effect, there, workAt]

theorem done_or_answered (locate : Location) (settings : ClusterSettings) (index : String)
    (stage : Stage) (indices : Indices) :
    (∃ outcome, workAt settings index stage = .finish (.ok outcome)) ∨
      ∃ request resume delivery after, workAt settings index stage = .ask request resume ∧
        answers locate request indices delivery after := by
  cases stage with
  | ended outcome => exact Or.inl ⟨outcome, rfl⟩
  | looking | making => exact Or.inr ⟨_, _, _, _, rfl, answers_serve locate _ indices⟩

end Client

abbrev Turns : Type := List (Turn (fun _ : Request => Delivery) Indices)

/-- Clients under way, by number, and the cluster that they share. -/
abbrev Company : Type :=
  Crowd (fun _ : Request => Delivery) Indices (Except StoreFailure EnsureOutcome)

/-- Clients send their requests to a cluster, which has no others to serve. -/
abbrev Runs (locate : Location) : Company → Turns → Company → Prop :=
  Crowd.Runs (answers locate) fun _ _ => False

def gathered (clients : List ClusterSettings) (index : String) (indices : Indices) : Company :=
  ⟨indices, clients.map fun settings => ensure settings index⟩

def Agree (locate : Location) (clients : List ClusterSettings) (index : String) : Prop :=
  ∀ settings ∈ clients, locate (endpoint settings.url index) = index

instance (locate : Location) (clients : List ClusterSettings) (index : String) :
    Decidable (Agree locate clients index) :=
  inferInstanceAs (Decidable (∀ settings ∈ clients, locate (endpoint settings.url index) = index))

/-- A client under way has had one turn for each step behind it, and the index is there when it is
done. -/
def Stands (clients : List ClusterSettings) (index : String) (past : Turns) (indices : Indices)
    (work : Exchange (Except StoreFailure EnsureOutcome)) : Prop :=
  ∃ settings ∈ clients, ∃ stage, work = workAt settings index stage ∧
    match stage with
    | .looking => past.length = 0
    | .making => past.length = 1
    | .ended _ => past.length ≤ 2 ∧ indices index = true

def lack (indices : Indices) (index : String) : Nat := if indices index then 0 else 1

def hasCreated : Exchange (Except StoreFailure EnsureOutcome) → Bool
  | .finish (.ok .created) => true
  | _ => false

section Race

variable {locate : Location} {clients : List ClusterSettings} {index : String}
  {indices after : Indices} {turns : Turns} {crowd : Company}

theorem there_of_effect {stage : Stage} (there : indices index = true) :
    stage.effect indices index index = true := by
  cases stage <;> simp [Stage.effect, there]

theorem kept (alike : Agree locate clients index) :
    Crowd.Kept (answers locate) (fun _ _ => False)
      (fun indices after => indices index = true → after index = true)
      (fun _ => Stands clients index) where
  refl _ there := there
  trans first second there := second (first there)
  moved moved := moved.elim
  stays := by
    rintro _ past indices after work ⟨settings, among, stage, rfl, stands⟩ relied
    refine ⟨settings, among, stage, rfl, ?_⟩
    cases stage with
    | looking | making => exact stands
    | ended outcome => exact ⟨stands.1, relied stands.2⟩
  acts := by
    rintro number past indices request resume delivery after
      ⟨settings, among, stage, asks, stands⟩ served
    obtain ⟨onward, rfl⟩ := step_of_asks asks served
    rw [alike settings among] at onward ⊢
    refine ⟨there_of_effect, settings, among, _, onward, ?_⟩
    cases stage with
    | looking =>
      cases there : indices index <;> simp [Stage.next, Stage.effect, there, stands]
    | making =>
      cases there : indices index <;>
        simp [Stage.next, Stage.effect, there, stands, Indices.make]
    | ended outcome => cases asks

theorem created_of_step {settings : ClusterSettings} {stage : Stage} {request : Request}
    {resume : Delivery → Exchange (Except StoreFailure EnsureOutcome)} {delivery : Delivery}
    (alike : locate (endpoint settings.url index) = index)
    (asks : .ask request resume = workAt settings index stage)
    (served : answers locate request indices delivery after) :
    (if hasCreated (resume delivery) then 1 else 0) + lack after index = lack indices index := by
  obtain ⟨onward, rfl⟩ := step_of_asks asks served
  rw [onward, alike]
  cases stage with
  | looking =>
    cases indices index <;> simp [Stage.next, Stage.effect, workAt, hasCreated, making, send]
  | making =>
    cases there : indices index <;>
      simp [Stage.next, Stage.effect, there, workAt, hasCreated, lack, Indices.make]
  | ended outcome => cases asks

theorem stands_of_runs (alike : Agree locate clients index)
    (ran : Runs locate (gathered clients index indices) turns crowd) {number : Nat}
    {work : Exchange (Except StoreFailure EnsureOutcome)}
    (found : crowd.members[number]? = some work) :
    Stands clients index (turnsOf number turns) crowd.state work := by
  refine ((kept alike).runs ?_ ran).2 number work found
  intro number work begun
  obtain ⟨settings, among, made⟩ := List.mem_map.mp (List.mem_of_getElem? begun)
  exact ⟨settings, among, .looking, made.symm, rfl⟩

/-- The clients that made the index, and the index while it is lacking, are as many as there were
lacking indices to begin with. -/
theorem created_and_lacking (alike : Agree locate clients index)
    (ran : Runs locate (gathered clients index indices) turns crowd) :
    crowd.members.countP hasCreated + lack crowd.state index = lack indices index := by
  induction ran with
  | here =>
    have none : (clients.map fun settings => ensure settings index).countP hasCreated = 0 := by
      simp [List.countP_eq_zero, ensure, send, hasCreated]
    rw [gathered, none, Nat.zero_add]
  | meanwhile ran moved ih => exact moved.elim
  | @turn turns crowd number request resume delivery after ran asks served ih =>
    obtain ⟨settings, among, stage, came, _⟩ := stands_of_runs alike ran asks
    have stepped := created_of_step (alike settings among) came served
    obtain ⟨there, asking⟩ := List.getElem?_eq_some_iff.mp asks
    -- A client that still asks was not counted before its turn.
    have counted : (crowd.members.set number (resume delivery)).countP hasCreated =
        crowd.members.countP hasCreated + if hasCreated (resume delivery) then 1 else 0 := by
      rw [List.countP_set there, asking]
      simp [hasCreated]
    change _ + lack after index = _
    rw [counted]
    omega

theorem countP_hasCreated (outcomes : List EnsureOutcome) :
    (outcomes.map fun outcome => Dialogue.finish (.ok outcome)).countP hasCreated =
      outcomes.count .created := by
  rw [List.countP_map, List.count]
  apply List.countP_congr
  intro outcome _
  cases outcome <;> simp [hasCreated]

/-- Whatever comes between a client's look and its attempt to make the index, every client is done
after two turns or less, and is told that the index is there. When all are done exactly one has made
it, unless it was there to begin with. -/
theorem creation_races_are_won (alike : Agree locate clients index)
    (ran : Runs locate (gathered clients index indices) turns crowd) :
    crowd.members.length = clients.length ∧
    (∀ number work, crowd.members[number]? = some work → (turnsOf number turns).length ≤ 2 ∧
      ((∃ outcome, work = .finish (.ok outcome)) ∨
        ∃ request resume delivery after, work = .ask request resume ∧
          answers locate request crowd.state delivery after)) ∧
    ((∀ work ∈ crowd.members, ∃ result, work = .finish result) →
      ∃ outcomes : List EnsureOutcome,
        crowd.members = outcomes.map (fun outcome => .finish (.ok outcome)) ∧
        outcomes.count .created = if indices index || clients.isEmpty then 0 else 1) := by
  have size : crowd.members.length = clients.length :=
    ran.length_members.trans (List.length_map _)
  refine ⟨size, ?served, ?done⟩
  case served =>
    intro number work found
    obtain ⟨settings, _, stage, rfl, place⟩ := stands_of_runs alike ran found
    refine ⟨?_, done_or_answered locate settings index stage crowd.state⟩
    cases stage <;> simp only at place <;> omega
  case done =>
    intro finished
    have settled : ∀ work ∈ crowd.members, crowd.state index = true ∧
        work ∈ Set.range fun outcome => Dialogue.finish (.ok outcome) := by
      intro work member
      obtain ⟨number, found⟩ := List.getElem?_of_mem member
      obtain ⟨settings, _, stage, rfl, place⟩ := stands_of_runs alike ran found
      obtain ⟨result, ended⟩ := finished _ member
      cases stage with
      | looking | making => cases ended
      | ended outcome => exact ⟨place.2, outcome, rfl⟩
    -- All are done and none has failed, so the clients are nothing but their outcomes.
    obtain ⟨outcomes, same⟩ : crowd.members ∈ Set.range (List.map fun outcome =>
        Dialogue.finish (.ok outcome)) := by
      rw [Set.range_list_map]
      exact fun work member => (settled work member).2
    refine ⟨outcomes, same.symm, ?_⟩
    have balance := created_and_lacking alike ran
    rw [← same, countP_hasCreated] at balance
    rw [← same, List.length_map] at size
    cases clients with
    | nil =>
      cases List.length_eq_zero_iff.mp size
      simp
    | cons first rest =>
      have there : crowd.state index = true := by
        obtain ⟨work, member⟩ := List.exists_mem_of_length_pos (l := crowd.members) (by
          rw [← same, List.length_map, size]
          exact Nat.succ_pos _)
        exact (settled work member).1
      simpa [lack, there] using balance

end Race

def rivals : List ClusterSettings :=
  ["http://one:9200/", "http://two:9200"].map fun url => ⟨url, none, none, none, 5, 5⟩

def lastPart (address : String) : String :=
  String.ofList (address.toList.reverse.takeWhile (· ≠ '/')).reverse

/-- Both look before either makes the index. The second one is quicker. -/
def race : Turns × Company :=
  (gathered rivals "live" fun _ => false).play (serve lastPart) [0, 1, 1, 0]

theorem second_rival_creates :
    Agree lastPart rivals "live" ∧
      race.2.members[0]? = some (Dialogue.finish (.ok .alreadyExisted)) ∧
      race.2.members[1]? = some (Dialogue.finish (.ok .created)) ∧
      ∃ outcomes : List EnsureOutcome,
        race.2.members = outcomes.map (fun outcome => .finish (.ok outcome)) ∧
        outcomes.count .created = 1 := by
  have alike : Agree lastPart rivals "live" := by decide +kernel
  have ran : Runs lastPart (gathered rivals "live" fun _ => false) race.1 race.2 :=
    Crowd.Runs.here.play (answers_serve lastPart) [0, 1, 1, 0]
  have ended : ∀ work ∈ race.2.members, work.result?.isSome = true := by decide +kernel
  obtain ⟨_, _, done⟩ := creation_races_are_won alike ran
  refine ⟨alike, Crowd.member_of_result (by decide +kernel),
    Crowd.member_of_result (by decide +kernel), done fun work member => ?_⟩
  obtain ⟨result, came⟩ := Option.isSome_iff_exists.mp (ended work member)
  exact ⟨result, Dialogue.eq_finish came⟩

end Cluster

end Archivist
