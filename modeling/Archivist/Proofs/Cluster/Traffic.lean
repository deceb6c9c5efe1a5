import Archivist.Cluster.Client
import Archivist.Json.Members
import Archivist.Proofs.Dialogue.Account
import Archivist.Proofs.Dialogue.History

set_option autoImplicit false

namespace Archivist.Cluster

open Json (Value)

/-- A request and what became of it; nothing when it was given up. -/
structure Letter where
  request : Request
  delivery : Option Delivery

abbrev Traffic : Type := List Letter

/-- A request may be delivered in any way, which is written down. -/
def network : Service (fun _ : Request => Delivery) Traffic :=
  fun request traffic delivery next => next = traffic ++ [⟨request, some delivery⟩]

/-- A cluster of which only the traffic is known. An attempt at a call that is given up has a request
under way. -/
def backend (settings : ClusterSettings) : Backend Traffic := fun call before reply after =>
  match reply with
  | some reply => (perform settings call).Reaches network before after (.finish reply)
  | none => ∃ request resume between,
    (perform settings call).Reaches network before between (.ask request resume) ∧
      after = between ++ [⟨request, none⟩]

section Requests

variable (settings : ClusterSettings)

def post (path : String) (payload : Payload) : Request :=
  ⟨.post, endpoint settings.url path, settings.authorization?, payload⟩

def deletion (index : String) (filter : Filter) : Request :=
  post settings (index ++ "/_delete_by_query?refresh=true&conflicts=proceed")
    (.json (deleteBody filter))

def copying (source destination : String) (filter : Filter) : Request :=
  post settings "_reindex?wait_for_completion=true&refresh=true"
    (.json (reindexBody source destination filter))

def requests : Call → List Request
  | .search request => [post settings (request.index ++ "/_search") (.json (searchBody request))]
  | .bulkWrite index documents =>
    [post settings "_bulk?refresh=false" (.lines (writeLines index documents))]
  | .reindex source destination filter => [copying settings source destination filter]
  | .deleteByQuery index filter => [deletion settings index filter]
  | .bulkDelete index ids => [post settings "_bulk?refresh=false" (.lines (deleteLines index ids))]
  | .ensureExists index => [
    ⟨.head, endpoint settings.url index, settings.authorization?, .none⟩,
    ⟨.put, endpoint settings.url index, settings.authorization?, .none⟩]
  | .refresh index => [post settings (index ++ "/_refresh") .none]

theorem exists_sendBulk (lines : String) (missingIsFine : Bool) :
    ∃ resume, sendBulk settings lines missingIsFine =
        .ask (post settings "_bulk?refresh=false" (.lines lines)) resume ∧
      ∀ response document, response.isSuccess = true → Json.read response.body = some document →
        resume (.answered response) = .finish (.ok (tally missingIsFine document)) := by
  refine ⟨_, rfl, ?_⟩
  intro response document success read
  have accepted : verdict response = .ok response := if_pos success
  simp [accepted, read]

end Requests

/-- Where requests of some kind may be sent, whatever they are answered, and nothing may stop
without a result. -/
def sending (asked : Request → Prop) : Setting (fun _ : Request => Delivery) Unit where
  service _ _ _ _ := True
  permits request _ := asked request
  always _ := True
  excuses _ := False

section Sending

variable {asked : Request → Prop} {state : Unit} {settings : ClusterSettings}

theorem asks_send {method : Method} {path : String} {payload : Payload}
    (sent : asked ⟨method, endpoint settings.url path, settings.authorization?, payload⟩) :
    (sending asked).Ensures (fun _ _ => True) (send settings method path payload) state := by
  refine ⟨sent, fun delivery after _ => ⟨trivial, ?_⟩⟩
  cases delivery <;> trivial

theorem asks_sendForJson {path : String} {payload : Payload}
    (sent : asked (post settings path payload)) :
    (sending asked).Ensures (fun _ _ => True) (sendForJson settings path payload) state := by
  rw [sendForJson, Setting.ensures_andThen]
  refine (asks_send sent).mono ?_
  rintro (failure | response) after _ <;> trivial

theorem asks_reading {Result : Type} {path : String} {payload : Payload}
    (sent : asked (post settings path payload)) (read : Value → Except StoreFailure Result) :
    (sending asked).Ensures (fun _ _ => True)
      ((sendForJson settings path payload).andThen fun document => .finish (read document))
      state := by
  rw [Setting.ensures_andThen]
  refine (asks_sendForJson sent).mono ?_
  rintro (failure | document) after _ <;> trivial

theorem asks_perform (settings : ClusterSettings) (call : Call) :
    (sending (· ∈ requests settings call)).Ensures (fun _ _ => True) (perform settings call)
      () := by
  cases call with
  | search request | reindex _ _ _ | deleteByQuery _ _ =>
    exact asks_reading List.mem_cons_self _
  | bulkWrite index documents =>
    rw [perform]
    split
    · trivial
    · exact asks_reading List.mem_cons_self _
  | bulkDelete index ids =>
    rw [perform]
    split
    · trivial
    · exact asks_reading List.mem_cons_self _
  | refresh index =>
    rw [perform, Setting.ensures_andThen]
    refine (asks_send List.mem_cons_self).mono ?_
    rintro (failure | response) after _ <;> trivial
  | ensureExists index =>
    rw [perform, ensure, Setting.ensures_bind]
    refine (asks_send List.mem_cons_self).mono ?_
    rintro (failure | response) after _
    · simp only
      split
      · rw [Setting.ensures_bind]
        refine (asks_send (List.mem_cons_of_mem _ List.mem_cons_self)).mono ?_
        rintro (failure | response) after _
        · split <;> trivial
        · trivial
      · trivial
    · trivial

end Sending

variable {settings : ClusterSettings} {before after : Traffic} {call : Call}

theorem grows_of_reaches {Result : Type} {asked : Request → Prop} {exchange rest : Exchange Result}
    (asks : (sending asked).Ensures (fun _ _ => True) exchange ())
    (reached : exchange.Reaches network before after rest) :
    Grows (fun letter => asked letter.request) before after ∧
      (sending asked).Ensures (fun _ _ => True) rest () := by
  induction reached with
  | here traffic exchange => exact ⟨.refl traffic, asks⟩
  | @onward request _ traffic _ _ _ delivery answered _ ih =>
    obtain rfl := answered
    obtain ⟨grows, further⟩ := ih (asks.2 delivery () trivial).2
    have sent : asked request := asks.1
    exact ⟨.trans (.concat traffic sent) grows, further⟩

theorem grows_of_backend {reply : Option call.Reply}
    (served : backend settings call before reply after) :
    Grows (fun letter => letter.request ∈ requests settings call) before after := by
  cases reply with
  | some reply => exact (grows_of_reaches (asks_perform settings call) served).1
  | none =>
    obtain ⟨request, resume, between, reached, rfl⟩ := served
    obtain ⟨grows, asking⟩ := grows_of_reaches (asks_perform settings call) reached
    exact grows.trans (.concat between asking.1)

/-- The reply to a call where each request is delivered in one way. A call needs at most two. -/
def replyOf (settings : ClusterSettings) (deliver : Request → Delivery) (call : Call)
    (traffic : Traffic) : Option call.Reply × Traffic :=
  let serve request (traffic : Traffic) :=
    (deliver request, traffic ++ [⟨request, some (deliver request)⟩])
  match (perform settings call).follow serve 2 traffic with
  | (after, .finish reply) => (some reply, after)
  | (after, .ask request _) => (none, after ++ [⟨request, none⟩])
  | (after, .crash _) => (none, after)

theorem backend_replyOf (deliver : Request → Delivery) (call : Call) (traffic : Traffic) :
    backend settings call traffic (replyOf settings deliver call traffic).1
      (replyOf settings deliver call traffic).2 := by
  have reached : (perform settings call).Reaches network traffic _ _ :=
    Dialogue.reaches_follow (fun request traffic =>
      (deliver request, traffic ++ [⟨request, some (deliver request)⟩])) (fun _ _ => rfl) 2 traffic _
  rw [replyOf]
  split <;> rename_i came <;> rw [came] at reached
  · exact reached
  · exact ⟨_, _, _, reached, rfl⟩
  · exact (grows_of_reaches (asks_perform settings call) reached).2.elim

/-- The documents that could not be copied or deleted, as a response reports them. -/
def failuresOf (document : Value) : List Value :=
  ((document.member? "failures").bind Value.items?).getD []

namespace Letter

def document? (letter : Letter) : Option Value :=
  match letter.delivery with
  | some (.answered response) => if response.isSuccess then Json.read response.body else none
  | _ => none

/-- The request succeeded and its response lists no failure. -/
def isClean (letter : Letter) : Bool :=
  letter.document?.any fun document => (failuresOf document).isEmpty

/-- The documents that were left alone because they had changed meanwhile. -/
def conflicts (letter : Letter) : Nat :=
  (letter.document?.map (countOf · "version_conflicts")).getD 0

/-- The response says that an index does not exist. -/
def isMissing (letter : Letter) : Bool :=
  match letter.delivery with
  | some (.answered response) => response.status = 404
  | _ => false

end Letter

theorem checkFailures_eq_ok {document : Value} :
    checkFailures document = .ok () ↔ failuresOf document = [] := by
  rw [checkFailures, failuresOf]
  cases (document.member? "failures").bind Value.items? with
  | none => exact iff_of_true rfl rfl
  | some failures =>
    cases failures with
    | nil => exact iff_of_true rfl rfl
    | cons first rest => exact iff_of_false nofun nofun

theorem isMissing_of_checkFailures {document : Value} {failure : StoreFailure}
    (checked : checkFailures document = .error failure) : failure.isMissing = false := by
  rw [checkFailures] at checked
  split at checked <;> cases checked
  rfl

theorem verdict_eq_ok {response accepted : Response} :
    verdict response = .ok accepted ↔ response.isSuccess = true ∧ response = accepted := by
  rw [verdict]
  split
  · rename_i success
    simp only [Except.ok.injEq, success, true_and]
  · rename_i failure
    split <;> simp only [reduceCtorEq, failure, false_and, Bool.false_eq_true]

theorem status_of_verdict {response : Response} {failure : StoreFailure}
    (judgement : verdict response = .error failure) (missing : failure.isMissing = true) :
    response.status = 404 := by
  rw [verdict] at judgement
  split at judgement
  · cases judgement
  · split at judgement <;> cases judgement
    · cases missing
    · exact of_decide_eq_true missing

theorem reaches_sendForJson {path : String} {payload : Payload}
    {reply : Except StoreFailure Value}
    (reached : (sendForJson settings path payload).Reaches network before after (.finish reply)) :
    ∃ letter : Letter, letter.request = post settings path payload ∧ after = before ++ [letter] ∧
      match reply with
      | .ok document => letter.document? = some document
      | .error failure => failure.isMissing = true → letter.isMissing = true := by
  obtain ⟨delivery, between, rfl, read⟩ := Dialogue.reaches_ask.mp reached
  cases delivery with
  | failed reason =>
    obtain ⟨rfl, rfl⟩ := Dialogue.reaches_finish.mp read
    exact ⟨_, rfl, rfl, nofun⟩
  | answered response =>
    obtain ⟨judged, between, first, second⟩ := Dialogue.reaches_bind.mp read
    obtain ⟨rfl, rfl⟩ := Dialogue.reaches_finish.mp first
    rcases judgement : verdict response with failure | accepted
    · rw [judgement] at second
      obtain ⟨rfl, rfl⟩ := Dialogue.reaches_finish.mp second
      exact ⟨_, rfl, rfl, fun missing => decide_eq_true (status_of_verdict judgement missing)⟩
    · rw [judgement] at second
      obtain ⟨success, rfl⟩ := verdict_eq_ok.mp judgement
      obtain ⟨rfl, same⟩ := Dialogue.reaches_finish.mp second
      refine ⟨_, rfl, rfl, ?_⟩
      cases parsed : Json.read response.body with
      | none =>
        rw [parsed] at same
        subst same
        exact nofun
      | some document =>
        rw [parsed] at same
        subst same
        exact (if_pos success).trans parsed

theorem reaches_reading {Result : Type} {path : String} {payload : Payload}
    {read : Value → Except StoreFailure Result} {reply : Except StoreFailure Result}
    (reached : ((sendForJson settings path payload).andThen fun document =>
      .finish (read document)).Reaches network before after (.finish reply)) :
    ∃ letter : Letter, letter.request = post settings path payload ∧ after = before ++ [letter] ∧
      ((∃ document, letter.document? = some document ∧ read document = reply) ∨
      ∃ failure, reply = .error failure ∧ (failure.isMissing = true → letter.isMissing = true)) := by
  obtain ⟨outcome, between, sent, rest⟩ := Dialogue.reaches_bind.mp reached
  obtain ⟨letter, asked, rfl, told⟩ := reaches_sendForJson sent
  rcases outcome with failure | document
  · obtain ⟨rfl, rfl⟩ := Dialogue.reaches_finish.mp rest
    exact ⟨letter, asked, rfl, Or.inr ⟨failure, rfl, told⟩⟩
  · obtain ⟨rfl, same⟩ := Dialogue.reaches_finish.mp rest
    exact ⟨letter, asked, rfl, Or.inl ⟨document, told, same⟩⟩

theorem isClean_iff {letter : Letter} : letter.isClean = true ↔
    ∃ document, letter.document? = some document ∧ failuresOf document = [] := by
  rw [Letter.isClean]
  cases letter.document? with
  | none => simp only [Option.any_none, Bool.false_eq_true, reduceCtorEq, false_and, exists_false]
  | some document =>
    simp only [Option.any_some, List.isEmpty_iff, Option.some.injEq, exists_eq_left']

theorem isClean_of_backend {index : String} {filter : Filter} {count : Nat}
    (served : backend settings (.deleteByQuery index filter) before (some (.ok count)) after) :
    ∃ letter : Letter, letter.request = deletion settings index filter ∧
      after = before ++ [letter] ∧ letter.isClean = true := by
  obtain ⟨letter, asked, same, ⟨document, told, checked⟩ | ⟨failure, failed, _⟩⟩ :=
    reaches_reading served
  · refine ⟨letter, asked, same, isClean_iff.mpr ⟨document, told, checkFailures_eq_ok.mp ?_⟩⟩
    cases outcome : checkFailures document with
    | ok _ => rfl
    | error failure =>
      rw [outcome] at checked
      cases checked
  · cases failed

/-- A deletion whose response is a success that lists no failure is granted, however many conflicts
there were. -/
theorem backend_of_clean {index : String} {filter : Filter} {delivery : Delivery}
    (clean : Letter.isClean ⟨deletion settings index filter, some delivery⟩ = true)
    (before : Traffic) :
    ∃ count, backend settings (.deleteByQuery index filter) before (some (.ok count))
      (before ++ [⟨deletion settings index filter, some delivery⟩]) := by
  obtain ⟨document, told, empty⟩ := isClean_iff.mp clean
  cases delivery with
  | failed reason => cases told
  | answered response =>
    obtain ⟨success, parsed⟩ : response.isSuccess = true ∧ Json.read response.body = some document :=
      Option.ite_none_right_eq_some.mp told
    have judgement : verdict response = .ok response := if_pos success
    have checked := checkFailures_eq_ok.mpr empty
    refine ⟨countOf document "deleted", .onward (.answered response) rfl ?_⟩
    simp only [Dialogue.finish_bind, judgement, parsed, checked]
    exact .here _ _

theorem isMissing_of_backend {source destination : String} {filter : Filter}
    {failure : StoreFailure} (missing : failure.isMissing = true)
    (served : backend settings (.reindex source destination filter) before (some (.error failure))
      after) :
    ∃ letter : Letter, letter.request = copying settings source destination filter ∧
      after = before ++ [letter] ∧ letter.isMissing = true := by
  obtain ⟨letter, asked, same, ⟨document, _, checked⟩ | ⟨other, failed, absent⟩⟩ :=
    reaches_reading served
  · cases outcome : checkFailures document with
    | ok _ =>
      rw [outcome] at checked
      cases checked
    | error other =>
      rw [outcome] at checked
      cases checked
      rw [isMissing_of_checkFailures outcome] at missing
      cases missing
  · cases failed
    exact ⟨letter, asked, same, absent missing⟩

/-- The last request of its kind succeeded for every document. -/
def Cleaned (request : Request) (traffic : Traffic) : Prop :=
  ∃ earlier letter later, traffic = earlier ++ letter :: later ∧ letter.request = request ∧
    letter.isClean = true ∧ ∀ other ∈ later, other.request ≠ request

section Cleaned

variable {request : Request} {letter : Letter}

theorem Cleaned.grows {kind : Letter → Prop} (cleaned : Cleaned request before)
    (grows : Grows kind before after) (others : ∀ letter, kind letter → letter.request ≠ request) :
    Cleaned request after := by
  obtain ⟨earlier, letter, later, rfl, same, clean, quiet⟩ := cleaned
  obtain ⟨more, rfl, all⟩ := grows
  refine ⟨earlier, letter, later ++ more, ?_, same, clean, fun other member => ?_⟩
  · rw [List.append_assoc, List.cons_append]
  · rcases List.mem_append.mp member with there | new
    · exact quiet other there
    · exact others other (all other new)

theorem cleaned_concat (clean : letter.isClean = true) :
    Cleaned letter.request (before ++ [letter]) :=
  ⟨before, letter, [], rfl, rfl, clean, List.forall_mem_nil _⟩

theorem Cleaned.concat (cleaned : Cleaned request before) (clean : letter.isClean = true) :
    Cleaned request (before ++ [letter]) := by
  by_cases same : letter.request = request
  · rw [← same]
    exact cleaned_concat clean
  · exact cleaned.grows (.concat before rfl) fun other here => here ▸ same

end Cleaned

section Apart

variable {index other : String} {filter : Filter}

theorem memberOf?_foldl {key : String} (members sorted : List (String × Value))
    (listed : Json.memberOf? key sorted ≠ none ∨ ∃ member ∈ members, member.1 = key) :
    Json.memberOf? key (members.foldl (fun sorted member =>
      Json.insertMember member.1 member.2 sorted) sorted) ≠ none := by
  induction members generalizing sorted with
  | nil => exact listed.resolve_right (by rintro ⟨_, nothing, _⟩; cases nothing)
  | cons first rest ih =>
    refine ih _ ?_
    rw [Json.memberOf?_insertMember]
    by_cases here : first.1 = key
    · rw [if_pos here]
      exact Or.inl nofun
    · rw [if_neg here]
      refine listed.imp_right ?_
      rintro ⟨member, there, same⟩
      rcases List.mem_cons.mp there with rfl | later
      · exact absurd same here
      · exact ⟨member, later, same⟩

theorem deleteBody_ne {members : List (String × Value)} (key : String)
    (different : "query" ≠ key) (listed : ∃ member ∈ members, member.1 = key) :
    deleteBody filter ≠ .ofMembers members := by
  intro same
  have found := memberOf?_foldl members [] (Or.inr listed)
  have absent : (deleteBody filter).member? key = none := if_neg different
  rw [same] at absent
  exact found absent

theorem deletion_not_mem {call : Call} (another : call.operation ≠ .deleteByQuery) :
    deletion settings index filter ∉ requests settings call := by
  have apart : ∀ request ∈ requests settings call,
      request.payload ≠ .json (deleteBody filter) := by
    cases call with
    | deleteByQuery _ _ => exact absurd rfl another
    | search request =>
      intro asked member same
      cases List.mem_singleton.mp member
      refine deleteBody_ne "size" (by decide) ?_ (Payload.json.inj same).symm
      exact ⟨_, List.mem_append_left _ List.mem_cons_self, rfl⟩
    | reindex source destination chosen =>
      intro asked member same
      cases List.mem_singleton.mp member
      refine deleteBody_ne "dest" (by decide) ?_ (Payload.json.inj same).symm
      exact ⟨_, List.mem_cons_of_mem _ List.mem_cons_self, rfl⟩
    | bulkWrite _ _ | bulkDelete _ _ | refresh _ =>
      intro asked member
      cases List.mem_singleton.mp member
      exact nofun
    | ensureExists _ =>
      intro asked member
      rcases List.mem_cons.mp member with rfl | later
      · exact nofun
      · cases List.mem_singleton.mp later
        exact nofun
  exact fun member => apart _ member rfl

theorem endpoint_injective {base path other : String}
    (same : endpoint base path = endpoint base other) : path = other :=
  (String.append_right_inj _).mp same

theorem deletion_injective {field key : String} {values : List Value}
    (same : deletion settings index (.terms field values) =
      deletion settings other (.terms key values)) : index = other ∧ field = key := by
  have path := endpoint_injective (congrArg Request.url same)
  have payload := Payload.json.inj (congrArg Request.payload same)
  simp only [deleteBody, queryOf, Filter.query, Value.single, List.map_cons, List.map_nil,
    Value.object.injEq, Value.array.injEq, List.cons.injEq, Prod.mk.injEq, true_and,
    and_true] at payload
  exact ⟨(String.append_left_inj _).mp path, payload⟩

end Apart

section Work

variable (settings)

def setting (always : Traffic → Prop) : Setting Action.Yield (Site Traffic) :=
  (backend settings).setting (fun _ => True) (fun site => always site.store) fun _ => True

variable {settings} {calls : Call → Prop} {always : Traffic → Prop} {kind : Letter → Prop}

theorem ensures_call (policy : RetryPolicy) (step : String) (call : Call) (site : Site Traffic) :
    (setting settings fun _ => True).Ensures (fun result later => ∃ between reply,
      Grows (fun letter => letter.request ∈ requests settings call) site.store between ∧
        backend settings call between reply later.store ∧
        result = reply.getD (.error (policy.timedOut step))) (Work.call policy step call) site := by
  refine Backend.ensures_call policy step call
    (fun now => Grows (fun letter => letter.request ∈ requests settings call) site.store now.store)
    _ ?_ site (.refl site.store)
  intro now reply store grown served
  refine ⟨trivial, ⟨now.store, reply, grown, served, rfl⟩, fun _ => ⟨trivial, ?_⟩⟩
  exact grown.trans (grows_of_backend served)

theorem grows_of_service {action : Action} {now later : Site Traffic} {answer : action.Yield}
    (served : (backend settings).service action now answer later)
    (made : ∀ call limit, action = .attempt call limit →
      ∀ letter : Letter, letter.request ∈ requests settings call → kind letter) :
    Grows kind now.store later.store := by
  cases action with
  | attempt call limit => exact (grows_of_backend served.1).imp (made call limit rfl)
  | recalls destination =>
    rw [served.2]
    exact .refl now.store
  | remember _ | rest _ | enter _ | count _ _ =>
    rw [served]
    exact .refl now.store

theorem ensures_grows {Result : Type} (work : Work Result) (site : Site Traffic) :
    (setting settings fun _ => True).Ensures (fun _ later =>
      Grows (fun _ => True) site.store later.store) work site := by
  induction work generalizing site with
  | finish result => exact .refl site.store
  | crash cause => trivial
  | ask action resume ih =>
    refine ⟨by cases action <;> trivial, fun answer after served => ⟨trivial, ?_⟩⟩
    have grown := grows_of_service served fun _ _ _ _ _ => trivial
    exact (ih answer after).mono fun _ later further => grown.trans further

theorem ensures_letters {Result : Type} {done : Result → Prop} {work : Work Result}
    (asks : (Work.within calls).Ensures (fun result _ => done result) work ())
    (made : ∀ call, calls call → ∀ letter : Letter, letter.request ∈ requests settings call →
      kind letter)
    {start : Traffic} (kept : ∀ traffic, Grows kind start traffic → always traffic)
    {site : Site Traffic} (begun : Grows kind start site.store) :
    (setting settings always).Ensures (fun result later =>
      done result ∧ Grows kind start later.store) work site := by
  refine asks.keeps (fun now : Site Traffic => Grows kind start now.store) ?_ ?_
    (fun now => kept now.store) (fun _ => trivial) begun
  · intro action now asked grown
    cases action <;> trivial
  · intro action now answer later asked grown served
    refine grown.trans (grows_of_service served fun call limit same => ?_)
    subst same
    exact made call asked

end Work

end Archivist.Cluster
