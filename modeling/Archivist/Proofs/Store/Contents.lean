import Archivist.Store.Holdings
import Mathlib.Data.List.Basic

set_option autoImplicit false

namespace Archivist.Holdings

open Json (Value Ascending memberOf? memberOf?_insertMember memberOf?_eq_none_iff)

theorem documents?_set (holdings : Holdings) (index other : String) (documents : Documents)
    (ascending : Ascending documents) :
    (holdings.set index documents ascending).documents? other =
      if index = other then some documents else holdings.documents? other :=
  memberOf?_insertMember index other documents holdings.indices

theorem documents?_write (holdings : Holdings) (index other : String) (written : Documents) :
    (holdings.write index written).documents? other =
      if index = other then some (overwrite (holdings.documents index) written)
      else holdings.documents? other :=
  holdings.documents?_set index other _ _

theorem documents?_keep (holdings : Holdings) (index other : String)
    (wanted : String × Value → Bool) :
    (holdings.keep index wanted).documents? other =
      if index = other then some ((holdings.documents index).filter wanted)
      else holdings.documents? other :=
  holdings.documents?_set index other _ _

theorem documents_keep (holdings : Holdings) (index : String) (wanted : String × Value → Bool) :
    (holdings.keep index wanted).documents index = (holdings.documents index).filter wanted := by
  rw [documents, documents?_keep, if_pos rfl, Option.getD_some]

theorem documents_of_documents? (holdings : Holdings) (index : String) (documents : Documents)
    (found : holdings.documents? index = some documents) :
    holdings.documents index = documents := by
  simp only [Holdings.documents, found, Option.getD_some]

theorem document?_of_missing (holdings : Holdings) (index id : String)
    (absent : holdings.documents? index = none) : holdings.document? index id = none := by
  simp only [document?, documents, absent, Option.getD_none, memberOf?]

theorem isSome_of_document? (holdings : Holdings) (index id : String) (source : Value)
    (held : holdings.document? index id = some source) :
    (holdings.documents? index).isSome = true := by
  cases found : holdings.documents? index with
  | none =>
    rw [holdings.document?_of_missing index id found] at held
    cases held
  | some documents => rfl

theorem mem_documents_iff (holdings : Holdings) (index id : String) (source : Value) :
    (id, source) ∈ holdings.documents index ↔ holdings.document? index id = some source :=
  ⟨(holdings.ascending_documents index).memberOf?_of_mem (id, source),
    Json.mem_of_memberOf? id source (holdings.documents index)⟩

theorem memberOf?_overwrite (id : String) (documents written : Documents)
    (ascending : Ascending written) :
    memberOf? id (overwrite documents written) =
      (memberOf? id written).or (memberOf? id documents) := by
  induction written generalizing documents with
  | nil => rfl
  | cons document rest ih =>
    have later := ih (Json.insertMember document.1 document.2 documents)
      (List.Pairwise.of_cons ascending)
    rw [memberOf?_insertMember] at later
    change memberOf? id (overwrite (Json.insertMember document.1 document.2 documents) rest) = _
    rw [later]
    by_cases same : document.1 = id
    · have absent : memberOf? id rest = none :=
        (memberOf?_eq_none_iff id rest).mpr (same ▸ ascending.ne_of_mem)
      simp only [absent, same, memberOf?, ↓reduceIte, Option.none_or, Option.some_or]
    · simp only [memberOf?, same, ↓reduceIte]

theorem document?_write (holdings : Holdings) (index other id : String) (written : Documents)
    (ascending : Ascending written) :
    (holdings.write index written).document? other id =
      if index = other then (memberOf? id written).or (holdings.document? other id)
      else holdings.document? other id := by
  simp only [document?, documents, documents?_write]
  split
  · rename_i same
    subst same
    exact memberOf?_overwrite id _ written ascending
  · rfl

theorem document?_keep (holdings : Holdings) (index other id : String)
    (wanted : String × Value → Bool) :
    (holdings.keep index wanted).document? other id =
      if index = other then (holdings.document? other id).filter fun source => wanted (id, source)
      else holdings.document? other id := by
  simp only [document?, documents, documents?_keep]
  split
  · rename_i same
    subst same
    exact (holdings.ascending_documents index).memberOf?_filter wanted id
  · rfl

theorem documents?_ext (left right : Holdings) (index : String)
    (there : (left.documents? index).isSome = (right.documents? index).isSome)
    (same : ∀ id, left.document? index id = right.document? index id) :
    left.documents? index = right.documents? index := by
  have ids : left.documents index = right.documents index :=
    (left.ascending_documents index).ext (right.ascending_documents index) same
  simp only [documents] at ids
  cases inLeft : left.documents? index <;> cases inRight : right.documents? index <;>
    simp only [inLeft, inRight, Option.isSome_some, Option.isSome_none, reduceCtorEq,
      Option.getD_some] at there ids
  · rfl
  · rw [ids]

theorem ext_document? (left right : Holdings)
    (names : ∀ index, (left.documents? index).isSome = (right.documents? index).isSome)
    (same : ∀ index id, left.document? index id = right.document? index id) : left = right := by
  have indices : left.indices = right.indices :=
    left.namesAscend.ext right.namesAscend fun index =>
      left.documents?_ext right index (names index) (same index)
  obtain ⟨leftIndices, _, _⟩ := left
  obtain ⟨rightIndices, _, _⟩ := right
  cases indices
  rfl

def after (holdings : Holdings) (call : Call) : Holdings := (holdings.perform call).2

@[simp] theorem after_search (holdings : Holdings) (request : Search) :
    holdings.after (.search request) = holdings := by
  simp only [after, perform]
  split <;> rfl

theorem document?_after_ensureExists (holdings : Holdings) (made index id : String) :
    (holdings.after (.ensureExists made)).document? index id = holdings.document? index id := by
  simp only [after, perform]
  split
  · rfl
  · rw [document?_write _ _ _ _ _ Json.ascending_nil]
    simp only [memberOf?, Option.none_or, ite_self]

theorem isSome_after_ensureExists (holdings : Holdings) (made index : String) :
    ((holdings.after (.ensureExists made)).documents? index).isSome =
      (decide (made = index) || (holdings.documents? index).isSome) := by
  simp only [after, perform]
  split
  · rename_i found
    by_cases same : made = index
    · subst same
      simp only [found, Option.isSome_some, Bool.or_true]
    · simp only [same, decide_false, Bool.false_or]
  · rw [documents?_write]
    split <;> rename_i same <;> simp only [same, decide_true, decide_false, Bool.true_or,
      Bool.false_or, Option.isSome_some]

theorem document?_after_reindex (holdings : Holdings) (source destination index id : String)
    (filter : Filter) :
    (holdings.after (.reindex source destination filter)).document? index id =
      if destination = index then
        ((holdings.document? source id).filter fun held => filter.accepts held).or
          (holdings.document? index id)
      else holdings.document? index id := by
  simp only [after, perform]
  split
  · rename_i documents found
    have held := holdings.documents_of_documents? source documents found
    have ascending : Ascending documents := held ▸ holdings.ascending_documents source
    rw [document?_write _ _ _ _ _ (ascending.filter _), ascending.memberOf?_filter]
    simp only [document?, held]
  · rename_i absent
    simp only [holdings.document?_of_missing source id absent, Option.filter_none,
      Option.none_or, ite_self]

theorem isSome_after_reindex (holdings : Holdings) (source destination index : String)
    (filter : Filter) :
    ((holdings.after (.reindex source destination filter)).documents? index).isSome =
      ((decide (destination = index) && (holdings.documents? source).isSome)
        || (holdings.documents? index).isSome) := by
  simp only [after, perform]
  split
  · rename_i found
    rw [documents?_write]
    split <;> rename_i same <;> simp only [same, found, decide_true, decide_false, Bool.true_or,
      Bool.false_or, Bool.true_and, Bool.false_and, Option.isSome_some]
  · rename_i absent
    simp only [absent, Option.isSome_none, Bool.and_false, Bool.false_or]

theorem documents?_of_search_error {holdings : Holdings} {request : Search}
    {failure : StoreFailure} (answered : (holdings.perform (.search request)).1 = .error failure) :
    holdings.documents? request.index = none := by
  simp only [perform] at answered
  cases found : holdings.documents? request.index with
  | none => rfl
  | some documents =>
    rw [found] at answered
    cases answered

theorem documents?_of_copy_error {holdings : Holdings} {source destination : String}
    {filter : Filter} {failure : StoreFailure}
    (answered : (holdings.perform (.reindex source destination filter)).1 = .error failure) :
    holdings.documents? source = none := by
  simp only [perform] at answered
  cases found : holdings.documents? source with
  | none => rfl
  | some documents =>
    rw [found] at answered
    cases answered

theorem isMissing_of_copy_error {holdings : Holdings} {source destination : String}
    {filter : Filter} {failure : StoreFailure}
    (answered : (holdings.perform (.reindex source destination filter)).1 = .error failure) :
    failure.isMissing = true := by
  have absent := documents?_of_copy_error answered
  simp only [perform, absent, Except.error.injEq] at answered
  subst answered
  rfl

theorem isSome_of_copy_ok {holdings : Holdings} {source destination : String}
    {filter : Filter} {count : Nat}
    (answered : (holdings.perform (.reindex source destination filter)).1 = .ok count) :
    (holdings.documents? source).isSome = true := by
  simp only [perform] at answered
  split at answered
  · rename_i found
    rw [found, Option.isSome_some]
  · cases answered

theorem document?_after_deleteByQuery (holdings : Holdings) (emptied index id : String)
    (filter : Filter) :
    (holdings.after (.deleteByQuery emptied filter)).document? index id =
      if emptied = index then (holdings.document? index id).filter fun held => !filter.accepts held
      else holdings.document? index id := by
  simp only [after, perform]
  split
  · exact holdings.document?_keep emptied index id _
  · rename_i absent
    split
    · rename_i same
      subst same
      simp only [holdings.document?_of_missing emptied id absent, Option.filter_none]
    · rfl

theorem isSome_after_deleteByQuery (holdings : Holdings) (emptied index : String)
    (filter : Filter) :
    ((holdings.after (.deleteByQuery emptied filter)).documents? index).isSome =
      (holdings.documents? index).isSome := by
  simp only [after, perform]
  split
  · rename_i found
    rw [documents?_keep]
    split <;> rename_i same
    · subst same
      simp only [found, Option.isSome_some]
    · rfl
  · rfl

theorem isSome_after {holdings : Holdings} {index : String}
    (there : (holdings.documents? index).isSome = true) (call : Call) :
    ((holdings.after call).documents? index).isSome = true := by
  cases call with
  | search request => rwa [after_search]
  | refresh refreshed => exact there
  | ensureExists made => rw [isSome_after_ensureExists, there, Bool.or_true]
  | reindex source destination filter => rw [isSome_after_reindex, there, Bool.or_true]
  | deleteByQuery emptied filter => rwa [isSome_after_deleteByQuery]
  | bulkWrite other written =>
    rw [after, perform, documents?_write]
    split
    · rfl
    · exact there
  | bulkDelete other ids =>
    simp only [after, perform]
    split
    · rw [documents?_keep]
      split
      · rfl
      · exact there
    · exact there

theorem nodup_documents (holdings : Holdings) (index : String) :
    (holdings.documents index).Nodup := by
  refine (holdings.ascending_documents index).imp ?_
  intro left right before same
  exact String.lt_irrefl _ (same ▸ before)

theorem documents_ext {left right : Holdings} {index : String}
    (same : ∀ id, left.document? index id = right.document? index id) :
    left.documents index = right.documents index :=
  (left.ascending_documents index).ext (right.ascending_documents index) same

/-- A call changes no document of an index. -/
def Spares (index : String) : Call → Prop
  | .search _ | .refresh _ | .ensureExists _ => True
  | .reindex _ destination _ => destination ≠ index
  | .deleteByQuery other _ | .bulkWrite other _ | .bulkDelete other _ => other ≠ index

theorem documents_after_of_spares (holdings : Holdings) {call : Call} {index : String}
    (spares : Spares index call) : (holdings.after call).documents index =
      holdings.documents index := by
  cases call with
  | search request => rw [after_search]
  | refresh refreshed => rfl
  | ensureExists made =>
    exact documents_ext fun id => holdings.document?_after_ensureExists made index id
  | reindex source destination filter =>
    refine documents_ext fun id => ?_
    rw [document?_after_reindex, if_neg spares]
  | deleteByQuery emptied filter =>
    refine documents_ext fun id => ?_
    rw [document?_after_deleteByQuery, if_neg spares]
  | bulkWrite written records =>
    simp only [documents, after, perform, documents?_write, if_neg spares]
  | bulkDelete emptied ids =>
    simp only [after, perform]
    split
    · simp only [documents, documents?_keep, if_neg spares]
    · rfl

theorem documents_after_deleteByQuery (holdings : Holdings) (index : String) (filter : Filter) :
    (holdings.after (.deleteByQuery index filter)).documents index =
      (holdings.documents index).filter fun document => !filter.accepts document.2 := by
  simp only [after, perform]
  split
  · exact holdings.documents_keep index _
  · rename_i absent
    simp only [documents, absent, Option.getD_none, List.filter_nil]

theorem documents_after_bulkDelete (holdings : Holdings) (index : String) (ids : List String) :
    (holdings.after (.bulkDelete index ids)).documents index =
      (holdings.documents index).filter fun document => !ids.contains document.1 := by
  simp only [after, perform]
  split
  · exact holdings.documents_keep index _
  · rename_i absent
    simp only [documents, absent, Option.getD_none, List.filter_nil]

theorem document?_after_bulkDelete (holdings : Holdings) (index other id : String)
    (ids : List String) :
    (holdings.after (.bulkDelete index ids)).document? other id =
      if other = index ∧ id ∈ ids then none else holdings.document? other id := by
  by_cases same : other = index
  · subst same
    rw [document?, documents_after_bulkDelete, (ascending_documents _ _).memberOf?_filter]
    by_cases named : id ∈ ids
    · simp [named]
    · cases held : memberOf? id (holdings.documents other) <;> simp [named, document?, held]
  · have spared : Spares other (.bulkDelete index ids) := Ne.symm same
    rw [document?, documents_after_of_spares holdings spared, if_neg (fun both => same both.1)]
    rfl

theorem exists_perform_bulkDelete (holdings : Holdings) (index : String) (ids : List String) :
    ∃ deleted, (holdings.perform (.bulkDelete index ids)).1 = .ok ⟨deleted, []⟩ ∧
      deleted + ((holdings.after (.bulkDelete index ids)).documents index).length =
        (holdings.documents index).length := by
  rw [documents_after_bulkDelete]
  simp only [perform]
  split
  · rename_i documents found
    refine ⟨_, rfl, ?_⟩
    rw [holdings.documents_of_documents? index documents found]
    exact (List.length_eq_length_filter_add _).symm
  · rename_i absent
    refine ⟨0, rfl, ?_⟩
    simp [documents, absent]

theorem after_of_error {holdings : Holdings} {call : Call} {failure : StoreFailure}
    (failed : (holdings.perform call).1 = .error failure) : holdings.after call = holdings := by
  cases call with
  | search request => exact after_search holdings request
  | bulkWrite _ _ | refresh _ => cases failed
  | deleteByQuery _ _ | bulkDelete _ _ | ensureExists _ =>
    simp only [perform] at failed
    split at failed <;> cases failed
  | reindex source destination filter =>
    have absent := documents?_of_copy_error failed
    simp only [after, perform, absent]

end Archivist.Holdings
