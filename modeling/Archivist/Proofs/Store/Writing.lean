import Archivist.Proofs.Store.Ledger

set_option autoImplicit false

namespace Archivist

open Json (Value memberOf? insertMember memberOf?_insertMember)

namespace Json

theorem memberOf?_concat {α : Type} (key : String) (members : List (String × α))
    (last : String × α) :
    memberOf? key (members ++ [last]) =
      (memberOf? key members).or (if last.1 = key then some last.2 else none) := by
  induction members with
  | nil => rfl
  | cons first rest ih =>
    simp only [List.cons_append, memberOf?, ih]
    split
    · rw [Option.some_or]
    · rfl

end Json

namespace Holdings

theorem memberOf?_overwrite_reverse (id : String) (documents written : Documents) :
    memberOf? id (overwrite documents written) =
      (memberOf? id written.reverse).or (memberOf? id documents) := by
  induction written generalizing documents with
  | nil => rfl
  | cons document rest ih =>
    have later := ih (insertMember document.1 document.2 documents)
    change memberOf? id (overwrite (insertMember document.1 document.2 documents) rest) = _
    rw [later, memberOf?_insertMember, List.reverse_cons, Json.memberOf?_concat, Option.or_assoc]
    split
    · rw [Option.some_or]
    · rw [Option.none_or]

theorem document?_after_bulkWrite (holdings : Holdings) (index other id : String)
    (written : Documents) :
    (holdings.after (.bulkWrite index written)).document? other id =
      if index = other then (memberOf? id written.reverse).or (holdings.document? other id)
      else holdings.document? other id := by
  simp only [after, perform, document?, documents, documents?_write]
  split
  · rename_i same
    subst same
    exact memberOf?_overwrite_reverse id _ written
  · rfl

end Holdings

def Deed.writes? (deed : Deed) (index id : String) : Option Value :=
  match deed.call with
  | .bulkWrite target written => if target = index then memberOf? id written.reverse else none
  | _ => none

def Ledger.lastWritten? (ledger : Ledger) (index id : String) : Option Value :=
  ledger.deeds.reverse.findSome? (·.writes? index id)

namespace Deed

theorem document?_after_of_writes? {deed : Deed} {index id : String} {source : Value}
    (wrote : deed.writes? index id = some source) :
    deed.after.document? index id = some source := by
  obtain ⟨call, before⟩ := deed
  simp only [writes?] at wrote
  split at wrote
  · split at wrote
    · rename_i same
      rw [after, Holdings.document?_after_bulkWrite, if_pos same, wrote, Option.some_or]
    · cases wrote
  · cases wrote

theorem exists_of_writes? {deed : Deed} {index id : String} {source : Value}
    (wrote : deed.writes? index id = some source) :
    ∃ written, deed.call = .bulkWrite index written := by
  simp only [writes?] at wrote
  split at wrote
  · rename_i target written same
    split at wrote
    · rename_i here
      exact ⟨written, here ▸ same⟩
    · cases wrote
  · cases wrote

end Deed

theorem Ledger.split_of_lastWritten? {ledger : Ledger} {index id : String} {source : Value}
    (last : ledger.lastWritten? index id = some source) :
    ∃ earlier deed later, ledger.deeds = earlier ++ deed :: later ∧
      deed.writes? index id = some source ∧ ∀ other ∈ later, other.writes? index id = none := by
  obtain ⟨front, deed, back, order, wrote, none⟩ := List.findSome?_eq_some_iff.mp last
  refine ⟨back.reverse, deed, front.reverse, ?_, wrote, fun other member => ?_⟩
  · rw [← List.reverse_reverse ledger.deeds, order, List.reverse_append, List.reverse_cons,
      List.append_assoc, List.singleton_append]
  · exact none other (List.mem_reverse.mp member)

end Archivist
