import Archivist.Json.Value

set_option autoImplicit false

namespace Archivist.Json

variable {α : Type}

def Ascending (members : List (String × α)) : Prop :=
  members.Pairwise fun left right => left.1 < right.1

theorem ascending_nil : Ascending ([] : List (String × α)) := List.Pairwise.nil

theorem Ascending.filter {members : List (String × α)} (ascending : Ascending members)
    (wanted : String × α → Bool) : Ascending (members.filter wanted) :=
  List.Pairwise.filter wanted ascending

theorem Ascending.ne_of_mem {member : String × α} {rest : List (String × α)}
    (ascending : Ascending (member :: rest)) : ∀ other ∈ rest, other.1 ≠ member.1 := by
  intro other held same
  have before := List.rel_of_pairwise_cons ascending held
  exact String.lt_irrefl member.1 (same ▸ before)

theorem mem_insertMember (key : String) (value : α) (members : List (String × α))
    (member : String × α) (held : member ∈ insertMember key value members) :
    member = (key, value) ∨ member ∈ members := by
  induction members with
  | nil => simpa only [insertMember, List.mem_singleton, List.not_mem_nil, or_false] using held
  | cons first rest ih =>
    simp only [insertMember] at held
    split at held
    · simpa only [List.mem_cons] using held
    · split at held
      · simp only [List.mem_cons] at held ⊢
        exact held.imp_right Or.inr
      · simp only [List.mem_cons] at held ⊢
        rcases held with here | later
        · exact Or.inr (Or.inl here)
        · exact (ih later).imp_right Or.inr

theorem ascending_insertMember (key : String) (value : α) (members : List (String × α))
    (ascending : Ascending members) : Ascending (insertMember key value members) := by
  induction members with
  | nil => exact List.pairwise_singleton _ _
  | cons first rest ih =>
    have restAscending : Ascending rest := List.Pairwise.of_cons ascending
    simp only [insertMember]
    split
    · rename_i before
      refine List.Pairwise.cons ?_ ascending
      intro member held
      rcases List.mem_cons.mp held with rfl | later
      · exact before
      · exact String.lt_trans before (List.rel_of_pairwise_cons ascending later)
    · split
      · rename_i same
        refine List.Pairwise.cons ?_ restAscending
        intro member held
        exact same ▸ List.rel_of_pairwise_cons ascending held
      · rename_i notBefore different
        refine List.Pairwise.cons ?_ (ih restAscending)
        intro member held
        rcases mem_insertMember key value rest member held with rfl | later
        · have atMost : first.1 ≤ key := String.not_lt.mp notBefore
          exact Decidable.byContradiction fun notAfter =>
            different (String.le_antisymm (String.not_lt.mp notAfter) atMost)
        · exact List.rel_of_pairwise_cons ascending later

/-- A value that is put in is found under its key, and all else stays. The members need not be in
order for that. -/
theorem memberOf?_insertMember (key other : String) (value : α) (members : List (String × α)) :
    memberOf? other (insertMember key value members) =
      if key = other then some value else memberOf? other members := by
  induction members with
  | nil => rfl
  | cons first rest ih =>
    simp only [insertMember]
    split
    · rfl
    · split
      · rename_i same
        simp only [memberOf?, ← same]
        split <;> rfl
      · rename_i _ different
        simp only [memberOf?, ih]
        by_cases found : first.1 = other
        · have elsewhere : key ≠ other := fun same => different (same.trans found.symm)
          simp only [found, elsewhere, ↓reduceIte]
        · simp only [found, ↓reduceIte]

theorem mem_of_memberOf? (key : String) (value : α) (members : List (String × α))
    (found : memberOf? key members = some value) : (key, value) ∈ members := by
  induction members with
  | nil => cases found
  | cons first rest ih =>
    simp only [memberOf?] at found
    split at found
    · rename_i same
      cases found
      exact same ▸ List.mem_cons_self
    · exact List.mem_cons_of_mem first (ih found)

theorem Ascending.memberOf?_of_mem {members : List (String × α)} (ascending : Ascending members)
    (member : String × α) (held : member ∈ members) :
    memberOf? member.1 members = some member.2 := by
  induction members with
  | nil => cases held
  | cons first rest ih =>
    simp only [memberOf?]
    rcases List.mem_cons.mp held with rfl | later
    · simp only [↓reduceIte]
    · have different := (ascending.ne_of_mem member later).symm
      simp only [different, ↓reduceIte, ih (List.Pairwise.of_cons ascending) later]

theorem memberOf?_eq_none_iff (key : String) (members : List (String × α)) :
    memberOf? key members = none ↔ ∀ member ∈ members, member.1 ≠ key := by
  induction members with
  | nil => simp only [memberOf?, List.not_mem_nil, false_implies, implies_true]
  | cons first rest ih =>
    simp only [memberOf?, List.forall_mem_cons]
    split
    · rename_i same
      simp only [reduceCtorEq, same, ne_eq, not_true_eq_false, false_and]
    · rename_i different
      simp only [ih, ne_eq, different, not_false_eq_true, true_and]

theorem Ascending.memberOf?_filter {members : List (String × α)} (ascending : Ascending members)
    (wanted : String × α → Bool) (key : String) :
    memberOf? key (members.filter wanted) =
      (memberOf? key members).filter fun value => wanted (key, value) := by
  induction members with
  | nil => rfl
  | cons first rest ih =>
    have tail := ih (List.Pairwise.of_cons ascending)
    obtain ⟨held, value⟩ := first
    simp only [List.filter_cons]
    by_cases same : held = key
    · subst same
      have absent : memberOf? held rest = none :=
        (memberOf?_eq_none_iff held rest).mpr ascending.ne_of_mem
      cases kept : wanted (held, value) with
      | true => simp only [↓reduceIte, memberOf?, Option.filter, kept]
      | false => simp only [Bool.false_eq_true, ↓reduceIte, memberOf?, Option.filter, kept, tail,
          absent]
    · cases kept : wanted (held, value) with
      | true => simp only [↓reduceIte, memberOf?, same, tail]
      | false => simp only [Bool.false_eq_true, ↓reduceIte, memberOf?, same, tail]

/-- Members in order are told apart by what is found under each key. -/
theorem Ascending.ext {left right : List (String × α)} (leftAscending : Ascending left)
    (rightAscending : Ascending right)
    (same : ∀ key, memberOf? key left = memberOf? key right) : left = right := by
  induction left generalizing right with
  | nil =>
    cases right with
    | nil => rfl
    | cons first rest =>
      have found := same first.1
      simp only [memberOf?, ↓reduceIte, reduceCtorEq] at found
  | cons first rest ih =>
    cases right with
    | nil =>
      have found := same first.1
      simp only [memberOf?, ↓reduceIte, reduceCtorEq] at found
    | cons other others =>
      -- Were the first keys different, the smaller one would be found on one side only.
      have keys : first.1 = other.1 := by
        apply Decidable.byContradiction
        intro different
        have inRight := mem_of_memberOf? first.1 first.2 (other :: others) (by
          rw [← same first.1]
          simp only [memberOf?, ↓reduceIte])
        have inLeft := mem_of_memberOf? other.1 other.2 (first :: rest) (by
          rw [same other.1]
          simp only [memberOf?, ↓reduceIte])
        have after : other.1 < first.1 := by
          rcases List.mem_cons.mp inRight with here | later
          · exact absurd (congrArg Prod.fst here) different
          · exact List.rel_of_pairwise_cons rightAscending later
        have before : first.1 < other.1 := by
          rcases List.mem_cons.mp inLeft with here | later
          · exact absurd (congrArg Prod.fst here).symm different
          · exact List.rel_of_pairwise_cons leftAscending later
        exact String.lt_asymm before after
      have values : first.2 = other.2 := by
        have found := same first.1
        simp only [memberOf?, keys, ↓reduceIte, Option.some.injEq] at found
        exact found
      have heads : first = other := Prod.ext keys values
      subst heads
      congr 1
      refine ih (List.Pairwise.of_cons leftAscending) (List.Pairwise.of_cons rightAscending) ?_
      intro key
      by_cases here : first.1 = key
      · have absent (members : List (String × α)) (ascending : Ascending (first :: members)) :
            memberOf? key members = none :=
          (memberOf?_eq_none_iff key members).mpr fun member held =>
            here ▸ ascending.ne_of_mem member held
        rw [absent rest leftAscending, absent others rightAscending]
      · have found := same key
        simpa only [memberOf?, here, ↓reduceIte] using found

end Archivist.Json
