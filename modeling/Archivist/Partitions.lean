set_option autoImplicit false

namespace Archivist

def insertAscending (value : Nat) : List Nat → List Nat
  | [] => [value]
  | other :: rest =>
    if value < other then value :: other :: rest
    else if value = other then other :: rest
    else other :: insertAscending value rest

/-- Partition numbers in ascending order, each once. -/
structure Partitions where
  ids : List Nat
deriving Repr, DecidableEq

namespace Partitions

def ofList (ids : List Nat) : Partitions := ⟨ids.foldr insertAscending []⟩

def isEmpty (partitions : Partitions) : Bool := partitions.ids.isEmpty

end Partitions

theorem mem_insertAscending (value wanted : Nat) (ids : List Nat) :
    wanted ∈ insertAscending value ids ↔ wanted = value ∨ wanted ∈ ids := by
  induction ids with
  | nil => simp [insertAscending]
  | cons other rest ih =>
    simp only [insertAscending]
    split
    · simp
    · split
      · rename_i same
        subst same
        simp
      · simp only [List.mem_cons, ih]
        grind

theorem Partitions.mem_ofList (ids : List Nat) (wanted : Nat) :
    wanted ∈ (Partitions.ofList ids).ids ↔ wanted ∈ ids := by
  simp only [Partitions.ofList]
  induction ids with
  | nil => simp
  | cons first rest ih => simp [mem_insertAscending, ih]

end Archivist
