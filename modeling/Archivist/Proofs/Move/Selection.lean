import Archivist.Archive.Mover
import Archivist.Proofs.Store.Listing

set_option autoImplicit false

namespace Archivist

open Calendar (Instant)
open Json (Value)

namespace Json.Value

def textAt (source : Value) (field : String) : Option String :=
  (source.member? field).bind scalarText

def instantAt (source : Value) (field : String) : Option Instant :=
  (source.member? field).bind instantOf?

end Json.Value

def RootDescriptor.isRoot (root : RootDescriptor) (source : Value) : Bool :=
  source.textAt root.joinField = some root.joinValue

theorem Filter.accepts_term (source : Value) (field text : String) :
    (Filter.term field (.text text)).accepts source =
      decide (source.textAt field = some text) := by
  have expected : (Value.text text).scalarText = some text := rfl
  simp only [Filter.accepts, Value.textAt, expected]
  split
  · rename_i actual wanted found same
    cases same
    simp only [found, Option.some.injEq]
  · rename_i mismatch
    exact (decide_eq_false fun found => mismatch text text found rfl).symm

theorem Filter.accepts_terms (source : Value) (field : String) (ids : List String) :
    (Filter.terms field (Mover.texts ids)).accepts source = true ↔
      ∃ text ∈ ids, source.textAt field = some text := by
  have values : (Mover.texts ids).filterMap Value.scalarText = ids := by
    simp only [Mover.texts, List.filterMap_map]
    exact List.filterMap_some
  simp only [Filter.accepts, Value.textAt, values]
  cases (source.member? field).bind Value.scalarText with
  | none => simp only [Bool.false_eq_true, reduceCtorEq, and_false, exists_false]
  | some actual =>
    simp only [List.contains_iff_mem, Option.some.injEq]
    constructor
    · exact fun member => ⟨actual, member, rfl⟩
    · intro given
      obtain ⟨_, member, rfl⟩ := given
      exact member

namespace Mover

theorem accepts_verification (mover : Mover) (destination : String) (ids : List String)
    (source : Value) : (mover.verification destination ids).accepts source = true ↔
      mover.root.isRoot source = true ∧
        ∃ text ∈ ids, source.textAt mover.root.idField = some text := by
  simp only [Search.accepts, verification, List.all_cons, List.all_nil, Bool.and_true,
    Bool.and_eq_true, Filter.accepts_term, Filter.accepts_terms, RootDescriptor.isRoot]

/-- For every id there is a root record in the destination of the roots. -/
def AllLanded (mover : Mover) (suffix : String) (ids : List String) (now : Holdings) : Prop :=
  ∀ text ∈ ids, ∃ id source, now.document? (mover.root.index ++ suffix) id = some source ∧
    mover.root.isRoot source = true ∧ source.textAt mover.root.idField = some text

theorem AllLanded.length_le {mover : Mover} {suffix : String} {ids : List String} {now : Holdings}
    {page : List Record} (landed : mover.AllLanded suffix ids now) (once : ids.Nodup)
    (answered : (now.perform (.search (mover.verification (mover.root.index ++ suffix) ids))).1 =
      .ok page) : ids.length ≤ page.length := by
  refine Holdings.limit_le_of_search
    (fun record => (record.source.textAt mover.root.idField).getD record.id) answered rfl once
    (Nat.le_refl _) fun text among => ?_
  obtain ⟨id, source, held, root, named⟩ := landed text among
  refine ⟨id, source, held, ?_, ?_⟩
  · exact (mover.accepts_verification _ _ _).mpr ⟨root, text, among, named⟩
  · simp only [named, Option.getD_some]

end Mover

end Archivist
