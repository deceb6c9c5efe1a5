import Archivist.Config.Settings
import Archivist.Proofs.Move.Loss
import Archivist.Proofs.Move.Selection
import Archivist.Proofs.Numeral
import Mathlib.Data.List.Nodup

set_option autoImplicit false

namespace Archivist

open Calendar (Instant)
open Json (Value)

namespace Finder

def finds (finder : Finder) (partitions : List Nat) (cutoff : Instant) (source : Value) : Bool :=
  finder.root.isRoot source
    && (match source.textAt finder.root.partitionField with
      | some text => (partitions.map Numeral.ofNat).contains text
      | none => false)
    && match source.instantAt finder.root.endDateField with
      | some endDate => endDate.isAtMost cutoff
      | none => false

theorem accepts_pageSearch (finder : Finder) (partitions : List Nat) (cutoff : Instant)
    (limit : Nat) (cursor : Option (List Value)) (source : Value) :
    (finder.pageSearch partitions cutoff limit cursor).accepts source =
      finder.finds partitions cutoff source := by
  have values : (partitions.map fun id => Value.text (Numeral.ofNat id)).filterMap Value.scalarText =
      partitions.map Numeral.ofNat := by
    rw [List.filterMap_map]
    exact congrFun List.filterMap_eq_map' partitions
  have owned : (Filter.terms finder.root.partitionField
      (partitions.map fun id => .text (Numeral.ofNat id))).accepts source =
      match source.textAt finder.root.partitionField with
      | some text => (partitions.map Numeral.ofNat).contains text
      | none => false := by
    rw [← values]
    cases written : source.textAt finder.root.partitionField <;>
      rw [Value.textAt] at written <;> rw [Filter.accepts, written]
  have timed : ((Filter.present finder.root.endDateField).accepts source &&
      (Filter.upTo finder.root.endDateField cutoff).accepts source) =
      match source.instantAt finder.root.endDateField with
      | some endDate => endDate.isAtMost cutoff
      | none => false := by
    simp only [Filter.accepts, Value.instantAt]
    cases source.member? finder.root.endDateField with
    | none => rfl
    | some value => cases value <;> rfl
  simp only [Search.accepts, pageSearch, List.all_cons, List.all_nil, Bool.and_true, timed, owned,
    finds, Filter.accepts_term, RootDescriptor.isRoot, Bool.and_assoc]

end Finder

namespace Archiver

variable (archiver : Archiver) (cutoff : Instant) (start : Holdings)

def finds (source : Value) : Bool := archiver.finder.finds archiver.partitions.ids cutoff source

def suffix? (source : Value) : Option String :=
  (source.instantAt archiver.finder.root.endDateField).bind fun endDate =>
    (archiver.finder.rollover.bucket endDate archiver.finder.offset).bind
      archiver.mover.namer.suffix

/-- A root with this text for an id is due and goes to destinations with this suffix. -/
def IsDue (text suffix : String) : Prop :=
  ∃ id source, start.document? archiver.finder.root.index id = some source ∧
    archiver.finds cutoff source = true ∧
    source.textAt archiver.finder.root.idField = some text ∧
    archiver.suffix? source = some suffix

def IsUsed (suffix : String) : Prop := ∃ text, archiver.IsDue cutoff start text suffix

/-- A document of a live index belongs to a root that is due. -/
def Leaves (index : String) (source : Value) (suffix : String) : Prop :=
  ∃ collection ∈ archiver.mover.collections, collection.index = index ∧
    ∃ text, source.textAt collection.field = some text ∧
      archiver.IsDue cutoff start text suffix

structure Healthy : Prop where
  sameRoot : archiver.mover.root = archiver.finder.root
  /-- Roots are numbered within the integers that binary64 tells apart, and are linked to
  themselves. -/
  numbered : ∀ id source, start.document? archiver.finder.root.index id = some source →
    archiver.finder.root.isRoot source = true → ∃ number < Nat.pow 2 53,
      source.member? archiver.finder.root.idField = some (.nat number) ∧
      source.textAt archiver.finder.root.linkField = some (Numeral.ofNat number)
  distinct : ∀ id other source another,
    start.document? archiver.finder.root.index id = some source →
    start.document? archiver.finder.root.index other = some another →
    archiver.finder.root.isRoot source = true → archiver.finder.root.isRoot another = true →
    source.member? archiver.finder.root.idField = another.member? archiver.finder.root.idField →
      id = other
  listedOnce : (archiver.mover.collections.map Collection.index).Nodup
  present : ∀ dependent ∈ archiver.mover.separateDependents,
    (start.documents? dependent.index).isSome = true ∨ dependent.orphanTolerant = true
  /-- The end dates of what is due fall into buckets that can be named. -/
  dated : ∀ id source, start.document? archiver.finder.root.index id = some source →
    archiver.finds cutoff source = true → ∃ suffix, archiver.suffix? source = some suffix
  separates : archiver.mover.Separates (archiver.IsUsed cutoff start)

/-- Everything that belongs to a root that is due has gone where it should, and nothing else has
changed. -/
structure Archived (final : Holdings) : Prop where
  stays : ∀ index, archiver.mover.IsLive index → ∀ id source,
    final.document? index id = some source ↔ start.document? index id = some source ∧
      ¬∃ suffix, archiver.Leaves cutoff start index source suffix
  arrives : ∀ index, archiver.mover.IsLive index → ∀ id source suffix,
    start.document? index id = some source → archiver.Leaves cutoff start index source suffix →
      final.document? (index ++ suffix) id = some source
  others : ∀ index, ¬archiver.mover.IsLive index → ∀ id,
    (∀ base suffix source, archiver.mover.IsLive base → index = base ++ suffix →
      start.document? base id = some source →
        ¬archiver.Leaves cutoff start base source suffix) →
      final.document? index id = start.document? index id
  indices : ∀ index, (final.documents? index).isSome = true ↔
    (start.documents? index).isSome = true ∨
      ∃ base suffix, archiver.mover.IsLive base ∧ archiver.IsUsed cutoff start suffix ∧
        index = base ++ suffix

variable {archiver cutoff start}

theorem sameRoot_of_archiver? {settings : Settings} (described : settings.archiver? = .ok archiver) :
    archiver.mover.root = archiver.finder.root := by
  rw [Settings.archiver?] at described
  split at described
  · cases described
  · split at described
    · cases described
    · split at described <;> cases described
      rfl

theorem Archived.settled {final : Holdings} (archived : archiver.Archived cutoff start final) :
    archiver.mover.Settled (archiver.IsUsed cutoff start) (archiver.Leaves cutoff start) start
      final :=
  ⟨archived.stays, archived.arrives, archived.others, archived.indices⟩

theorem archived_unique {final other : Holdings} (first : archiver.Archived cutoff start final)
    (second : archiver.Archived cutoff start other) : final = other :=
  Mover.settled_unique first.settled second.settled

theorem isUsed_of_leaves {index suffix : String} {source : Value}
    (leaves : archiver.Leaves cutoff start index source suffix) :
    archiver.IsUsed cutoff start suffix := by
  obtain ⟨_, _, _, text, _, due⟩ := leaves
  exact ⟨text, due⟩

theorem finds_iff {source : Value} : archiver.finds cutoff source = true ↔
    archiver.finder.root.isRoot source = true ∧
      (∃ partition ∈ archiver.partitions.ids,
        source.textAt archiver.finder.root.partitionField = some (Numeral.ofNat partition)) ∧
      ∃ endDate, source.instantAt archiver.finder.root.endDateField = some endDate ∧
        endDate.isAtMost cutoff = true := by
  simp only [finds, Finder.finds, Bool.and_eq_true, and_assoc]
  refine and_congr_right fun _ => and_congr ?_ ?_
  · cases source.textAt archiver.finder.root.partitionField with
    | none => simp only [Bool.false_eq_true, reduceCtorEq, and_false, exists_false]
    | some text =>
      simp only [List.contains_iff_mem, List.mem_map, Option.some.injEq]
      exact exists_congr fun _ => and_congr_right fun _ => eq_comm
  · cases source.instantAt archiver.finder.root.endDateField with
    | none => simp only [Bool.false_eq_true, reduceCtorEq, false_and, exists_false]
    | some endDate => simp only [Option.some.injEq, exists_eq_left']

theorem isRoot_of_finds {source : Value} (found : archiver.finds cutoff source = true) :
    archiver.finder.root.isRoot source = true :=
  (finds_iff.mp found).1

theorem isLive_root (sameRoot : archiver.mover.root = archiver.finder.root) :
    archiver.mover.IsLive archiver.finder.root.index := by
  rw [← sameRoot]
  exact Mover.isLive_of_mem List.mem_cons_self

namespace Healthy

variable (healthy : archiver.Healthy cutoff start)
include healthy

theorem isLive_root : archiver.mover.IsLive archiver.finder.root.index :=
  Archiver.isLive_root healthy.sameRoot

theorem exists_text {id : String} {source : Value}
    (held : start.document? archiver.finder.root.index id = some source)
    (root : archiver.finder.root.isRoot source = true) :
    ∃ number < Nat.pow 2 53, source.member? archiver.finder.root.idField = some (.nat number) ∧
      source.textAt archiver.finder.root.idField = some (Numeral.ofNat number) ∧
      source.textAt archiver.finder.root.linkField = some (Numeral.ofNat number) := by
  obtain ⟨number, small, member, linked⟩ := healthy.numbered id source held root
  refine ⟨number, small, member, ?_, linked⟩
  simp only [Value.textAt, member, Option.bind_some, Value.scalarText, Value.nat,
    Json.Number.text, Numeral.ofInt]
  rfl

theorem eq_of_text {id other text : String} {source another : Value}
    (held : start.document? archiver.finder.root.index id = some source)
    (also : start.document? archiver.finder.root.index other = some another)
    (root : archiver.finder.root.isRoot source = true)
    (alike : archiver.finder.root.isRoot another = true)
    (named : source.textAt archiver.finder.root.idField = some text)
    (same : another.textAt archiver.finder.root.idField = some text) :
    id = other ∧ source = another := by
  obtain ⟨number, _, member, written, _⟩ := healthy.exists_text held root
  obtain ⟨value, _, found, shown, _⟩ := healthy.exists_text also alike
  rw [written] at named
  rw [shown, ← named, Option.some.injEq] at same
  cases Numeral.ofNat_injective same
  have ids := healthy.distinct id other source another held also root alike
    (member.trans found.symm)
  refine ⟨ids, ?_⟩
  rw [ids, also, Option.some.injEq] at held
  exact held.symm

theorem suffix_unique {text suffix other : String} (due : archiver.IsDue cutoff start text suffix)
    (also : archiver.IsDue cutoff start text other) : suffix = other := by
  obtain ⟨id, source, held, found, named, goes⟩ := due
  obtain ⟨_, another, there, listed, same, comes⟩ := also
  obtain ⟨_, rfl⟩ := healthy.eq_of_text held there (isRoot_of_finds found)
    (isRoot_of_finds listed) named same
  rw [goes, Option.some.injEq] at comes
  exact comes

theorem collection_eq {collection other : Collection}
    (member : collection ∈ archiver.mover.collections)
    (also : other ∈ archiver.mover.collections) (same : collection.index = other.index) :
    collection = other :=
  List.inj_on_of_nodup_map healthy.listedOnce member also same

theorem isDue_of_between {now : Holdings} {text suffix : String}
    (between : archiver.mover.Between (archiver.IsUsed cutoff start)
      (archiver.Leaves cutoff start) start now)
    (due : archiver.IsDue cutoff now text suffix) : archiver.IsDue cutoff start text suffix := by
  obtain ⟨id, source, held, rest⟩ := due
  exact ⟨id, source, between.stays _ healthy.isLive_root id source held, rest⟩

theorem between {now : Holdings} (between : archiver.mover.Between (archiver.IsUsed cutoff start)
    (archiver.Leaves cutoff start) start now) : archiver.Healthy cutoff now where
  sameRoot := healthy.sameRoot
  numbered id source held :=
    healthy.numbered id source (between.stays _ healthy.isLive_root id source held)
  distinct id other source another held also :=
    healthy.distinct id other source another (between.stays _ healthy.isLive_root id source held)
      (between.stays _ healthy.isLive_root other another also)
  listedOnce := healthy.listedOnce
  present dependent listed := (healthy.present dependent listed).imp_left (between.kept _)
  dated id source held :=
    healthy.dated id source (between.stays _ healthy.isLive_root id source held)
  separates := by
    have used : ∀ suffix, archiver.IsUsed cutoff now suffix →
        archiver.IsUsed cutoff start suffix := by
      intro suffix inUse
      obtain ⟨text, due⟩ := inUse
      exact ⟨text, healthy.isDue_of_between between due⟩
    exact ⟨fun suffix due => healthy.separates.apart suffix (used suffix due),
      fun base other suffix another live also due inUse =>
        healthy.separates.distinct base other suffix another live also (used suffix due)
          (used another inUse)⟩

end Healthy

end Archiver

end Archivist
