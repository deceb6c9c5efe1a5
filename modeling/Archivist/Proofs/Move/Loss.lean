import Archivist.Proofs.Move.Outage

set_option autoImplicit false

namespace Archivist

open Json (Value)

namespace Mover

/-- Destinations with the suffixes in use are no live indices, and each says which live index it
belongs to. -/
structure Separates (mover : Mover) (due : String → Prop) : Prop where
  apart : ∀ suffix, due suffix → mover.Apart suffix
  distinct : ∀ base other suffix another, mover.IsLive base → mover.IsLive other → due suffix →
    due another → base ++ suffix = other ++ another → base = other

/-- How a store has changed while live documents were leaving with the suffixes in use. -/
structure Between (mover : Mover) (due : String → Prop)
    (leaves : String → Value → String → Prop) (start now : Holdings) : Prop where
  stays : ∀ index, mover.IsLive index → ∀ id source,
    now.document? index id = some source → start.document? index id = some source
  found : ∀ index, mover.IsLive index → ∀ id source, start.document? index id = some source →
    now.document? index id = some source ∨
      ∃ suffix, leaves index source suffix ∧ now.document? (index ++ suffix) id = some source
  arrived : ∀ index, ¬mover.IsLive index → ∀ id,
    now.document? index id = start.document? index id ∨
      ∃ base suffix source, mover.IsLive base ∧ index = base ++ suffix ∧
        start.document? base id = some source ∧ leaves base source suffix ∧
        now.document? index id = some source
  kept : ∀ index, (start.documents? index).isSome = true → (now.documents? index).isSome = true
  made : ∀ index, (now.documents? index).isSome = true →
    (start.documents? index).isSome = true ∨
      ∃ base suffix, mover.IsLive base ∧ due suffix ∧ index = base ++ suffix

theorem between_refl (mover : Mover) (due : String → Prop)
    (leaves : String → Value → String → Prop) (start : Holdings) :
    mover.Between due leaves start start where
  stays _ _ _ _ held := held
  found _ _ _ _ held := Or.inl held
  arrived _ _ _ := Or.inl rfl
  kept _ there := there
  made _ there := Or.inl there

variable {mover : Mover} {suffix : String} {ids : List String} {known : String → Bool}
  {due : String → Prop} {leaves : String → Value → String → Prop}

/-- A document that is in a destination of its index stays there: only itself takes its place. -/
theorem Between.lasting {start now after : Holdings} (separates : mover.Separates due)
    (dueOfLeaves : ∀ index source another, leaves index source another → due another)
    (later : mover.Between due leaves now after)
    (stays : ∀ index, mover.IsLive index → ∀ id source, now.document? index id = some source →
      start.document? index id = some source)
    {index suffix id : String} {source : Value} (live : mover.IsLive index) (inUse : due suffix)
    (held : start.document? index id = some source)
    (there : now.document? (index ++ suffix) id = some source) :
    after.document? (index ++ suffix) id = some source := by
  have elsewhere : ¬mover.IsLive (index ++ suffix) :=
    fun other => separates.apart suffix inUse index _ live other rfl
  rcases later.arrived _ elsewhere id with
    unchanged | ⟨base, another, moved, from_, same, before, left, arrived⟩
  · rwa [unchanged]
  · have origin := separates.distinct _ _ _ _ live from_ inUse (dueOfLeaves _ _ _ left) same
    rw [← origin] at before
    have original := stays index live id moved before
    rw [held] at original
    cases original
    exact arrived

theorem Between.trans {start now after : Holdings} (separates : mover.Separates due)
    (dueOfLeaves : ∀ index source another, leaves index source another → due another)
    (earlier : mover.Between due leaves start now) (later : mover.Between due leaves now after) :
    mover.Between due leaves start after where
  stays index live id source held :=
    earlier.stays index live id source (later.stays index live id source held)
  found index live id source held := by
    rcases earlier.found index live id source held with still | ⟨suffix, left, there⟩
    · exact later.found index live id source still
    · exact Or.inr ⟨suffix, left, later.lasting separates dueOfLeaves earlier.stays live
        (dueOfLeaves _ _ _ left) held there⟩
  arrived index elsewhere id := by
    rcases later.arrived index elsewhere id with
      unchanged | ⟨base, suffix, source, live, same, held, left, arrived⟩
    · rw [unchanged]
      exact earlier.arrived index elsewhere id
    · exact Or.inr ⟨base, suffix, source, live, same, earlier.stays base live id source held, left,
        arrived⟩
  kept index there := later.kept index (earlier.kept index there)
  made index there := by
    rcases later.made index there with before | used
    · exact earlier.made index before
    · exact Or.inr used

/-- All that leaves has gone where it should, and nothing else has changed. -/
structure Settled (mover : Mover) (due : String → Prop)
    (leaves : String → Value → String → Prop) (start final : Holdings) : Prop where
  stays : ∀ index, mover.IsLive index → ∀ id source, final.document? index id = some source ↔
    start.document? index id = some source ∧ ¬∃ suffix, leaves index source suffix
  arrives : ∀ index, mover.IsLive index → ∀ id source suffix,
    start.document? index id = some source → leaves index source suffix →
      final.document? (index ++ suffix) id = some source
  others : ∀ index, ¬mover.IsLive index → ∀ id,
    (∀ base suffix source, mover.IsLive base → index = base ++ suffix →
      start.document? base id = some source → ¬leaves base source suffix) →
      final.document? index id = start.document? index id
  indices : ∀ index, (final.documents? index).isSome = true ↔
    (start.documents? index).isSome = true ∨
      ∃ base suffix, mover.IsLive base ∧ due suffix ∧ index = base ++ suffix

/-- There is only one way for a store to be settled. -/
theorem settled_unique {start final other : Holdings}
    (first : mover.Settled due leaves start final) (second : mover.Settled due leaves start other) :
    final = other := by
  refine Holdings.ext_document? final other (fun index => ?_) (fun index id => ?_)
  · rw [Bool.eq_iff_iff, first.indices, second.indices]
  · by_cases live : mover.IsLive index
    · apply Option.ext
      intro source
      rw [first.stays index live, second.stays index live]
    · by_cases arriving : ∃ base suffix source, mover.IsLive base ∧ index = base ++ suffix ∧
          start.document? base id = some source ∧ leaves base source suffix
      · obtain ⟨base, suffix, source, from_, rfl, held, left⟩ := arriving
        rw [first.arrives base from_ id source suffix held left,
          second.arrives base from_ id source suffix held left]
      · have nothing : ∀ base suffix source, mover.IsLive base → index = base ++ suffix →
            start.document? base id = some source → ¬leaves base source suffix :=
          fun base suffix source from_ same held left =>
            arriving ⟨base, suffix, source, from_, same, held, left⟩
        rw [first.others index live id nothing, second.others index live id nothing]

/-- A store is settled once nothing that leaves is live any more and all destinations are there. -/
theorem Between.settled {start now : Holdings} (between : mover.Between due leaves start now)
    (once : ∀ index source suffix other, leaves index source suffix → leaves index source other →
      suffix = other)
    (gone : ∀ index, mover.IsLive index → ∀ id source suffix,
      now.document? index id = some source → ¬leaves index source suffix)
    (made : ∀ base suffix, mover.IsLive base → due suffix →
      (now.documents? (base ++ suffix)).isSome = true) :
    mover.Settled due leaves start now where
  stays := by
    intro index live id source
    constructor
    · intro held
      exact ⟨between.stays index live id source held, fun ⟨suffix, left⟩ =>
        gone index live id source suffix held left⟩
    · intro given
      obtain ⟨held, stays⟩ := given
      rcases between.found index live id source held with still | ⟨suffix, left, _⟩
      · exact still
      · exact absurd ⟨suffix, left⟩ stays
  arrives := by
    intro index live id source suffix held left
    rcases between.found index live id source held with still | ⟨other, went, there⟩
    · exact absurd left (gone index live id source suffix still)
    · rwa [once index source suffix other left went]
  others := by
    intro index elsewhere id nobody
    rcases between.arrived index elsewhere id with
      unchanged | ⟨base, suffix, source, live, same, held, left, _⟩
    · exact unchanged
    · exact absurd left (nobody base suffix source live same held)
  indices := by
    intro index
    constructor
    · intro there
      rcases between.made index there with before | ⟨base, suffix, live, used, same⟩
      · exact Or.inl before
      · exact Or.inr ⟨base, suffix, live, used, same⟩
    · intro origin
      rcases origin with before | ⟨base, suffix, live, used, rfl⟩
      · exact between.kept index before
      · exact made base suffix live used

/-- Documents that leave do not take back what the replies to a move have told. -/
theorem Between.upholds {now after : Holdings} (between : mover.Between due leaves now after)
    (separates : mover.Separates due)
    (dueOfLeaves : ∀ index source another, leaves index source another → due another)
    (used : due suffix) : mover.Upholds suffix ids now after where
  grows := between.kept
  stays := between.stays
  lasts transfer planned id source held there := by
    rw [destination_eq planned] at there ⊢
    exact between.lasting separates dueOfLeaves (fun _ _ _ _ held => held) (isLive_source planned)
      used held there
  absent index live there := by
    refine (between.made index there).resolve_right ?_
    intro given
    obtain ⟨base, another, other, inUse, here⟩ := given
    exact separates.apart another inUse base index other live here.symm

def HasCopied (mover : Mover) (suffix : String) (ids : List String) (call : Call)
    (now : Holdings) : Prop :=
  ∀ index filter, call = .deleteByQuery index filter →
    ∃ transfer ∈ mover.transfers suffix ids, transfer.source = index ∧
      ∀ id source, now.document? index id = some source → filter.accepts source = true →
        transfer.filter.accepts source = true ∧
          now.document? transfer.destination id = some source

def TakesLeaving (mover : Mover) (suffix : String) (ids : List String) (start : Holdings)
    (leaves : String → Value → String → Prop) : Prop :=
  ∀ transfer ∈ mover.transfers suffix ids, ∀ id source,
    start.document? transfer.source id = some source →
      transfer.filter.accepts source = true → leaves transfer.source source suffix

theorem hasCopied_of_demands {history : History} {call : Call} {honest : Prop} {now : Holdings}
    (obeys : history.Obeys (mover.Demands suffix ids known))
    (demanded : mover.Demands suffix ids known history call)
    (kept : ∀ event ∈ history, event.Kept honest now) : mover.HasCopied suffix ids call now := by
  intro index filter same
  subst same
  obtain ⟨transfer, planned, rfl, rfl, event, member, copying, granted⟩ :=
    exists_copied_of_demands obeys demanded
  refine ⟨transfer, planned, rfl, fun id source held accepted => ⟨accepted, ?_⟩⟩
  exact (kept event member).copied transfer copying granted id source held accepted

theorem between_of_effect {call : Call} {now after : Holdings} (apart : mover.Apart suffix)
    (used : due suffix) (leaving : mover.TakesLeaving suffix ids now leaves)
    (copied : mover.HasCopied suffix ids call now)
    (effect : mover.Effect suffix ids call now after) : mover.Between due leaves now after where
  stays := effect.live
  found index live id source held := by
    rcases effect.gone index live id source held with still | ⟨filter, same, accepted⟩
    · exact Or.inl still
    · obtain ⟨transfer, planned, rfl, landed⟩ := copied index filter same
      obtain ⟨matching, there⟩ := landed id source held accepted
      refine Or.inr ⟨suffix, leaving transfer planned id source held matching, ?_⟩
      rw [← destination_eq planned]
      exact (effect.upholds apart).lasts transfer planned id source held there
  arrived index elsewhere id := by
    rcases effect.arrives index elsewhere id with
      unchanged | ⟨transfer, planned, here, source, from_, accepted, arrived⟩
    · exact Or.inl unchanged
    · exact Or.inr ⟨transfer.source, suffix, source, isLive_source planned,
        here ▸ destination_eq planned, from_, leaving transfer planned id source from_ accepted,
        arrived⟩
  kept := effect.grows
  made index there := by
    rcases effect.makes index there with before | ⟨transfer, planned, here⟩
    · exact Or.inl before
    · exact Or.inr ⟨transfer.source, suffix, isLive_source planned, used,
        here ▸ destination_eq planned⟩

theorem Between.effect {start now after : Holdings} {call : Call}
    (between : mover.Between due leaves start now) (separates : mover.Separates due)
    (dueOfLeaves : ∀ index source another, leaves index source another → due another)
    (used : due suffix)
    (leaving : mover.TakesLeaving suffix ids start leaves)
    (copied : mover.HasCopied suffix ids call now)
    (effect : mover.Effect suffix ids call now after) :
    mover.Between due leaves start after := by
  refine between.trans separates dueOfLeaves
    (between_of_effect (separates.apart suffix used) used ?_ copied effect)
  intro transfer planned id source held accepted
  have original := between.stays _ (isLive_source planned) id source held
  exact leaving transfer planned id source original accepted

/-- Moves of some batches, one after the other. Each may have a retry policy of its own, may
remember any destinations and may be cut off anywhere. -/
inductive Runs (mover : Mover) (troubles : Troubles) (start : Holdings) :
    List Batch → Holdings → Prop where
  | begun : Runs mover troubles start [] start
  | moved {batches : List Batch} {before : Holdings} (earlier : Runs mover troubles start batches
      before) (policy : RetryPolicy) (batch : Batch) (recalls : String → Bool)
      (after : Site Holdings) (rest : Work (Except ArchiveFailure Nat))
      (reached : ({ mover with policy := policy }.move batch).Reaches
        (Backend.outages troubles).service ⟨before, recalls⟩ after rest) :
    Runs mover troubles start (batches ++ [batch]) after.store

def SuffixOf (mover : Mover) (batches : List Batch) (suffix : String) : Prop :=
  ∃ batch ∈ batches, mover.namer.suffix batch.finishDate = some suffix

theorem Between.move {troubles : Troubles} {start : Holdings} {site after : Site Holdings}
    {batch : Batch} {rest : Work (Except ArchiveFailure Nat)}
    (between : mover.Between due leaves start site.store) (separates : mover.Separates due)
    (dueOfLeaves : ∀ index source another, leaves index source another → due another)
    (used : ∀ suffix, mover.namer.suffix batch.finishDate = some suffix → due suffix)
    (leaving : ∀ suffix, mover.namer.suffix batch.finishDate = some suffix →
      mover.TakesLeaving suffix batch.ids start leaves)
    (reached : (mover.move batch).Reaches (Backend.outages troubles).service site after rest) :
    mover.Between due leaves start after.store := by
  by_cases empty : batch.ids = []
  · rw [Mover.move, if_pos (List.isEmpty_iff.mpr empty)] at reached
    cases reached
    exact between
  · cases named : mover.namer.suffix batch.finishDate with
    | none =>
      rw [move_of_unnamed empty named] at reached
      cases reached
      exact between
    | some suffix =>
      rw [move_of_named empty named] at reached
      have ensured := ensures_moveTo_outages troubles (fun _ => True)
        (mover.Between due leaves start) (fun _ => False) mover suffix batch.ids
        (separates.apart suffix (used suffix named)) site (fun _ _ _ _ _ _ => trivial)
        (fun history call now after obeys demanded kept _ effect holds =>
          holds.effect separates dueOfLeaves (used suffix named) (leaving suffix named)
            (hasCopied_of_demands obeys demanded kept) effect)
        between
      exact (ensured.holds ⟨between, fun _ recalled => Or.inl recalled⟩ reached).1.1

theorem Runs.takes {troubles : Troubles} {start now : Holdings} {batches all : List Batch}
    (runs : mover.Runs troubles start batches now) (among : ∀ batch ∈ batches, batch ∈ all)
    (separates : mover.Separates due)
    (dueOfLeaves : ∀ index source another, leaves index source another → due another)
    (used : ∀ suffix, mover.SuffixOf all suffix → due suffix)
    (leaving : ∀ batch ∈ all, ∀ suffix, mover.namer.suffix batch.finishDate = some suffix →
      mover.TakesLeaving suffix batch.ids start leaves) :
    mover.Between due leaves start now := by
  induction runs with
  | begun => exact between_refl mover due leaves start
  | moved earlier policy batch recalls after rest reached ih =>
    have before := ih fun other member => among other (List.mem_append_left [batch] member)
    have member := among batch (List.mem_append_right _ List.mem_cons_self)
    -- What is moved and where it goes does not depend on the policy.
    have moved : Between { mover with policy := policy } due leaves start after.store := by
      refine Between.move ?_ ⟨separates.apart, separates.distinct⟩ dueOfLeaves
        (fun suffix named => used suffix ⟨batch, member, named⟩) (leaving batch member) reached
      exact ⟨before.stays, before.found, before.arrived, before.kept, before.made⟩
    exact ⟨moved.stays, moved.found, moved.arrived, moved.kept, moved.made⟩

theorem Runs.between {troubles : Troubles} {start now : Holdings} {batches all : List Batch}
    (runs : mover.Runs troubles start batches now) (among : ∀ batch ∈ batches, batch ∈ all)
    (separates : mover.Separates (mover.SuffixOf all)) :
    mover.Between (mover.SuffixOf all) (fun _ _ => mover.SuffixOf all) start now :=
  runs.takes among separates (fun _ _ _ inUse => inUse) (fun _ inUse => inUse)
    fun batch member _ named _ _ _ _ _ _ => ⟨batch, member, named⟩

/-- Whatever fails while batches are moved, and wherever the moves are cut off: if destinations are
no live indices and each belongs to one of them, every document that was live at the start is still
there or in the destination of a batch. -/
theorem no_document_is_lost (mover : Mover) (start now : Holdings) (batches : List Batch)
    (apart : ∀ batch ∈ batches, ∀ base destination, mover.IsLive base →
      mover.namer.resolve base (some batch.finishDate) = some destination →
        ¬mover.IsLive destination)
    (distinct : ∀ batch ∈ batches, ∀ other ∈ batches, ∀ base another destination,
      mover.IsLive base → mover.IsLive another →
        mover.namer.resolve base (some batch.finishDate) = some destination →
          mover.namer.resolve another (some other.finishDate) = some destination → base = another)
    (runs : mover.Runs .any start batches now) (index id : String) (source : Value)
    (live : mover.IsLive index) (held : start.document? index id = some source) :
    now.document? index id = some source ∨
      ∃ batch ∈ batches, ∃ destination,
        mover.namer.resolve index (some batch.finishDate) = some destination ∧
          now.document? destination id = some source := by
  have resolves : ∀ date suffix, mover.namer.suffix date = some suffix → ∀ base,
      mover.namer.resolve base (some date) = some (base ++ suffix) := by
    intro date suffix named base
    simp only [Namer.resolve, named, Option.map_some]
  have separates : mover.Separates (mover.SuffixOf batches) := by
    constructor
    · intro suffix used base other live also equal
      obtain ⟨batch, member, named⟩ := used
      obtain rfl := equal
      exact apart batch member base _ live (resolves _ _ named base) also
    · intro base another suffix other live also used inUse same
      obtain ⟨batch, member, named⟩ := used
      obtain ⟨next, there, known⟩ := inUse
      exact distinct batch member next there base another _ live also (resolves _ _ named base)
        (same ▸ resolves _ _ known another)
  have between := runs.between (fun _ member => member) separates
  refine (between.found index live id source held).imp_right ?_
  intro moved
  obtain ⟨suffix, ⟨batch, member, named⟩, there⟩ := moved
  exact ⟨batch, member, index ++ suffix, resolves _ _ named index, there⟩

def specimenRoot : Value := .ofMembers [
  ("joinRelation", .text "workflowInstance"), ("key", .nat 7), ("workflowInstanceKey", .nat 7),
  ("partitionId", .nat 1), ("endDate", .text "2024-01-01T12:00:00Z")]

def specimenStart : Holdings :=
  (Holdings.empty.write "operate-list-view_" [("r", specimenRoot)]).write "events"
    [("e", .ofMembers [("workflowInstanceKey", .nat 7)])]

theorem specimen_live {index : String} (live : specimen.IsLive index) :
    index = "operate-list-view_" ∨ index = "events" := by
  rw [isLive_iff, show specimen.collections.map Collection.index =
    ["operate-list-view_", "events"] from rfl] at live
  simpa only [List.mem_cons, List.not_mem_nil, or_false] using live

theorem specimen_separates (due : String → Prop) (marked : ∀ suffix, due suffix → suffix = "x") :
    specimen.Separates due := by
  constructor
  · intro suffix used index other live also
    cases marked suffix used
    rcases specimen_live live with rfl | rfl <;> rcases specimen_live also with rfl | rfl <;>
      decide
  · intro base other suffix another live also used inUse
    cases marked suffix used
    cases marked another inUse
    rcases specimen_live live with rfl | rfl <;> rcases specimen_live also with rfl | rfl <;>
      decide

/-- The originals are deleted and the store never says so, which ends the move. -/
theorem unacknowledged_deletion_loses_nothing :
    ∃ now, specimen.Runs .any specimenStart [⟨⟨2024, 1, 1⟩, ["7"]⟩] now ∧
      (specimenStart.document? "events" "e").isSome = true ∧
      (now.document? "events" "e").isSome = false ∧
      ∀ source, specimenStart.document? "events" "e" = some source →
        now.document? "events" "e" = some source ∨
          ∃ batch ∈ [Batch.mk ⟨2024, 1, 1⟩ ["7"]], ∃ destination,
            specimen.namer.resolve "events" (some batch.finishDate) = some destination ∧
              now.document? destination "e" = some source := by
  have reached := Dialogue.reaches_follow (Backend.serve (Backend.lose .deleteByQuery))
    (Backend.service_serve (Backend.outages .any) _ (Backend.outages_lose .deleteByQuery)) 40
    ⟨specimenStart, fun _ => false⟩ (specimen.move ⟨⟨2024, 1, 1⟩, ["7"]⟩)
  have runs : specimen.Runs .any specimenStart _ _ :=
    .moved .begun specimen.policy _ _ _ _ reached
  have separates := specimen_separates (· = "x") fun _ marked => marked
  refine ⟨_, runs, by decide +kernel, by decide +kernel, fun source held => ?_⟩
  refine no_document_is_lost specimen specimenStart _ _ ?_ ?_ runs "events" "e" source
    ⟨⟨"events", "workflowInstanceKey"⟩, by decide, rfl⟩ held
  · intro batch _ base _ live equal
    cases equal
    exact fun other => separates.apart "x" rfl base _ live other rfl
  · intro batch _ other _ base another _ live also equal same
    cases equal
    exact separates.distinct base another "x" "x" live also rfl rfl (Option.some.inj same).symm

end Mover

end Archivist
