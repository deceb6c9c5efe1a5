import Archivist.Archive.Destination
import Archivist.Archive.Discovery

set_option autoImplicit false

namespace Archivist

open Json (Value)

/-- Records of a live index, chosen by a filter, and where they go. -/
structure Transfer where
  source : String
  destination : String
  filter : Filter
deriving Repr

structure Mover where
  namer : Namer
  root : RootDescriptor
  dependents : List Dependent
  policy : RetryPolicy
deriving Repr, DecidableEq

namespace Mover

def texts (ids : List String) : List Value := ids.map .text

def rootTransfer (mover : Mover) (suffix : String) (ids : List String) : Transfer :=
  ⟨mover.root.index, mover.root.index ++ suffix, .terms mover.root.linkField (texts ids)⟩

def dependentTransfer (dependent : Dependent) (suffix : String) (ids : List String) : Transfer :=
  ⟨dependent.index, dependent.index ++ suffix, .terms dependent.foreignKey (texts ids)⟩

/-- The types that are moved on their own, in the order of the registry. -/
def separateDependents (mover : Mover) : List Dependent :=
  mover.dependents.filter Dependent.needsSeparateMove

/-- Makes sure of the destination and copies into it. -/
def copy (mover : Mover) (transfer : Transfer) : Work (Except ArchiveFailure Unit) :=
  (Work.ensure mover.policy transfer.destination).andThen fun _ =>
    ((Work.call mover.policy "reindex"
        (.reindex transfer.source transfer.destination transfer.filter)).mapFailure
      (.copy transfer.source transfer.destination)).andThen fun _ => .finish (.ok ())

def verification (mover : Mover) (destination : String) (ids : List String) : Search where
  index := destination
  filters := [
    .term mover.root.joinField (.text mover.root.joinValue),
    .terms mover.root.idField (texts ids)]
  sort := []
  limit := ids.length
  after := none

/-- How many roots of a batch are in their destination, at most as many as the batch has. -/
def countArchived (mover : Mover) (destination : String) (ids : List String) :
    Work (Except ArchiveFailure Nat) :=
  ((Work.call mover.policy "verify archived roots"
      (.search (mover.verification destination ids))).mapFailure
    (.copy mover.root.index destination)).andThen fun found => .finish (.ok found.length)

/-- Copies the dependent types in order and yields the transfers that were made. A type that
tolerates it is passed over when its index is missing. -/
def copyDependents (mover : Mover) (suffix : String) (ids : List String) :
    List Dependent → Work (Except ArchiveFailure (List Transfer))
  | [] => .finish (.ok [])
  | dependent :: rest =>
    let transfer := dependentTransfer dependent suffix ids
    (mover.copy transfer).bind fun
      | .ok () =>
        (mover.copyDependents suffix ids rest).andThen fun others =>
          .finish (.ok (transfer :: others))
      | .error failure =>
        if dependent.orphanTolerant && failure.isMissingSource then
          (Work.count .orphanTolerantSkips 1).bind fun _ => mover.copyDependents suffix ids rest
        else (Work.count .reindexFailures 1).bind fun _ => .finish (.error failure)

def refreshAll (mover : Mover) : List Transfer → Work (Except ArchiveFailure Unit)
  | [] => .finish (.ok ())
  | transfer :: rest =>
    ((Work.call mover.policy "refresh destination" (.refresh transfer.destination)).mapFailure
      (.preparation transfer.destination)).andThen fun _ => mover.refreshAll rest

/-- Deletes what was copied. A failure leaves records both live and archived. -/
def deleteAll (mover : Mover) : List Transfer → Work (Except ArchiveFailure Unit)
  | [] => .finish (.ok ())
  | transfer :: rest =>
    ((Work.call mover.policy "delete archived originals"
        (.deleteByQuery transfer.source transfer.filter)).onFailure
      (Work.count .cleanupDebt 1)).mapFailure (.removal transfer.source) |>.andThen fun _ =>
        mover.deleteAll rest

/-- The steps of a move once the suffix of its destinations is known. -/
def moveTo (mover : Mover) (suffix : String) (ids : List String) :
    Work (Except ArchiveFailure Nat) :=
  let roots := mover.rootTransfer suffix ids
  ((mover.copy roots).onFailure (Work.count .reindexFailures 1)).andThen fun _ =>
  (mover.countArchived roots.destination ids).andThen fun found =>
    if found < ids.length then
      (Work.count .reindexFailures 1).bind fun _ =>
        .finish (.error (.incomplete roots.source roots.destination ids.length found))
    else
      (mover.copyDependents suffix ids mover.separateDependents).andThen fun others =>
      (mover.refreshAll (roots :: others)).andThen fun _ =>
      (mover.deleteAll (roots :: others).reverse).andThen fun _ =>
        .finish (.ok ids.length)

/-- Moves a batch and yields how many roots it has. An empty batch takes no step at all. -/
def move (mover : Mover) (batch : Batch) : Work (Except ArchiveFailure Nat) :=
  if batch.ids.isEmpty then .finish (.ok 0)
  else
    (mover.namer.suffixOrCrash batch.finishDate).bind fun suffix => mover.moveTo suffix batch.ids

end Mover

end Archivist
