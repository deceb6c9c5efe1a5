import Archivist.Store.Failure

set_option autoImplicit false

namespace Archivist

inductive ArchiveFailure where
  | discovery (cause : StoreFailure)
  | preparation (destination : String) (cause : StoreFailure)
  | copy (source destination : String) (cause : StoreFailure)
  | removal (index : String) (cause : StoreFailure)
  /-- Fewer roots are in the destination than the batch has. -/
  | incomplete (source destination : String) (expected found : Nat)
deriving Repr, DecidableEq

namespace ArchiveFailure

def cause? : ArchiveFailure → Option StoreFailure
  | .discovery cause | .preparation _ cause | .copy _ _ cause | .removal _ cause => some cause
  | .incomplete .. => none

def isTransient (failure : ArchiveFailure) : Bool :=
  match failure.cause? with
  | some cause => cause.isTransient
  | none => false

def message : ArchiveFailure → String
  | .discovery _ => "failed to discover archive candidates"
  | .preparation destination _ => "failed to prepare destination '" ++ destination ++ "'"
  | .copy source destination _ =>
    "failed to reindex '" ++ source ++ "' into '" ++ destination ++ "'"
  | .removal index _ => "failed to delete archived records from '" ++ index ++ "'"
  | .incomplete source destination expected found =>
    "only " ++ Numeral.ofNat found ++ " of " ++ Numeral.ofNat expected ++ " root(s) from '"
      ++ source
      ++ "' are present in '" ++ destination ++ "'"

/-- The copy was refused because the index to copy from does not exist. -/
def isMissingSource : ArchiveFailure → Bool
  | .copy _ _ cause => cause.isMissing
  | _ => false

/-- The texts of what lies behind the failure, outermost first. -/
def causes (failure : ArchiveFailure) : List String :=
  match failure.cause? with
  | some cause => [cause.message]
  | none => []

end ArchiveFailure

/-- What a cycle did before it stopped, and at which batch. A cycle that stopped between two batches
names no date and no ids. -/
structure CycleFailure where
  finishDate : String
  idCount : Nat
  archivedBefore : Nat
  cause : ArchiveFailure
deriving Repr, DecidableEq

namespace CycleFailure

def message (failure : CycleFailure) : String :=
  "archive cycle aborted at batch '" ++ failure.finishDate ++ "' (" ++ Numeral.ofNat failure.idCount
    ++ " id(s)) after archiving " ++ Numeral.ofNat failure.archivedBefore

def causes (failure : CycleFailure) : List String :=
  failure.cause.message :: failure.cause.causes

end CycleFailure

end Archivist
