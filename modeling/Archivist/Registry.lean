set_option autoImplicit false

namespace Archivist

structure RootDescriptor where
  index : String
  idField : String
  endDateField : String
  partitionField : String
  joinField : String
  joinValue : String
  linkField : String
deriving Repr, DecidableEq

/-- A type of record that belongs to a root record through a foreign key. -/
structure Dependent where
  name : String
  index : String
  foreignKey : String
  archive : Bool
  /-- Stored in the index of the roots, and so moved along with them. -/
  coLocated : Bool
  /-- The type's index may be missing. -/
  orphanTolerant : Bool
deriving Repr, DecidableEq

namespace Dependent

def needsSeparateMove (dependent : Dependent) : Bool :=
  dependent.archive && !dependent.coLocated

end Dependent

namespace RootDescriptor

def standard : RootDescriptor where
  index := "operate-list-view_"
  idField := "key"
  endDateField := "endDate"
  partitionField := "partitionId"
  joinField := "joinRelation"
  joinValue := "workflowInstance"
  linkField := "workflowInstanceKey"

end RootDescriptor

namespace Dependent

/-- A type with an index of its own, linked as the standard root is. -/
def separate (name index : String) : Dependent where
  name := name
  index := index
  foreignKey := RootDescriptor.standard.linkField
  archive := true
  coLocated := false
  orphanTolerant := false

def standard : List Dependent := [
  { separate "list-view-activity" "operate-list-view_" with coLocated := true },
  separate "event" "operate-event_",
  separate "flow-node-instance" "operate-activity-instance_",
  separate "variable" "operate-variable_",
  { separate "incident" "operate-incident_" with orphanTolerant := true },
  { separate "sequence-flow" "operate-sequence-flow_" with orphanTolerant := true },
  separate "operation" "operate-operation_"]

end Dependent

end Archivist
