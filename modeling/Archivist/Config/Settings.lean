import Archivist.Archive.Cycle

set_option autoImplicit false

namespace Archivist

open Calendar (Rollover)

/-- Where a search cluster is and how to speak to it. Times are milliseconds. -/
structure ClusterSettings where
  url : String
  username : Option String
  password : Option String
  apiKey : Option String
  connectTimeout : Nat
  requestTimeout : Nat
deriving Repr, DecidableEq

inductive StoreSettings where
  | memory
  | cluster (settings : ClusterSettings)
deriving Repr, DecidableEq

/-- How finished roots are found and moved, and how often. Delays and timeouts are milliseconds. -/
structure ArchiverSettings where
  enabled : Bool
  batchSize : Nat
  minAgeSeconds : Nat
  rollover : Rollover
  datePattern : String
  offsetMinutes : Int
  retries : Nat
  backoffBase : Nat
  backoffLimit : Nat
  requestTimeout : Nat
  idleDelay : Nat
  busyDelay : Nat
  errorDelay : Nat
  metricsFile : Option String
deriving Repr, DecidableEq

structure Settings where
  store : StoreSettings
  archiver : ArchiverSettings
  partitions : List Nat
  root : RootDescriptor
  dependents : List Dependent
deriving Repr, DecidableEq

def ArchiverSettings.standard : ArchiverSettings where
  enabled := true
  batchSize := 100
  minAgeSeconds := 3600
  rollover := .day
  datePattern := "%Y-%m-%d"
  offsetMinutes := 0
  retries := 3
  backoffBase := 500
  backoffLimit := 30000
  requestTimeout := 30000
  idleDelay := 60000
  busyDelay := 0
  errorDelay := 2000
  metricsFile := none

def Settings.standard : Settings where
  store := .memory
  archiver := .standard
  partitions := [1]
  root := .standard
  dependents := Dependent.standard

inductive SettingsFault where
  | emptyPages
  | offset (minutes : Int)
  | pattern (fault : PatternFault)
  | repeatedDependent (name : String)
deriving Repr, DecidableEq

def SettingsFault.message : SettingsFault → String
  | .emptyPages =>
    "💀 archiver.batch_size is 0. Archiving zero things per page is a very slow way to archive everything."
  | .offset minutes =>
    "💀 reference_utc_offset_minutes = " ++ Numeral.ofInt minutes
      ++ " is not an offset this planet uses"
  | .pattern fault => "💀 archiver.rollover_date_format: " ++ fault.message
  | .repeatedDependent name =>
    "💀 Dependent type '" ++ name
      ++ "' is registered twice. Pick one. They cannot both be the favourite."

namespace ArchiverSettings

def retryPolicy (settings : ArchiverSettings) : RetryPolicy where
  retries := settings.retries
  backoffBase := settings.backoffBase
  backoffLimit := settings.backoffLimit
  requestTimeout := settings.requestTimeout

/-- The policy of a namer that was given none: a single attempt. -/
def patientPolicy : RetryPolicy := { standard.retryPolicy with retries := 0 }

/-- The minimum age in seconds, unless it is longer than any span of time. -/
def minAge? (settings : ArchiverSettings) : Option Nat :=
  if Calendar.Instant.longestSpan < settings.minAgeSeconds * 1000 then none
  else some settings.minAgeSeconds

/-- Seconds east of universal time, less than a day in either direction. -/
def offset? (settings : ArchiverSettings) : Option Int :=
  let seconds := settings.offsetMinutes * 60
  if seconds.natAbs < 86400 then some seconds else none

def namer (settings : ArchiverSettings) : Except SettingsFault Namer :=
  match Namer.ofText settings.datePattern with
  | .ok namer => .ok namer
  | .error fault => .error (.pattern fault)

def offset (settings : ArchiverSettings) : Except SettingsFault Int :=
  match settings.offset? with
  | some seconds => .ok seconds
  | none => .error (.offset settings.offsetMinutes)

end ArchiverSettings

/-- The first name that stands in a list twice, by the place of its second mention. -/
def repeated? : List String → List String → Option String
  | _, [] => none
  | seen, name :: rest => if seen.contains name then some name else repeated? (name :: seen) rest

namespace Settings

def fault? (settings : Settings) : Option SettingsFault :=
  if settings.archiver.batchSize = 0 then some .emptyPages
  else
    match settings.archiver.offset with
    | .error fault => some fault
    | .ok _ =>
      match settings.archiver.namer with
      | .error fault => some fault
      | .ok _ => (repeated? [] (settings.dependents.map (·.name))).map .repeatedDependent

/-- Why an archiver could not be set up. -/
inductive WiringFailure where
  | fault (fault : SettingsFault)
  | crash (cause : Crash)
deriving Repr, DecidableEq

/-- The archiver that settings describe. Settings that were not checked can fail here too. -/
def archiver? (settings : Settings) : Except WiringFailure Archiver :=
  match settings.archiver.namer with
  | .error fault => .error (.fault fault)
  | .ok namer =>
    match settings.archiver.minAge? with
    | none => .error (.crash .ageTooLong)
    | some minAge =>
      match settings.archiver.offset with
      | .error fault => .error (.fault fault)
      | .ok offset =>
        let policy := settings.archiver.retryPolicy
        .ok {
          partitions := .ofList settings.partitions
          finder := ⟨settings.root, minAge, offset, settings.archiver.rollover, policy⟩
          mover := ⟨namer, settings.root, settings.dependents, policy⟩
          batchSize := settings.archiver.batchSize }

end Settings

end Archivist
