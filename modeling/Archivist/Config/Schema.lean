import Archivist.Config.Reader
import Archivist.Config.Settings

set_option autoImplicit false

namespace Archivist.Config

open Calendar (Rollover)
open Archivist.Config.Field (omissible needed)

namespace Schema

def cluster : Reader ClusterSettings := .record
  { url := "", username := none, password := none, apiKey := none
    connectTimeout := 10000, requestTimeout := 30000 } [
  needed "url" .text fun held value => { held with url := value },
  omissible "username" (.optional .text) fun held value => { held with username := value },
  omissible "password" (.optional .text) fun held value => { held with password := value },
  omissible "api_key" (.optional .text) fun held value => { held with apiKey := value },
  omissible "connect_timeout_ms" (.word 64) fun held value => { held with connectTimeout := value },
  omissible "request_timeout_ms" (.word 64) fun held value => { held with requestTimeout := value }]

def store : Reader StoreSettings := .choice [
  ("InMemory", .alone .memory),
  ("Elasticsearch", .holding fun form path tree => (cluster form path tree).map .cluster)]

def rollover : Reader Rollover := .choice [("day", .alone .day), ("week", .alone .week)]

def archiver : Reader ArchiverSettings := .record .standard [
  omissible "enabled" .bool fun held value => { held with enabled := value },
  omissible "batch_size" (.word 64) fun held value => { held with batchSize := value },
  omissible "min_age_secs" (.word 64) fun held value => { held with minAgeSeconds := value },
  omissible "rollover_interval" rollover fun held value => { held with rollover := value },
  omissible "rollover_date_format" .text fun held value => { held with datePattern := value },
  omissible "reference_utc_offset_minutes" (.integer (-2147483648) 2147483647) fun held value =>
    { held with offsetMinutes := value },
  omissible "retry_count" (.word 32) fun held value => { held with retries := value },
  omissible "backoff_base_ms" (.word 64) fun held value => { held with backoffBase := value },
  omissible "backoff_max_ms" (.word 64) fun held value => { held with backoffLimit := value },
  omissible "request_timeout_ms" (.word 64) fun held value => { held with requestTimeout := value },
  omissible "idle_delay_ms" (.word 64) fun held value => { held with idleDelay := value },
  omissible "busy_delay_ms" (.word 64) fun held value => { held with busyDelay := value },
  omissible "error_delay_ms" (.word 64) fun held value => { held with errorDelay := value },
  omissible "metrics_textfile" (.optional .text) fun held value =>
    { held with metricsFile := value }]

def partitions : Reader (List Nat) := .record Settings.standard.partitions [
  omissible "ids" (.list (.word 32)) fun _ value => value]

def root : Reader RootDescriptor := .record .standard [
  omissible "index" .text fun held value => { held with index := value },
  omissible "id_field" .text fun held value => { held with idField := value },
  omissible "end_date_field" .text fun held value => { held with endDateField := value },
  omissible "partition_field" .text fun held value => { held with partitionField := value },
  omissible "join_field" .text fun held value => { held with joinField := value },
  omissible "join_value" .text fun held value => { held with joinValue := value },
  omissible "link_field" .text fun held value => { held with linkField := value }]

def dependent : Reader Dependent := .record (.separate "" "") [
  needed "name" .text fun held value => { held with name := value },
  needed "index" .text fun held value => { held with index := value },
  omissible "foreign_key" .text fun held value => { held with foreignKey := value },
  omissible "archive" .bool fun held value => { held with archive := value },
  omissible "co_located" .bool fun held value => { held with coLocated := value },
  omissible "orphan_tolerant" .bool fun held value => { held with orphanTolerant := value }]

def settings : Reader Settings := .record .standard [
  omissible "store" store fun held value => { held with store := value },
  omissible "archiver" archiver fun held value => { held with archiver := value },
  omissible "partitions" partitions fun held value => { held with partitions := value },
  omissible "root" root fun held value => { held with root := value },
  omissible "dependents" (.list dependent) fun held value => { held with dependents := value }]

end Schema

def ofDocument (document : Json.Value) : Except Problem Settings :=
  Schema.settings .document [] (.ofJson document)

end Archivist.Config
