import Archivist.Retry

set_option autoImplicit false

namespace Archivist

inductive Counter where
  | archivedInstances
  | cycles
  | cycleFailures
  | reindexFailures
  | cleanupDebt
  | orphanTolerantSkips
deriving Repr, DecidableEq

namespace Counter

def all : List Counter :=
  [.archivedInstances, .cycles, .cycleFailures, .reindexFailures, .cleanupDebt,
    .orphanTolerantSkips]

def name : Counter → String
  | .archivedInstances => "archived_instances"
  | .cycles => "cycles"
  | .cycleFailures => "cycle_failures"
  | .reindexFailures => "reindex_failures"
  | .cleanupDebt => "cleanup_debt"
  | .orphanTolerantSkips => "orphan_tolerant_skips"

def help : Counter → String
  | .archivedInstances => "Root instances moved to an archive destination."
  | .cycles => "Archive cycles run."
  | .cycleFailures => "Archive cycles aborted by a batch failure."
  | .reindexFailures => "Copy steps that failed after retries."
  | .cleanupDebt => "Delete steps that failed after a successful copy."
  | .orphanTolerantSkips =>
    "Orphan-tolerant dependent types skipped because their live index does not exist."

def label : Counter → String
  | .archivedInstances => "archived instances"
  | .cycles => "cycles"
  | .cycleFailures => "failed cycles"
  | .reindexFailures => "reindex failures"
  | .cleanupDebt => "cleanup debt"
  | .orphanTolerantSkips => "orphan-tolerant skips"

end Counter

/-- Counts of 64 bits that start again at zero when they are full. -/
structure Counters where
  archivedInstances : Nat
  cycles : Nat
  cycleFailures : Nat
  reindexFailures : Nat
  cleanupDebt : Nat
  orphanTolerantSkips : Nat
deriving Repr, DecidableEq

namespace Counters

def zero : Counters := ⟨0, 0, 0, 0, 0, 0⟩

def get (counters : Counters) : Counter → Nat
  | .archivedInstances => counters.archivedInstances
  | .cycles => counters.cycles
  | .cycleFailures => counters.cycleFailures
  | .reindexFailures => counters.reindexFailures
  | .cleanupDebt => counters.cleanupDebt
  | .orphanTolerantSkips => counters.orphanTolerantSkips

def wrap (value : Nat) : Nat := value % Nat.pow 2 64

def add (counters : Counters) (amount : Nat) : Counter → Counters
  | .archivedInstances =>
    { counters with archivedInstances := wrap (counters.archivedInstances + amount) }
  | .cycles => { counters with cycles := wrap (counters.cycles + amount) }
  | .cycleFailures => { counters with cycleFailures := wrap (counters.cycleFailures + amount) }
  | .reindexFailures =>
    { counters with reindexFailures := wrap (counters.reindexFailures + amount) }
  | .cleanupDebt => { counters with cleanupDebt := wrap (counters.cleanupDebt + amount) }
  | .orphanTolerantSkips =>
    { counters with orphanTolerantSkips := wrap (counters.orphanTolerantSkips + amount) }

theorem get_add (counters : Counters) (amount : Nat) (counter other : Counter) :
    (counters.add amount counter).get other =
      if other = counter then wrap (counters.get counter + amount) else counters.get other := by
  cases counter <;> cases other <;> rfl

/-- Three lines for each counter: what it counts, that it only grows, and its value. -/
def exposition (counters : Counters) : String :=
  String.join (Counter.all.map fun counter =>
    let name := "arx_" ++ counter.name ++ "_total"
    "# HELP " ++ name ++ " " ++ counter.help ++ "\n# TYPE " ++ name ++ " counter\n" ++ name ++ " "
      ++ Numeral.ofNat (counters.get counter) ++ "\n")

abbrev Row := String × String

def widest (texts : List String) : Nat := texts.foldl (fun width text => max width text.length) 0

/-- Labels stand to the left and values to the right, a blank before and after each. -/
def table (rows : List Row) : String :=
  let labels := widest (rows.map (·.1))
  let values := widest (rows.map (·.2))
  "\n".intercalate (rows.map fun row =>
    " " ++ Numeral.padRight labels ' ' row.1 ++ "  " ++ Numeral.padLeft values ' ' row.2 ++ " ")

/-- The time an archiver has been up, as minutes and seconds. -/
def uptimeText (seconds : Nat) : String :=
  Numeral.zeroPadded 2 (seconds / 60) ++ ":" ++ Numeral.zeroPadded 2 (seconds % 60)

def rows (counters : Counters) (uptime : Nat) : List Row :=
  Counter.all.map (fun counter => (counter.label, Numeral.grouped (counters.get counter)))
    ++ [("uptime", uptimeText uptime)]

inductive Form where
  | table
  | exposition
deriving Repr, DecidableEq

def render (counters : Counters) (uptime : Nat) : Form → String
  | .table => table (counters.rows uptime)
  | .exposition => counters.exposition

end Counters

end Archivist
