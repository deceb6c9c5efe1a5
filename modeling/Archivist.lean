import Archivist.Main
import Archivist.Proofs.Calendar.Daily
import Archivist.Proofs.Calendar.Week
import Archivist.Proofs.Cluster.Bulk
import Archivist.Proofs.Cluster.Race
import Archivist.Proofs.Config.Running
import Archivist.Proofs.Cycle.Pair
import Archivist.Proofs.Cycle.Report
import Archivist.Proofs.Cycle.Tally
import Archivist.Proofs.Discovery.Ending
import Archivist.Proofs.Move.Booking
import Archivist.Proofs.Move.Callers
import Archivist.Proofs.Move.Conduct
import Archivist.Proofs.Move.Loss
import Archivist.Proofs.Move.Remote
import Archivist.Proofs.Move.Replay
import Archivist.Proofs.Move.Together
import Archivist.Proofs.Move.Writer
import Archivist.Proofs.Retry.Budget
import Archivist.Proofs.Scheduler.Clock
import Archivist.Proofs.Scheduler.Pace
import Archivist.Proofs.Scheduler.Requests
import Archivist.Proofs.Scheduler.Stopping
import Archivist.Proofs.Store.Integers
import Archivist.Rehearsal.Scene
import Archivist.Rehearsal.Trial
import Archivist.Proofs.Cluster.Limits
import Archivist.Proofs.Store.Cursors
import Archivist.Sorting
