import AudioHost.BoundedMap.Lemmas
import AudioHost.Manager.Operation
import AudioHost.Simulation.Registry
import AudioHost.Simulation.Stack
import AudioHost.Proofs.Change
import AudioHost.Proofs.Act
import AudioHost.Proofs.Anatomy
import AudioHost.Proofs.Turn
import AudioHost.Proofs.NativeCalls
import AudioHost.Proofs.Attempts
import AudioHost.Proofs.SingleActivation
import AudioHost.Proofs.Replay
import AudioHost.Proofs.Scan
import AudioHost.Proofs.Frame
import AudioHost.Proofs.AudioLoss
import AudioHost.Proofs.LockStep
import AudioHost.Proofs.Listing
import AudioHost.Proofs.Alike
import AudioHost.Proofs.Debouncing
import AudioHost.Proofs.Triggers
import AudioHost.Proofs.Delivery
import AudioHost.Proofs.Calls
import AudioHost.Proofs.Punctuality
import AudioHost.Proofs.RoleGrants
import AudioHost.Proofs.Queries
import AudioHost.Proofs.RepeatedSweeps
import AudioHost.Proofs.SystemParts
import AudioHost.Proofs.Trust
import AudioHost.Proofs.Reportable
import AudioHost.Proofs.Connects
import AudioHost.Proofs.Batches
import AudioHost.Proofs.LastWrite
import AudioHost.Proofs.AddressCodec
import AudioHost.Proofs.StoredPriorities
import AudioHost.Proofs.Survey
import AudioHost.Proofs.Release
import AudioHost.Proofs.Reports
import AudioHost.Proofs.Independence
import AudioHost.Proofs.Commits
import AudioHost.Proofs.ClockOverflow
import AudioHost.Proofs.CheckedCalls
