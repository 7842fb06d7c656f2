import AudioHost.Collaborators
import AudioHost.Journal
import AudioHost.PendingConnects

/-!
# The manager

The manager owns the sink table, the count of connected sinks and the pending
automatic connects. It never changes a tracked state because it asked for
something: the table follows what the stack reports.
-/

set_option autoImplicit false

namespace AudioHost

/-- How a manager is set up. -/
structure Setup where
  autoConnectDelay : Duration := .ofMillis Limits.autoConnectDelayMillis
  deriving DecidableEq

/-- The state of the manager. -/
structure Manager where
  sinks : SinkTable
  activeCount : UInt32
  pending : PendingConnects
  deriving DecidableEq

namespace Manager

/-- A manager that has seen nothing yet. -/
def new (setup : Setup) : Manager := ⟨.empty, 0, .empty setup.autoConnectDelay⟩

/-- How the manager was set up. -/
def setup (manager : Manager) : Setup := ⟨manager.pending.delay⟩

/-- The state of a device. -/
def stateOf (manager : Manager) (device : Address) : SinkState := manager.sinks.stateOf device

/-- The devices that audio reaches. -/
def connected (manager : Manager) : List Address := manager.sinks.connected

/-- Whether a tracked sink stands in the way of another connection. -/
def isBusy (manager : Manager) : Bool := manager.sinks.isBusy

/-- The earliest deadline of a pending automatic connect. -/
def earliestDeadline? (manager : Manager) : Option Instant := manager.pending.earliestDeadline?

/-- Brings about one effect; the table is noted as it stands. -/
def emit (manager : Manager) (effect : Effect) : Outcome Manager Unit :=
  ⟨(), manager, [⟨effect, manager.sinks⟩]⟩

/-- Enters a reading into the table. Only a new device can be refused. -/
def enter? (manager : Manager) (device : Address) (reading : Reading) : Option Manager :=
  (manager.sinks.insert? device reading).map fun sinks => { manager with sinks }

end Manager

end AudioHost
