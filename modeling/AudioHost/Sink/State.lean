import AudioHost.Text.LetterCase

/-!
# Sink states

The connection state of a sink, and the reading that the host keeps for it: a
state, or the record that the stack reported something that names none.
-/

set_option autoImplicit false

namespace AudioHost

/-- The connection state of an audio sink. -/
inductive SinkState where
  | disconnected
  | connecting
  | connected
  | playing
  | disconnecting
  deriving DecidableEq

namespace SinkState

/-- The name under which a state is reported and listed. -/
def name : SinkState → String
  | disconnected => "disconnected"
  | connecting => "connecting"
  | connected => "connected"
  | playing => "playing"
  | disconnecting => "disconnecting"

/-- The states that the stack reports. A sink is `disconnecting` only in the eyes
of the host. -/
def reportable : List SinkState := [disconnected, connecting, connected, playing]

/-- The state that a report names, in any letter case. -/
def ofReport? (report : String) : Option SinkState :=
  reportable.find? fun state => Text.sameUpToCase report state.name

/-- Audio reaches the sink. -/
def isUp : SinkState → Bool
  | connected | playing => true
  | disconnected | connecting | disconnecting => false

/-- The sink is gone or going. -/
def isDown : SinkState → Bool
  | disconnected | disconnecting => true
  | connecting | connected | playing => false

/-- The sink stands in the way of another connection. -/
def isBusy (state : SinkState) : Bool := decide (state ≠ disconnected)

end SinkState

/-- What the host last learned about a sink. -/
inductive Reading where
  | known (state : SinkState)
  | invalid
  deriving DecidableEq

namespace Reading

/-- The state that a reading stands for: an invalid one counts as disconnected. -/
def state : Reading → SinkState
  | known state => state
  | invalid => .disconnected

/-- The reading of a report: invalid unless it names a state. -/
def ofReport (report : String) : Reading :=
  match SinkState.ofReport? report with
  | some state => known state
  | none => invalid

/-- The name under which a reading is listed. -/
def name : Reading → String
  | known state => state.name
  | invalid => "invalid"

end Reading

end AudioHost
