import AudioHost.Address
import AudioHost.Priority
import AudioHost.Sink.Refusal
import AudioHost.Sink.Property

/-!
# Messages

What reaches the manager and what it answers: events from the stack, requests from
callers, responses to callers.
-/

set_option autoImplicit false

namespace AudioHost

/-- The power state of the adapter. -/
inductive AdapterState where
  | off
  | turningOn
  | on
  | turningOff
  deriving DecidableEq

/-- How far bonding with a device has come. -/
inductive BondState where
  | none
  | bonding
  | bonded
  deriving DecidableEq

/-- The priority that a bond state gives a device. -/
def BondState.priority : BondState → Priority
  | bonded => .auto
  | bonding | none => .off

/-- A report from the stack. -/
inductive Event where
  | adapterChanged (state : AdapterState)
  | bondChanged (address : WrittenAddress) (state : BondState)
  | remoteConnected (device : Address)
  | propertyChanged (path : ObjectPath) (property : SinkProperty)
  deriving DecidableEq

/-- What a caller asks for. -/
inductive Request where
  | connect (device : Address)
  | disconnect (device : Address)
  | connected
  | stateOf (device : Address)
  | priorityOf (device : Address)
  | storePriority (address : WrittenAddress) (priority : Priority)
  | activeCount
  deriving DecidableEq

/-- What a caller gets. -/
inductive Response where
  | done
  | connected (devices : List Address)
  | state (state : SinkState)
  | priority (priority : Priority)
  | activeCount (count : UInt32)
  | refused (cause : Refusal)
  deriving DecidableEq

/-- What a caller must be allowed to do. -/
inductive Capability where
  | read
  | admin
  deriving DecidableEq

/-- Looking needs `read`, changing needs `admin`. -/
def Request.capability : Request → Capability
  | connect _ | disconnect _ | storePriority _ _ => .admin
  | connected | stateOf _ | priorityOf _ | activeCount => .read

/-! ## Messages from unchecked texts -/

/-- An address that does not even fit is refused before anything is sent. -/
def Request.storePriority? (address : String) (priority : Priority) :
    Except Refusal Request :=
  match BoundedText.ofString? address with
  | some carried => .ok (.storePriority carried priority)
  | none => .error .invalidAddress

/-- An address that does not even fit is refused before anything is sent. -/
def Event.bondChanged? (address : String) (state : BondState) : Except Refusal Event :=
  match BoundedText.ofString? address with
  | some carried => .ok (.bondChanged carried state)
  | none => .error .invalidAddress

/-- Path, name and value have to fit. -/
def Event.propertyChanged? (path name value : String) : Except Refusal Event :=
  match BoundedText.ofString? path, SinkProperty.ofTexts? name value with
  | some path, some property => .ok (.propertyChanged path property)
  | _, _ => .error .tooLong

end AudioHost
