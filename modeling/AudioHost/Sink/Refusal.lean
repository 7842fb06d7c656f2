/-!
# Refusals

Why the host does not do what it was asked.
-/

set_option autoImplicit false

namespace AudioHost

/-- The cause of a refused request. -/
inductive Refusal where
  /-- Another sink is connecting, connected, playing or disconnecting. -/
  | alreadyBusy
  /-- The sink is already where the request would take it. -/
  | alreadyTerminal
  /-- The stack has no path for the device. -/
  | unknownDevice
  /-- The stack rejected a connect, a disconnect or a reading. -/
  | nativeCallFailed
  /-- A text does not denote a device address. -/
  | invalidAddress
  /-- The priority store rejected a write. -/
  | storeFailed
  /-- Too many devices are tracked or pending. -/
  | tableFull
  /-- There is no manager yet. -/
  | notInitialized
  /-- There is a manager already. -/
  | alreadyInitialized
  /-- A text exceeds its capacity. -/
  | tooLong
  /-- A response belongs to another kind of request. -/
  | unexpectedResponse
  deriving DecidableEq

/-- The text shown to the caller. -/
def Refusal.message : Refusal → String
  | alreadyBusy => "another sink is active"
  | alreadyTerminal => "sink already in requested state"
  | unknownDevice => "unknown device"
  | nativeCallFailed => "native call failed"
  | invalidAddress => "invalid address"
  | storeFailed => "priority store write failed"
  | tableFull => "sink table full"
  | notInitialized => "SinkManager not initialized"
  | alreadyInitialized => "SinkManager already initialized"
  | tooLong => "argument too long"
  | unexpectedResponse => "unexpected response"

end AudioHost
