import AudioHost.Priority.Store
import AudioHost.Shell.Deployment

/-!
# A simulated stack

A world that is written down: a list of remote devices with their answers, and the
in-memory priority store. Where several devices share a path or an address, the
first one answers.
-/

set_option autoImplicit false

namespace AudioHost.Simulation

/-- A remote device and how it answers. -/
structure Device where
  path : String
  address : Address
  /-- The path of the device is known. -/
  hasPath : Bool
  /-- The path leads to the device. -/
  resolves : Bool
  serviceUuids : Option (List Uuid)
  properties : Option (List SinkProperty)
  acceptsConnect : Bool
  acceptsDisconnect : Bool
  deriving DecidableEq

/-- An adapter with its devices, and a priority store. -/
structure Stack where
  enabled : Bool
  devices : List Device
  /-- The bonded paths; by default those of the first devices. -/
  bonded : Option (List String)
  store : PriorityStore
  /-- The store accepts nothing. -/
  rejectsWrites : Bool
  deriving DecidableEq

namespace Stack

/-- The device that answers for a path. -/
def deviceAtPath? (stack : Stack) (path : String) : Option Device :=
  stack.devices.find? fun device => device.path == path

/-- The device that answers for an address. -/
def deviceOf? (stack : Stack) (address : Address) : Option Device :=
  stack.devices.find? fun device => device.address == address

/-- The bonded paths, as many as one listing has room for. -/
def bondedPaths (stack : Stack) : List ObjectPath :=
  ((stack.bonded.getD (stack.devices.map Device.path)).take Limits.bondedDevices).filterMap
    BoundedText.ofString?

/-- The answers that the stack gives now. -/
def answers (stack : Stack) : Collaborators where
  adapterEnabled := stack.enabled
  bondedPaths := stack.bondedPaths
  deviceAt path :=
    ((stack.deviceAtPath? path).filter Device.resolves).map Device.address
  pathOf address :=
    ((stack.deviceOf? address).filter Device.hasPath).bind fun device =>
      BoundedText.ofString? device.path
  serviceUuids address := (stack.deviceOf? address).bind Device.serviceUuids
  sinkProperties path := (stack.deviceAtPath? path.text).bind Device.properties
  acceptsConnect path :=
    match stack.deviceAtPath? path.text with
    | some device => device.acceptsConnect
    | none => false
  acceptsDisconnect path :=
    match stack.deviceAtPath? path.text with
    | some device => device.acceptsDisconnect
    | none => false
  storedPriority address := stack.store.get? address
  acceptsPriority address priority :=
    !stack.rejectsWrites && (stack.store.set? address priority).isSome

/-- The stack after an effect: an accepted priority is kept. -/
def absorb (stack : Stack) (effect : Effect) : Stack :=
  match effect with
  | .storePriority device priority true =>
      { stack with store := (stack.store.set? device priority).getD stack.store }
  | .storePriority _ _ false | .connect .. | .disconnect .. | .stateChanged ..
  | .becomingNoisy | .audioEnabled _ => stack

instance : World Stack := ⟨answers, absorb⟩

/-! ## Changes from outside -/

/-- Puts a device in place of the first one of its path, or behind all others. -/
def placeDevice (device : Device) : List Device → List Device
  | [] => [device]
  | known :: rest =>
      if known.path = device.path then device :: rest else known :: placeDevice device rest

/-- Adds a device or changes the one of its path. -/
def setDevice (stack : Stack) (device : Device) : Stack :=
  { stack with devices := placeDevice device stack.devices }

/-- Takes away every device of a path. -/
def removeDevice (stack : Stack) (path : String) : Stack :=
  { stack with devices := stack.devices.filter fun device => device.path != path }

end Stack

end AudioHost.Simulation
