import AudioHost.Address
import AudioHost.Priority
import AudioHost.Service
import AudioHost.Sink.Refusal
import AudioHost.Sink.Property

/-!
# Collaborators

The host decides, others act: the adapter and its stack know the remote devices
and carry out connects and disconnects, and a store keeps the priorities. One
`Collaborators` value holds their answers during one operation; the next
operation may meet different ones.
-/

set_option autoImplicit false

namespace AudioHost

/-- The answers of the adapter, the stack and the priority store. -/
structure Collaborators where
  /-- Whether the adapter is on. -/
  adapterEnabled : Bool
  /-- The paths of the bonded devices. -/
  bondedPaths : List ObjectPath
  /-- The device that a path leads to. -/
  deviceAt : String → Option Address
  /-- The path of a device. -/
  pathOf : Address → Option ObjectPath
  /-- The service UUIDs that a device advertises, if they are known. -/
  serviceUuids : Address → Option (List Uuid)
  /-- The sink properties at a path; `none` if they cannot be read. -/
  sinkProperties : ObjectPath → Option (List SinkProperty)
  /-- Whether the stack accepts a connect at a path. -/
  acceptsConnect : ObjectPath → Bool
  /-- Whether the stack accepts a disconnect at a path. -/
  acceptsDisconnect : ObjectPath → Bool
  /-- The stored priority of a device. -/
  storedPriority : Address → Option Priority
  /-- Whether the store accepts a priority for a device. -/
  acceptsPriority : Address → Priority → Bool

namespace Collaborators

/-- The priority of a device; without a stored one it is off. -/
def priorityOf (answers : Collaborators) (device : Address) : Priority :=
  (answers.storedPriority device).getD .off

/-- Whether a device advertises a service that passes a test. -/
def advertises (answers : Collaborators) (device : Address) (test : Uuid → Bool) : Bool :=
  match answers.serviceUuids device with
  | some uuids => uuids.any test
  | none => false

/-- The device advertises that it plays audio. -/
def playsAudio (answers : Collaborators) (device : Address) : Bool :=
  answers.advertises device Uuid.playsAudio

/-- The device advertises some role in audio distribution. -/
def hasAudioRole (answers : Collaborators) (device : Address) : Bool :=
  answers.advertises device Uuid.hasAudioRole

/-- What the stack says about the connection of a device: it needs a path, and the
properties there have to be readable. -/
def readSink (answers : Collaborators) (device : Address) : Except Refusal Reading :=
  match answers.pathOf device with
  | none => .error .unknownDevice
  | some path =>
      match answers.sinkProperties path with
      | none => .error .nativeCallFailed
      | some properties => .ok (SinkProperty.reading properties)

end Collaborators

end AudioHost
