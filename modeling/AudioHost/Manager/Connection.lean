import AudioHost.Manager.Transition

/-!
# Connecting and disconnecting

Both only ask the stack. A success says that the stack accepted, not that the sink
changed state.
-/

set_option autoImplicit false

namespace AudioHost.Manager

/-- Asks the stack to connect a device. -/
def requestConnect (manager : Manager) (answers : Collaborators) (device : Address) :
    Outcome Manager (Except Refusal Unit) :=
  match answers.pathOf device with
  | none => .quiet (.error .unknownDevice) manager
  | some path =>
      (manager.emit (.connect device path (answers.acceptsConnect path))).map fun _ =>
        if answers.acceptsConnect path then .ok () else .error .nativeCallFailed

/-- Connects a device from a reading of it: only a disconnected one needs the stack. -/
def connectFrom (manager : Manager) (answers : Collaborators) (device : Address)
    (reading : Reading) : Outcome Manager (Except Refusal Unit) :=
  match reading.state with
  | .connected | .playing | .disconnecting => .quiet (.error .alreadyTerminal) manager
  | .connecting => .quiet (.ok ()) manager
  | .disconnected => manager.requestConnect answers device

/-- Connects a device, unless some sink is active. A device that is not tracked yet
is tracked first. -/
def connect (manager : Manager) (answers : Collaborators) (device : Address) :
    Outcome Manager (Except Refusal Unit) :=
  if manager.isBusy then .quiet (.error .alreadyBusy) manager
  else
    match manager.sinks.get? device with
    | some reading => manager.connectFrom answers device reading
    | none =>
        (manager.track answers device).andThen fun tracked next =>
          match tracked with
          | .error cause => .quiet (.error cause) next
          | .ok reading => next.connectFrom answers device reading

/-- Disconnects a device. One that has no path is unknown, whatever its state. -/
def disconnect (manager : Manager) (answers : Collaborators) (device : Address) :
    Outcome Manager (Except Refusal Unit) :=
  match answers.pathOf device with
  | none => .quiet (.error .unknownDevice) manager
  | some path =>
      match manager.stateOf device with
      | .disconnected => .quiet (.error .alreadyTerminal) manager
      | .disconnecting => .quiet (.ok ()) manager
      | .connecting | .connected | .playing =>
          (manager.emit (.disconnect device path (answers.acceptsDisconnect path))).map
            fun _ =>
              if answers.acceptsDisconnect path then .ok () else .error .nativeCallFailed

end AudioHost.Manager
