import AudioHost.Manager.Transition

/-!
# Reports about sinks

The stack reports properties that changed. Only the connection state matters, and
only while the adapter is on.
-/

set_option autoImplicit false

namespace AudioHost.Manager

/-- A tracked device is reported under some text. A text that names no state
disconnects the device and leaves it with an invalid reading. -/
def applyReport (manager : Manager) (device : Address) (previous : Reading)
    (report : String) : Outcome Manager Unit :=
  match SinkState.ofReport? report with
  | some state => manager.move device previous state
  | none =>
      (manager.move device previous .disconnected).andThen fun _ moved =>
        .quiet () { moved with sinks := moved.sinks.replace device .invalid }

/-- A property changed at a path. A device that is not tracked yet is tracked as the
stack describes it, whatever the report says. -/
def propertyChanged (manager : Manager) (answers : Collaborators) (path : String)
    (property : SinkProperty) : Outcome Manager Unit :=
  if answers.adapterEnabled then
    match answers.deviceAt path with
    | none => .quiet () manager
    | some device =>
        if property.tellsState then
          match manager.sinks.get? device with
          | none => (manager.track answers device).map fun _ => ()
          | some previous => manager.applyReport device previous property.value.text
        else .quiet () manager
  else .quiet () manager

end AudioHost.Manager
