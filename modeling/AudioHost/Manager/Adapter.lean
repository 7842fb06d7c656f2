import AudioHost.Manager.Transition

/-!
# The adapter goes on and off

When the adapter is on, the bonded audio devices are tracked. When it turns off,
every sink is let go and the table is emptied.
-/

set_option autoImplicit false

namespace AudioHost.Manager

/-- Tracks the device at a bonded path, if there is one and it is an audio device.
A device that cannot be tracked is passed over. -/
def trackBonded (answers : Collaborators) (manager : Manager) (path : ObjectPath) :
    Outcome Manager Unit :=
  match answers.deviceAt path.text with
  | none => .quiet () manager
  | some device =>
      if answers.hasAudioRole device then (manager.track answers device).map fun _ => ()
      else .quiet () manager

/-- The adapter is on: the count starts anew, the bonded devices are tracked in the
order of their listing, and the audio system is told. -/
def scanBonded (manager : Manager) (answers : Collaborators) : Outcome Manager Unit :=
  (Outcome.forEach (trackBonded answers) answers.bondedPaths
      { manager with activeCount := 0 }).andThen
    fun _ scanned => scanned.emit (.audioEnabled true)

/-- Asks the stack to disconnect a device that has a path. The answer does not matter. -/
def requestRelease (manager : Manager) (answers : Collaborators) (device : Address) :
    Outcome Manager Unit :=
  match answers.pathOf device with
  | none => .quiet () manager
  | some path => manager.emit (.disconnect device path (answers.acceptsDisconnect path))

/-- Lets go of one tracked device: a sink that is not yet disconnecting is
disconnected natively, and every active sink becomes disconnected. -/
def release (answers : Collaborators) (manager : Manager) (entry : Address × Reading) :
    Outcome Manager Unit :=
  match entry.2.state with
  | .disconnected => .quiet () manager
  | .disconnecting => manager.move entry.1 entry.2 .disconnected
  | .connecting | .connected | .playing =>
      (manager.requestRelease answers entry.1).andThen
        fun _ asked => asked.move entry.1 entry.2 .disconnected

/-- The adapter turns off: the tracked devices are let go in table order, the table
is emptied and the audio system is told. Pending automatic connects stay. -/
def releaseAll (manager : Manager) (answers : Collaborators) : Outcome Manager Unit :=
  (Outcome.forEach (release answers) manager.sinks.entries manager).andThen
    fun _ released =>
      ({ released with sinks := .empty } : Manager).emit (.audioEnabled false)

end AudioHost.Manager
