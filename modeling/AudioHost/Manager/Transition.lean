import AudioHost.Manager.Basic

/-!
# Transitions

One place commits a change of state and tells the listeners. Leaving the connected
states for the disconnected ones warns that audio becomes noisy, before the change
itself is announced. A change that does not change the state is not announced.
-/

set_option autoImplicit false

namespace AudioHost.Manager

/-- A change that audio listeners have to be warned of. -/
def losesAudio (previous current : SinkState) : Bool :=
  previous.isUp && current.isDown

/-- The count after a change: one less, but not below zero, when audio is lost, and
one more when a sink becomes connected in any other way. -/
def countAfter (count : UInt32) (previous current : SinkState) : UInt32 :=
  if losesAudio previous current then (if count = 0 then 0 else count - 1)
  else if current = .connected then count + 1
  else count

/-- The effects of a change, in order. -/
def announcement (device : Address) (previous current : SinkState) : List Effect :=
  if losesAudio previous current then
    [.becomingNoisy, .stateChanged device previous current]
  else [.stateChanged device previous current]

/-- Announces a change that the table already shows. -/
def announce (manager : Manager) (device : Address) (previous current : SinkState) :
    Outcome Manager Unit :=
  { result := ()
    state := { manager with activeCount := countAfter manager.activeCount previous current }
    journal := (announcement device previous current).map fun effect =>
      ⟨effect, manager.sinks⟩ }

/-- Moves a device from a previous reading to a state. Without a change of state at
most an invalid reading is put right. A device that the full table cannot take is
refused, and then nothing happens at all. -/
def commit (manager : Manager) (device : Address) (previous : Reading)
    (current : SinkState) : Outcome Manager (Except Refusal Unit) :=
  if previous = .known current then .quiet (.ok ()) manager
  else
    match manager.enter? device (.known current) with
    | none => .quiet (.error .tableFull) manager
    | some entered =>
        if previous.state = current then .quiet (.ok ()) entered
        else (entered.announce device previous.state current).map .ok

/-- A transition whose refusal nobody waits for. -/
def move (manager : Manager) (device : Address) (previous : Reading)
    (current : SinkState) : Outcome Manager Unit :=
  (manager.commit device previous current).map fun _ => ()

/-- Starts tracking a device as the stack describes it, from the assumption that it
was disconnected until now. The reading is returned. -/
def track (manager : Manager) (answers : Collaborators) (device : Address) :
    Outcome Manager (Except Refusal Reading) :=
  match answers.readSink device with
  | .error cause => .quiet (.error cause) manager
  | .ok .invalid =>
      match manager.enter? device .invalid with
      | none => .quiet (.error .tableFull) manager
      | some entered => .quiet (.ok .invalid) entered
  | .ok (.known state) =>
      match manager.enter? device (.known .disconnected) with
      | none => .quiet (.error .tableFull) manager
      | some entered =>
          (entered.move device (.known .disconnected) state).map fun _ => .ok (.known state)

end AudioHost.Manager
