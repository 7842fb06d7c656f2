import AudioHost.Manager.Adapter
import AudioHost.Manager.AutoConnect
import AudioHost.Manager.Preference
import AudioHost.Manager.Report

/-!
# Events and requests

Every event and every request is one operation of the manager.
-/

set_option autoImplicit false

namespace AudioHost.Manager

/-- Reacts to an adapter state. Only `on` and `turningOff` matter. -/
def adapterChanged (manager : Manager) (answers : Collaborators) (state : AdapterState) :
    Outcome Manager Unit :=
  match state with
  | .on => manager.scanBonded answers
  | .turningOff => manager.releaseAll answers
  | .off | .turningOn => .quiet () manager

/-- Applies an event. The answer says whether a deadline was set or moved. -/
def applyEvent (manager : Manager) (answers : Collaborators) (now : Instant) (event : Event) :
    Outcome Manager (Except ClockOverflow Bool) :=
  match event with
  | .adapterChanged state => (manager.adapterChanged answers state).map fun _ => .ok false
  | .bondChanged address state =>
      (manager.bondChanged answers address.text state).map fun _ => .ok false
  | .remoteConnected device => manager.remoteConnected answers device now
  | .propertyChanged path property =>
      (manager.propertyChanged answers path.text property).map fun _ => .ok false

/-- The response to a request that can only succeed or be refused. -/
def responseOf : Except Refusal Unit → Response
  | .ok () => .done
  | .error cause => .refused cause

/-- Serves a request. -/
def serve (manager : Manager) (answers : Collaborators) (request : Request) :
    Outcome Manager Response :=
  match request with
  | .connect device => (manager.connect answers device).map responseOf
  | .disconnect device => (manager.disconnect answers device).map responseOf
  | .storePriority address priority =>
      (manager.storePriority answers address.text priority).map responseOf
  | .connected => .quiet (.connected manager.connected) manager
  | .stateOf device => .quiet (.state (manager.stateOf device)) manager
  | .priorityOf device => .quiet (.priority (answers.priorityOf device)) manager
  | .activeCount => .quiet (.activeCount manager.activeCount) manager

end AudioHost.Manager
