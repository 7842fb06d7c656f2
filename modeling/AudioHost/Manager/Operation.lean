import AudioHost.Manager.Dispatch

/-!
# Operations and runs

Everything that can be done to a manager from outside, as data: the messages that
the workers pass on, and the single operations behind them for those who hold a
manager of their own. A run performs operations one after another, each with the
answers that the collaborators give at its time.
-/

set_option autoImplicit false

namespace AudioHost

/-- What can be done to a manager. -/
inductive Operation where
  | event (event : Event) (now : Instant)
  | request (request : Request)
  | fireDue (now : Instant)
  | scanBonded
  | releaseAll
  | bondChanged (address : String) (state : BondState)
  | remoteConnected (device : Address) (now : Instant)
  | connect (device : Address)
  | disconnect (device : Address)
  | storePriority (address : String) (priority : Priority)
  | propertyChanged (path : String) (property : SinkProperty)
  | commit (device : Address) (previous : Reading) (current : SinkState)
  deriving DecidableEq

/-- Whether an operation is one that the workers perform: an event, a request or a
batch of automatic connects. -/
def Operation.isRouted : Operation → Bool
  | event _ _ | request _ | fireDue _ => true
  | scanBonded | releaseAll | bondChanged _ _ | remoteConnected _ _ | connect _
  | disconnect _ | storePriority _ _ | propertyChanged _ _ | commit _ _ _ => false

/-- What an operation answers. -/
inductive Reply where
  /-- There is nothing to say. -/
  | done
  /-- The operation was accepted or refused. -/
  | judged (verdict : Except Refusal Unit)
  /-- Whether a deadline was set or moved. -/
  | scheduled (moved : Bool)
  /-- The response to a request. -/
  | response (response : Response)
  /-- The device that a batch connected, if any. -/
  | attempted (device : Option Address)
  /-- The clock cannot show a deadline, and the host stops. -/
  | overflow (cause : ClockOverflow)

/-- The reply of an operation that sets deadlines. -/
def Reply.ofScheduling : Except ClockOverflow Bool → Reply
  | .ok moved => scheduled moved
  | .error cause => overflow cause

namespace Manager

/-- Performs an operation. -/
def perform (manager : Manager) (answers : Collaborators) (operation : Operation) :
    Outcome Manager Reply :=
  match operation with
  | .event event now => (manager.applyEvent answers now event).map Reply.ofScheduling
  | .request request => (manager.serve answers request).map .response
  | .fireDue now => (manager.fireDue answers now).map .attempted
  | .scanBonded => (manager.scanBonded answers).map fun _ => .done
  | .releaseAll => (manager.releaseAll answers).map fun _ => .done
  | .bondChanged address state =>
      (manager.bondChanged answers address state).map fun _ => .done
  | .remoteConnected device now =>
      (manager.remoteConnected answers device now).map Reply.ofScheduling
  | .connect device => (manager.connect answers device).map .judged
  | .disconnect device => (manager.disconnect answers device).map .judged
  | .storePriority address priority =>
      (manager.storePriority answers address priority).map .judged
  | .propertyChanged path property =>
      (manager.propertyChanged answers path property).map fun _ => .done
  | .commit device previous current => (manager.commit device previous current).map .judged

/-- Performs operations in turn, each with the answers of its time, and collects
the replies. -/
def run (manager : Manager) : List (Collaborators × Operation) → Outcome Manager (List Reply)
  | [] => .quiet [] manager
  | (answers, operation) :: rest =>
      (manager.perform answers operation).andThen fun reply next =>
        (next.run rest).map (reply :: ·)

end Manager

end AudioHost
