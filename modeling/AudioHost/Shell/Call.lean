import AudioHost.Shell.Basic

/-!
# Calls

A caller queues a request and then takes one response, or queues an event. Both may
have to wait. A response of another kind than the request calls for is an error of
its own; a refusal is passed on as it is.
-/

set_option autoImplicit false

namespace AudioHost

/-- A request together with the reading of its response. -/
structure Query (Answer : Type) where
  request : Request
  read : Response → Except Refusal Answer

namespace Query

/-- Reads a response that should have no content. -/
def readDone : Response → Except Refusal Unit
  | .done => .ok ()
  | .refused cause => .error cause
  | .connected _ | .state _ | .priority _ | .activeCount _ => .error .unexpectedResponse

/-- Asks to connect a device. -/
def connect (device : Address) : Query Unit := ⟨.connect device, readDone⟩

/-- Asks to disconnect a device. -/
def disconnect (device : Address) : Query Unit := ⟨.disconnect device, readDone⟩

/-- Asks for the devices that audio reaches. -/
def connected : Query (List Address) where
  request := .connected
  read
    | .connected devices => .ok devices
    | .refused cause => .error cause
    | .done | .state _ | .priority _ | .activeCount _ => .error .unexpectedResponse

/-- Asks for the state of a device. -/
def stateOf (device : Address) : Query SinkState where
  request := .stateOf device
  read
    | .state state => .ok state
    | .refused cause => .error cause
    | .done | .connected _ | .priority _ | .activeCount _ => .error .unexpectedResponse

/-- Asks for the stored priority of a device. -/
def priorityOf (device : Address) : Query Priority where
  request := .priorityOf device
  read
    | .priority priority => .ok priority
    | .refused cause => .error cause
    | .done | .connected _ | .state _ | .activeCount _ => .error .unexpectedResponse

/-- Asks to store the priority of the device that a text denotes. -/
def storePriority? (address : String) (priority : Priority) : Except Refusal (Query Unit) :=
  match Request.storePriority? address priority with
  | .ok request => .ok ⟨request, readDone⟩
  | .error cause => .error cause

/-- Asks for the count of connected sinks. -/
def activeCount : Query UInt32 where
  request := .activeCount
  read
    | .activeCount count => .ok count
    | .refused cause => .error cause
    | .done | .connected _ | .state _ | .priority _ => .error .unexpectedResponse

end Query

/-- What the answer to a request tells. -/
def Request.Answer : Request → Type
  | .connect _ | .disconnect _ | .storePriority _ _ => Unit
  | .connected => List Address
  | .stateOf _ => SinkState
  | .priorityOf _ => Priority
  | .activeCount => UInt32

/-- The query that a request belongs to. -/
def Query.ofRequest : (request : Request) → Query request.Answer
  | .connect device => connect device
  | .disconnect device => disconnect device
  | .storePriority address priority => ⟨.storePriority address priority, readDone⟩
  | .connected => connected
  | .stateOf device => stateOf device
  | .priorityOf device => priorityOf device
  | .activeCount => activeCount

/-- What a caller still has to do. -/
inductive Call where
  /-- Queue an event. -/
  | post (event : Event)
  /-- Queue a request and take a response. -/
  | ask (request : Request)
  /-- Take a response; the request is queued. -/
  | await
  deriving DecidableEq

/-- How a call ends. -/
inductive CallEnd where
  /-- The event is queued. -/
  | posted
  /-- A response was taken. -/
  | answered (response : Response)
  deriving DecidableEq

/-- Reads what a call ends with. A call that only queued something has no answer. -/
def Query.readEnd {Answer : Type} (query : Query Answer) : CallEnd → Except Refusal Answer
  | .answered response => query.read response
  | .posted => .error .unexpectedResponse

namespace Call

/-- Takes a call as far as it goes: to its end, or to what is left of it. -/
def advance (shell : Shell) : Call → Except Call CallEnd × Shell
  | post event =>
      match shell.post? event with
      | some posted => (.ok .posted, posted)
      | none => (.error (post event), shell)
  | await => takeResponse shell
  | ask request =>
      match shell.submit? request with
      | some submitted => takeResponse submitted
      | none => (.error (ask request), shell)
where
  takeResponse (shell : Shell) : Except Call CallEnd × Shell :=
    match shell.collect? with
    | some (response, collected) => (.ok (.answered response), collected)
    | none => (.error await, shell)

end Call

end AudioHost
