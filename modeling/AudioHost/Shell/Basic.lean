import AudioHost.Manager.Dispatch
import AudioHost.Shell.Channel

/-!
# The shell

Around the manager stand three channels, a clock, a wake-up signal and three
workers: one applies events, one serves requests, one sleeps until the next
automatic connect is due. The workers start together with the manager and may
be stopped; once stopped they do not come back.
-/

set_option autoImplicit false

namespace AudioHost

/-- What the worker of automatic connects is doing. -/
inductive Sleeper where
  /-- It is about to look at the deadlines. -/
  | awake
  /-- It waits for a deadline, if there is one, or for the wake-up signal. -/
  | asleep (deadline : Option Instant)
  deriving DecidableEq

/-- The state of the three workers. -/
structure Workers where
  /-- A response that found the response channel full. No further request is served
  until it is sent. -/
  held : Option Response
  sleeper : Sleeper
  deriving DecidableEq

/-- How far the host has come. -/
inductive Stage where
  /-- There is no manager. -/
  | absent
  /-- There is a manager, but nobody runs it. -/
  | idle (manager : Manager)
  /-- The workers run. -/
  | running (manager : Manager) (workers : Workers)
  deriving DecidableEq

/-- The manager of a stage. -/
def Stage.manager? : Stage → Option Manager
  | absent => none
  | idle manager => some manager
  | running manager _ => some manager

/-- The whole host. -/
structure Shell where
  stage : Stage
  events : Channel Event
  requests : Channel Request
  responses : Channel Response
  /-- A deadline was set or moved, and the sleeper has not noticed yet. -/
  signal : Bool
  clock : Instant
  deriving DecidableEq

namespace Shell

/-- The host when it is started: nothing but a clock at zero. -/
def boot : Shell := ⟨.absent, .empty, .empty, .empty, false, .zero⟩

/-- Makes a manager, unless there is one. -/
def initialize? (shell : Shell) (setup : Setup) : Except Refusal Shell :=
  match shell.stage with
  | .absent => .ok { shell with stage := .idle (.new setup) }
  | .idle _ | .running _ _ => .error .alreadyInitialized

/-- Makes a manager and starts the workers, unless there is a manager. If the
adapter is on already, the bonded devices are tracked before anything else. -/
def start (shell : Shell) (answers : Collaborators) (setup : Setup) :
    Outcome Shell (Except Refusal Unit) :=
  match shell.stage with
  | .absent =>
      let populated :=
        if answers.adapterEnabled then (Manager.new setup).scanBonded answers
        else .quiet () (Manager.new setup)
      ⟨.ok (), { shell with stage := .running populated.state ⟨none, .awake⟩ },
        populated.journal⟩
  | .idle _ | .running _ _ => .quiet (.error .alreadyInitialized) shell

/-- Stops the workers. A response that one of them holds is lost. -/
def stop (shell : Shell) : Shell :=
  match shell.stage with
  | .running manager _ => { shell with stage := .idle manager }
  | .absent | .idle _ => shell

/-- Moves the clock. -/
def advance (shell : Shell) (delay : Duration) : Except ClockOverflow Shell :=
  match shell.clock.after? delay with
  | some clock => .ok { shell with clock }
  | none => .error .beyondLastReading

/-- Queues an event, if there is room. -/
def post? (shell : Shell) (event : Event) : Option Shell :=
  (shell.events.send? event).map fun events => { shell with events }

/-- Queues a request, if there is room. -/
def submit? (shell : Shell) (request : Request) : Option Shell :=
  (shell.requests.send? request).map fun requests => { shell with requests }

/-- Takes the oldest response, whoever it was meant for. -/
def collect? (shell : Shell) : Option (Response × Shell) :=
  shell.responses.receive?.map fun (response, responses) => (response, { shell with responses })

/-- The listing of the tracked devices. It is read from the manager directly. -/
def listing (shell : Shell) : Except Refusal String :=
  match shell.stage.manager? with
  | some manager => .ok manager.sinks.listing
  | none => .error .notInitialized

/-- Writes the listing where `room` bytes are left. That it may be cut short is not
a refusal. -/
def writeListing (shell : Shell) (room : Nat) : Except Refusal (BoundedText room) :=
  match shell.stage.manager? with
  | some manager => .ok (manager.sinks.writeListing room).1
  | none => .error .notInitialized

end Shell

end AudioHost
