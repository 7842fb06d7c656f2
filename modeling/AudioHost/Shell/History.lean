import AudioHost.Manager.Operation
import AudioHost.Shell.Worker

/-!
# Histories of the host

What happens around a host: callers queue events and requests, take responses and may
give up waiting, the clock moves, and the workers take their steps in any order, each
with the answers that the collaborators give at its time.
-/

set_option autoImplicit false

namespace AudioHost

/-- One thing that happens. Calls are told apart by numbers. -/
inductive Happening where
  /-- An event is queued. -/
  | posted (event : Event)
  /-- A call queues its request. -/
  | asked (call : Nat) (request : Request)
  /-- A call takes a response and is over. -/
  | took (call : Nat) (response : Response)
  /-- A call gives up waiting. -/
  | abandoned (call : Nat)
  | elapsed (delay : Duration)
  /-- A worker takes a step and performs an operation of the manager with it, unless the
  step only concerns the worker itself. -/
  | worked (answers : Collaborators) (task : Option Operation)

namespace Happening

def post? : Happening → Option Event
  | posted event => some event
  | _ => none

def ask? : Happening → Option (Nat × Request)
  | asked call request => some (call, request)
  | _ => none

def take? : Happening → Option (Nat × Response)
  | took call response => some (call, response)
  | _ => none

def task? : Happening → Option (Collaborators × Operation)
  | worked answers task => task.map (answers, ·)
  | _ => none

def call? : Happening → Option Nat
  | asked call _ | took call _ | abandoned call => some call
  | _ => none

def posts (history : List Happening) : List Event := history.filterMap post?

def asks (history : List Happening) : List (Nat × Request) := history.filterMap ask?

def takes (history : List Happening) : List (Nat × Response) := history.filterMap take?

/-- The operations that the manager performed, with the answers of their time. -/
def tasks (history : List Happening) : List (Collaborators × Operation) :=
  history.filterMap task?

end Happening

namespace Shell

/-- The operation of the manager that a worker step comes down to. -/
def task? (shell : Shell) : WorkerStep → Option Operation
  | .applyEvent => shell.events.queued.head?.map fun event => .event event shell.clock
  | .serveRequest => shell.requests.queued.head?.map .request
  | .wake => some (.fireDue shell.clock)
  | .sendHeld | .fallAsleep => none

/-- `Step shell happening journal next`: the host lets something happen, which writes the
journal and leaves the host as `next`. What finds no room or no response has to wait, and
a step that stops the host by a clock overflow is none. -/
inductive Step : Shell → Happening → List JournalEntry → Shell → Prop where
  | post {shell posted : Shell} {event : Event} (room : shell.post? event = some posted) :
      Step shell (.posted event) [] posted
  | ask {shell submitted : Shell} {call : Nat} {request : Request}
      (room : shell.submit? request = some submitted) :
      Step shell (.asked call request) [] submitted
  | take {shell collected : Shell} {call : Nat} {response : Response}
      (ready : shell.collect? = some (response, collected)) :
      Step shell (.took call response) [] collected
  | abandon {shell : Shell} {call : Nat} : Step shell (.abandoned call) [] shell
  | elapse {shell later : Shell} {delay : Duration} (shows : shell.advance delay = .ok later) :
      Step shell (.elapsed delay) [] later
  | work {shell : Shell} {answers : Collaborators} (kind : WorkerStep) {progress : Progress}
      (possible : shell.step? answers kind = some progress) (sound : progress.result = .ok ()) :
      Step shell (.worked answers (shell.task? kind)) progress.journal progress.state

/-- Things happen one after another. -/
inductive Runs : Shell → List Happening → List JournalEntry → Shell → Prop where
  | rest (shell : Shell) : Runs shell [] [] shell
  | next {shell middle final : Shell} {happening : Happening} {history : List Happening}
      {written journal : List JournalEntry} (step : Step shell happening written middle)
      (others : Runs middle history journal final) :
      Runs shell (happening :: history) (written ++ journal) final

end Shell

end AudioHost
