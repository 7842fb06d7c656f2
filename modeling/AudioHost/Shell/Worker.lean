import AudioHost.Shell.Basic

/-!
# The workers

Each step of a worker is one uninterrupted piece of work on the manager. A step
is possible or not; when none is, all workers wait.
-/

set_option autoImplicit false

namespace AudioHost

/-- The steps of the workers. -/
inductive WorkerStep where
  /-- The oldest event is applied. -/
  | applyEvent
  /-- The held response is sent. -/
  | sendHeld
  /-- The oldest request is served, and its response is sent or held. -/
  | serveRequest
  /-- The sleeper looks at the deadlines and goes to sleep. -/
  | fallAsleep
  /-- The sleeper wakes and fires what is due. -/
  | wake
  deriving DecidableEq

namespace WorkerStep

/-- Every step, in the order in which the workers get their turns. -/
def all : List WorkerStep := [applyEvent, sendHeld, serveRequest, fallAsleep, wake]

end WorkerStep

namespace Shell

/-- What a worker step comes to. -/
abbrev Progress := Outcome Shell (Except ClockOverflow Unit)

/-- Applies the oldest event. A deadline that was set or moved raises the signal. -/
def applyEvent? (answers : Collaborators) (shell : Shell) (manager : Manager)
    (workers : Workers) : Option Progress :=
  shell.events.receive?.map fun (event, events) =>
    let applied := manager.applyEvent answers shell.clock event
    { result := applied.result.map fun _ => ()
      state :=
        { shell with
          stage := .running applied.state workers
          events
          signal := shell.signal || applied.result.toOption == some true }
      journal := applied.journal }

/-- Sends the held response, if there is room. -/
def sendHeld? (shell : Shell) (manager : Manager) (workers : Workers) :
    Option Progress :=
  workers.held.bind fun response =>
    (shell.responses.send? response).map fun responses =>
      .quiet (.ok ())
        { shell with stage := .running manager { workers with held := none }, responses }

/-- Serves the oldest request, unless a response is held. -/
def serveRequest? (answers : Collaborators) (shell : Shell) (manager : Manager)
    (workers : Workers) : Option Progress :=
  if workers.held.isSome then none
  else
    shell.requests.receive?.map fun (request, requests) =>
      let served := manager.serve answers request
      { result := .ok ()
        state :=
          match shell.responses.send? served.result with
          | some responses =>
              { shell with stage := .running served.state workers, requests, responses }
          | none =>
              { shell with
                stage := .running served.state { workers with held := some served.result }
                requests }
        journal := served.journal }

/-- Lets the sleeper look at the deadlines. -/
def fallAsleep? (shell : Shell) (manager : Manager) (workers : Workers) :
    Option Progress :=
  match workers.sleeper with
  | .awake =>
      some (.quiet (.ok ())
        { shell with
          stage := .running manager
            { workers with sleeper := .asleep manager.earliestDeadline? } })
  | .asleep _ => none

/-- Whether the deadline that the sleeper waits for has come. -/
def deadlineReached (deadline : Option Instant) (clock : Instant) : Bool :=
  match deadline with
  | some deadline => decide (deadline ≤ clock)
  | none => false

/-- Wakes the sleeper, by its deadline or else by the signal, which is then used up. -/
def wake? (answers : Collaborators) (shell : Shell) (manager : Manager)
    (workers : Workers) : Option Progress :=
  match workers.sleeper with
  | .awake => none
  | .asleep deadline =>
      if deadlineReached deadline shell.clock || shell.signal then
        let fired := manager.fireDue answers shell.clock
        some
          { result := .ok ()
            state :=
              { shell with
                stage := .running fired.state { workers with sleeper := .awake }
                signal := shell.signal && deadlineReached deadline shell.clock }
            journal := fired.journal }
      else none

/-- A step of the workers, if it is possible. -/
def step? (answers : Collaborators) (shell : Shell) (kind : WorkerStep) : Option Progress :=
  match shell.stage with
  | .absent | .idle _ => none
  | .running manager workers =>
      match kind with
      | .applyEvent => shell.applyEvent? answers manager workers
      | .sendHeld => shell.sendHeld? manager workers
      | .serveRequest => shell.serveRequest? answers manager workers
      | .fallAsleep => shell.fallAsleep? manager workers
      | .wake => shell.wake? answers manager workers

/-- The step of the worker whose turn it is; `none` when all of them wait. -/
def nextStep? (answers : Collaborators) (shell : Shell) : Option Progress :=
  WorkerStep.all.findSome? (shell.step? answers)

/-- A number of steps after which the workers wait, if nothing new arrives: one
for each event and each request, one for a held response, three for falling asleep
and two for waking. -/
def workload (shell : Shell) : Nat :=
  shell.events.queued.length + shell.requests.queued.length + 6

end Shell

end AudioHost
