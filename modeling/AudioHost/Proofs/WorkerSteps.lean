import AudioHost.Proofs.Outcome
import AudioHost.Shell.History

/-!
# What the workers do

Each step of a worker takes one message or none, hands at most one operation to the
manager, and changes one thing about the workers. All laws about histories of the host
are read off these five cases.
-/

set_option autoImplicit false

namespace AudioHost.Shell

variable {shell next : Shell} {manager : Manager} {workers : Workers}
  {answers : Collaborators} {kind : WorkerStep} {progress : Progress}
  {task : Option Operation} {written : List JournalEntry}

/-- The successful steps of the workers of a running host, with what each of them hands
to the manager. -/
inductive Works (answers : Collaborators) (shell : Shell) (manager : Manager)
    (workers : Workers) : Option Operation → List JournalEntry → Shell → Prop where
  | applyEvent {event : Event} {events : Channel Event} {moved : Bool}
      (oldest : shell.events.queued = event :: events.queued)
      (sound : (manager.applyEvent answers shell.clock event).result = .ok moved) :
      Works answers shell manager workers (some (.event event shell.clock))
        (manager.applyEvent answers shell.clock event).journal
        { shell with
          stage := .running (manager.applyEvent answers shell.clock event).state workers
          events
          signal := shell.signal || moved }
  | sendHeld {response : Response} {responses : Channel Response}
      (held : workers.held = some response)
      (sent : responses.queued = shell.responses.queued ++ [response]) :
      Works answers shell manager workers none []
        { shell with stage := .running manager { workers with held := none }, responses }
  | serveRequest {request : Request} {requests : Channel Request} {held : Option Response}
      {responses : Channel Response} (free : workers.held = none)
      (oldest : shell.requests.queued = request :: requests.queued)
      (delivered : responses.queued ++ held.toList =
        shell.responses.queued ++ [(manager.serve answers request).result]) :
      Works answers shell manager workers (some (.request request))
        (manager.serve answers request).journal
        { shell with
          stage := .running (manager.serve answers request).state { workers with held }
          requests
          responses }
  | fallAsleep (awake : workers.sleeper = .awake) :
      Works answers shell manager workers none []
        { shell with
          stage := .running manager
            { workers with sleeper := .asleep manager.earliestDeadline? } }
  | wake {deadline : Option Instant} (asleep : workers.sleeper = .asleep deadline)
      (called : deadlineReached deadline shell.clock = true ∨ shell.signal = true) :
      Works answers shell manager workers (some (.fireDue shell.clock))
        (manager.fireDue answers shell.clock).journal
        { shell with
          stage := .running (manager.fireDue answers shell.clock).state
            { workers with sleeper := .awake }
          signal := shell.signal && deadlineReached deadline shell.clock }

theorem Works.of_task {operation : Operation}
    (works : Works answers shell manager workers (some operation) written next) :
    operation.isRouted = true ∧ written = (manager.perform answers operation).journal ∧
      ∃ after, next.stage = .running (manager.perform answers operation).state after := by
  cases works with
  | applyEvent | serveRequest | wake => exact ⟨rfl, rfl, _, rfl⟩

theorem works_of_step? (running : shell.stage = .running manager workers)
    (possible : shell.step? answers kind = some progress) (sound : progress.result = .ok ()) :
    Works answers shell manager workers (shell.task? kind) progress.journal progress.state := by
  cases kind with
  | applyEvent =>
      simp only [step?, running, applyEvent?] at possible
      obtain ⟨⟨event, events⟩, received, rfl⟩ := Option.map_eq_some_iff.mp possible
      have oldest := Channel.queued_of_receive?_eq_some received
      cases applied : (manager.applyEvent answers shell.clock event).result with
      | error cause => simp [applied, Except.map] at sound
      | ok moved =>
          have signal : ((Except.ok moved : Except ClockOverflow Bool).toOption == some true) =
              moved := by cases moved <;> rfl
          simp only [task?, oldest, List.head?_cons, Option.map_some, signal]
          exact .applyEvent oldest applied
  | sendHeld =>
      simp only [step?, running, sendHeld?] at possible
      obtain ⟨response, held, sent⟩ := Option.bind_eq_some_iff.mp possible
      obtain ⟨responses, room, rfl⟩ := Option.map_eq_some_iff.mp sent
      exact .sendHeld held (Channel.queued_of_send?_eq_some room)
  | serveRequest =>
      obtain ⟨_ | response, sleeper⟩ := workers
      case some => simp [step?, running, serveRequest?] at possible
      simp only [step?, running, serveRequest?, Option.isSome_none, Bool.false_eq_true,
        if_false] at possible
      obtain ⟨⟨request, requests⟩, received, rfl⟩ := Option.map_eq_some_iff.mp possible
      have oldest := Channel.queued_of_receive?_eq_some received
      simp only [task?, oldest, List.head?_cons, Option.map_some]
      cases room : shell.responses.send? (manager.serve answers request).result with
      | some responses =>
          exact .serveRequest rfl oldest (by simp [Channel.queued_of_send?_eq_some room])
      | none => exact .serveRequest rfl oldest rfl
  | fallAsleep =>
      simp only [step?, running, fallAsleep?] at possible
      split at possible
      · next awake =>
          cases possible
          exact .fallAsleep awake
      · cases possible
  | wake =>
      simp only [step?, running, wake?] at possible
      split at possible
      · cases possible
      next deadline asleep =>
      split at possible
      · next called =>
          cases possible
          exact .wake asleep (by simpa using called)
      · cases possible

/-! ## Waiting -/

theorem nextStep?_eq_none_iff :
    shell.nextStep? answers = none ↔ ∀ kind, shell.step? answers kind = none := by
  unfold nextStep?
  rw [List.findSome?_eq_none_iff]
  constructor
  · intro waits kind
    exact waits kind (by cases kind <;> decide)
  · exact fun waits kind _ => waits kind

/-- No request is served while a response is held. -/
theorem serveRequest_waits_of_held (running : shell.stage = .running manager workers)
    {response : Response} (held : workers.held = some response) :
    shell.step? answers .serveRequest = none := by
  simp [step?, running, serveRequest?, held]

theorem sendHeld_waits_iff (running : shell.stage = .running manager workers)
    {response : Response} (held : workers.held = some response) :
    shell.step? answers .sendHeld = none ↔
      shell.responses.queued.length = Limits.channelSlots := by
  simp [step?, running, sendHeld?, held, Channel.send?_eq_none_iff]

theorem serveRequest_waits_iff (running : shell.stage = .running manager workers)
    (free : workers.held = none) :
    shell.step? answers .serveRequest = none ↔ shell.requests.queued = [] := by
  simp [step?, running, serveRequest?, free, Channel.receive?_eq_none_iff]

theorem fallAsleep_waits_iff (running : shell.stage = .running manager workers) :
    shell.step? answers .fallAsleep = none ↔ ∃ deadline, workers.sleeper = .asleep deadline := by
  cases sleeper : workers.sleeper <;> simp [step?, running, fallAsleep?, sleeper]

theorem wake_waits_iff (running : shell.stage = .running manager workers)
    {deadline : Option Instant} (asleep : workers.sleeper = .asleep deadline) :
    shell.step? answers .wake = none ↔
      deadlineReached deadline shell.clock = false ∧ shell.signal = false := by
  simp [step?, running, wake?, asleep]

/-- Moving the clock changes nothing else. -/
theorem eq_of_advance {later : Shell} {delay : Duration} (shows : shell.advance delay = .ok later) :
    ∃ clock, later = { shell with clock } := by
  unfold advance at shows
  split at shows
  · next clock _ =>
      cases shows
      exact ⟨clock, rfl⟩
  · cases shows

theorem Step.works (step : Step shell (.worked answers task) written next)
    (running : shell.stage = .running manager workers) :
    Works answers shell manager workers task written next := by
  cases step with
  | work _ possible sound => exact works_of_step? running possible sound

end AudioHost.Shell
