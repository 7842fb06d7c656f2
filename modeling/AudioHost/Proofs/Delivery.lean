import AudioHost.Proofs.Turn
import AudioHost.Proofs.WorkerSteps
import AudioHost.Shell.Call

/-!
# Delivery

The channels lose, double and reorder nothing: what was queued is what was taken, in the
same order, and what is still there. Between the requests and the responses stands the
manager, whose operations are those of a run of its own.
-/

set_option autoImplicit false

namespace AudioHost

/-! ## What passes through -/

def Stage.held? : Stage → Option Response
  | absent | idle _ => none
  | running _ workers => workers.held

/-- The responses that nobody has taken yet, the one that found no room last. -/
def Shell.underway (shell : Shell) : List Response :=
  shell.responses.queued ++ shell.stage.held?.toList

def Operation.event? : Operation → Option Event
  | event applied _ => some applied
  | _ => none

def Operation.events (tasks : List (Collaborators × Operation)) : List Event :=
  tasks.filterMap fun task => task.2.event?

/-- A request that a turn serves, with the response that the manager gives. -/
def Turn.exchange? (turn : Turn) : Option (Request × Response) :=
  match turn.operation with
  | .request request => some (request, (turn.manager.serve turn.answers request).result)
  | _ => none

/-- The requests of a run of the manager in order, each with its response. -/
def Manager.exchanges (manager : Manager) (tasks : List (Collaborators × Operation)) :
    List (Request × Response) :=
  (manager.turns tasks).filterMap Turn.exchange?

open Happening

/-- What a history does to a host whose workers run is what its operations do to the
manager, and everything queued has been taken or is still queued, in the same order. -/
structure Shell.Delivers (shell : Shell) (manager : Manager) (history : List Happening)
    (journal : List JournalEntry) (final : Shell) : Prop where
  stage : ∃ workers, final.stage = .running (manager.run (tasks history)).state workers
  journal : journal = (manager.run (tasks history)).journal
  events : shell.events.queued ++ posts history =
    Operation.events (tasks history) ++ final.events.queued
  requests : shell.requests.queued ++ (asks history).map Prod.snd =
    (manager.exchanges (tasks history)).map Prod.fst ++ final.requests.queued
  responses : shell.underway ++ (manager.exchanges (tasks history)).map Prod.snd =
    (takes history).map Prod.snd ++ final.underway

namespace Shell

variable {shell middle final : Shell} {manager : Manager} {workers : Workers}
  {happening : Happening} {history front back : List Happening}
  {answers : Collaborators} {operation : Operation} {task : Option Operation}
  {written journal : List JournalEntry}

theorem underway_of_running (running : shell.stage = .running manager workers) :
    shell.underway = shell.responses.queued ++ workers.held.toList := by
  rw [underway, running]
  rfl

/-! ## Single steps -/

private theorem delivers_of_no_task (idle : happening.task? = none)
    (stage : final.stage = .running manager workers)
    (events : final.events.queued = shell.events.queued ++ happening.post?.toList)
    (requests : final.requests.queued =
      shell.requests.queued ++ happening.ask?.toList.map Prod.snd)
    (responses : shell.underway = happening.take?.toList.map Prod.snd ++ final.underway) :
    shell.Delivers manager [happening] [] final := by
  have single : ∀ {Item : Type} (view : Happening → Option Item),
      [happening].filterMap view = (view happening).toList := fun view => by
    cases seen : view happening <;> simp [seen]
  have none : tasks [happening] = [] := (single Happening.task?).trans (by simp [idle])
  constructor
  · rw [none]
    exact ⟨workers, stage⟩
  · rw [none]
    rfl
  · rw [posts, single, events, none]
    rfl
  · rw [asks, single, requests, none]
    rfl
  · rw [takes, single, none, ← responses]
    exact List.append_nil _

/-- The manager performs an operation, and nobody outside is concerned. -/
private theorem delivers_of_task
    (stage : final.stage = .running (manager.perform answers operation).state workers)
    (journal : written = (manager.perform answers operation).journal)
    (events : shell.events.queued = operation.event?.toList ++ final.events.queued)
    (requests : shell.requests.queued =
      (Turn.exchange? ⟨manager, answers, operation⟩).toList.map Prod.fst ++
        final.requests.queued)
    (responses : final.underway = shell.underway ++
      (Turn.exchange? ⟨manager, answers, operation⟩).toList.map Prod.snd) :
    shell.Delivers manager [.worked answers (some operation)] written final := by
  have exchanged : manager.exchanges [(answers, operation)] =
      (Turn.exchange? ⟨manager, answers, operation⟩).toList := by
    unfold Manager.exchanges Manager.turns Manager.turns
    cases seen : Turn.exchange? ⟨manager, answers, operation⟩ <;> simp [seen]
  have applied : Operation.events [(answers, operation)] = operation.event?.toList := by
    unfold Operation.events
    cases seen : operation.event? <;> simp [seen]
  constructor
  · exact ⟨workers, stage⟩
  · exact journal.trans (List.append_nil _).symm
  · rw [events]
    exact (List.append_nil _).trans (congrArg (· ++ _) applied.symm)
  · rw [requests]
    exact (List.append_nil _).trans (congrArg (List.map Prod.fst · ++ _) exchanged.symm)
  · rw [responses]
    exact congrArg (_ ++ List.map Prod.snd ·) exchanged

theorem Works.delivers (running : shell.stage = .running manager workers)
    (works : Works answers shell manager workers task written final) :
    shell.Delivers manager [.worked answers task] written final := by
  have underway := underway_of_running running
  cases works with
  | applyEvent oldest sound =>
      exact delivers_of_task rfl rfl oldest rfl (by rw [underway]; exact (List.append_nil _).symm)
  | sendHeld held sent =>
      refine delivers_of_no_task rfl rfl (List.append_nil _).symm (List.append_nil _).symm ?_
      rw [underway, underway_of_running rfl, held, sent]
      exact (List.append_nil _).symm
  | serveRequest free oldest delivered =>
      refine delivers_of_task rfl rfl rfl oldest ?_
      rw [underway, underway_of_running rfl, free, delivered, List.append_assoc]
      rfl
  | fallAsleep awake =>
      exact delivers_of_no_task rfl rfl (List.append_nil _).symm (List.append_nil _).symm underway
  | wake asleep called =>
      exact delivers_of_task rfl rfl rfl rfl (by rw [underway]; exact (List.append_nil _).symm)

theorem Step.delivers (running : shell.stage = .running manager workers)
    (step : Step shell happening written final) :
    shell.Delivers manager [happening] written final := by
  cases step with
  | work _ possible sound => exact (works_of_step? running possible sound).delivers running
  | post room =>
      obtain ⟨events, sent, rfl⟩ := Option.map_eq_some_iff.mp room
      exact delivers_of_no_task rfl running (Channel.queued_of_send?_eq_some sent)
        (List.append_nil _).symm rfl
  | ask room =>
      obtain ⟨requests, sent, rfl⟩ := Option.map_eq_some_iff.mp room
      exact delivers_of_no_task rfl running (List.append_nil _).symm
        (Channel.queued_of_send?_eq_some sent) rfl
  | take ready =>
      obtain ⟨⟨response, responses⟩, received, same⟩ := Option.map_eq_some_iff.mp ready
      obtain ⟨rfl, rfl⟩ := Prod.mk.inj same
      refine delivers_of_no_task rfl running (List.append_nil _).symm (List.append_nil _).symm ?_
      rw [Shell.underway, Channel.queued_of_receive?_eq_some received]
      rfl
  | abandon =>
      exact delivers_of_no_task rfl running (List.append_nil _).symm (List.append_nil _).symm rfl
  | elapse shows =>
      obtain ⟨clock, rfl⟩ := eq_of_advance shows
      exact delivers_of_no_task rfl running (List.append_nil _).symm (List.append_nil _).symm rfl

/-! ## Histories -/

theorem Delivers.trans (first : shell.Delivers manager front written middle)
    (second : middle.Delivers (manager.run (tasks front)).state back journal final) :
    shell.Delivers manager (front ++ back) (written ++ journal) final := by
  have tasked : tasks (front ++ back) = tasks front ++ tasks back := List.filterMap_append
  have exchanged : manager.exchanges (tasks (front ++ back)) = manager.exchanges (tasks front) ++
      (manager.run (tasks front)).state.exchanges (tasks back) := by
    unfold Manager.exchanges
    rw [tasked, Manager.turns_append, List.filterMap_append]
  constructor
  · rw [tasked, Manager.state_run_append]
    exact second.stage
  · rw [tasked, Manager.journal_run_append, first.journal, second.journal]
  · have posted : posts (front ++ back) = posts front ++ posts back := List.filterMap_append
    have applied : Operation.events (tasks (front ++ back)) =
        Operation.events (tasks front) ++ Operation.events (tasks back) := by
      rw [tasked]
      exact List.filterMap_append
    rw [posted, applied, ← List.append_assoc, first.events, List.append_assoc, second.events,
      List.append_assoc]
  · have asked : asks (front ++ back) = asks front ++ asks back := List.filterMap_append
    rw [asked, exchanged, List.map_append, List.map_append, ← List.append_assoc, first.requests,
      List.append_assoc, second.requests, List.append_assoc]
  · have taken : takes (front ++ back) = takes front ++ takes back := List.filterMap_append
    rw [taken, exchanged, List.map_append, List.map_append, ← List.append_assoc, first.responses,
      List.append_assoc, second.responses, List.append_assoc]

theorem Runs.delivers (running : shell.stage = .running manager workers)
    (runs : Runs shell history journal final) :
    shell.Delivers manager history journal final := by
  induction runs generalizing manager workers with
  | rest shell =>
      exact
        { stage := ⟨workers, running⟩
          journal := rfl
          events := List.append_nil _
          requests := List.append_nil _
          responses := List.append_nil _ }
  | next step _ ih =>
      have first := step.delivers running
      obtain ⟨_, middle⟩ := first.stage
      exact first.trans (ih middle)

end Shell

end AudioHost
