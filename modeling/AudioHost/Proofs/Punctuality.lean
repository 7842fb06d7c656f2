import AudioHost.Proofs.Delivery
import AudioHost.Proofs.Triggers

/-!
# Automatic connects come on time

The sleeper never sleeps past a deadline: while it sleeps, it waits for the earliest
deadline there is, or the signal is up. And no device is touched by a batch before its
deadline.
-/

set_option autoImplicit false

namespace AudioHost

/-! ## Devices that are left alone -/

/-- The device that an effect is about. -/
def Effect.device? : Effect → Option Address
  | connect device _ _ | disconnect device _ _ | storePriority device _ _
  | stateChanged device _ _ => some device
  | becomingNoisy | audioEnabled _ => none

namespace Act

variable {answers : Collaborators} {act : Act} {before after : Manager}
  {written : List JournalEntry} {device : Address}

/-- The acts of a batch that have nothing to do with a device. -/
def Spares (device : Address) : Act → Prop
  | connect other _ | enroll other _ => other ≠ device
  | reschedule _ => True
  | _ => False

private theorem Step.of_spares (step : Step answers act before written after)
    (spares : act.Spares device) :
    after.sinks.get? device = before.sinks.get? device ∧
      ∀ entry ∈ written, entry.effect.device? ≠ some device := by
  cases step with
  | reschedule => exact ⟨rfl, by simp⟩
  | connect _ _ _ =>
      have other : _ ≠ device := spares
      exact ⟨rfl, by simpa [Effect.device?] using other⟩
  | enroll untracked taken =>
      have other : _ ≠ device := spares
      refine ⟨?_, fun entry member => ?_⟩
      · rw [Manager.sinks_afterChange, BoundedMap.get?_of_insert?_eq_some taken,
          if_neg other.symm]
      · obtain ⟨_, _, ⟨noisy, _⟩ | changed⟩ := Manager.mem_changeJournal member
        · simp [noisy, Effect.device?]
        · simpa [changed, Effect.device?] using other
  | disconnect _ _ | storePriority | tellAudio | overwrite _ | report _ | forget _ | recount =>
      cases spares

end Act

/-! ## Operations and deadlines -/

namespace Manager

variable {manager : Manager} {answers : Collaborators} {now : Instant} {device : Address}

private theorem pending_applyEvent {event : Event}
    (unmoved : (manager.applyEvent answers now event).result = .ok false) :
    (manager.applyEvent answers now event).state.pending = manager.pending := by
  let turn : Turn := ⟨manager, answers, .event event now⟩
  have refused : ∀ device time, ¬ turn.Triggers device time := by
    rintro device time ⟨_, accepted⟩
    change Reply.ofScheduling (manager.applyEvent answers now event).result = _ at accepted
    rw [unmoved] at accepted
    cases accepted
  have quiet : turn.outcome.state.pending = manager.pending :=
    Turn.pending_of_quiet rfl refused fun _ fires => by cases fires
  exact quiet

private theorem pending_serve (manager : Manager) (answers : Collaborators) (request : Request) :
    (manager.serve answers request).state.pending = manager.pending := by
  let turn : Turn := ⟨manager, answers, .request request⟩
  have quiet : turn.outcome.state.pending = manager.pending :=
    Turn.pending_of_quiet rfl (fun _ _ triggers => by cases triggers.1) fun _ fires => by
      cases fires
  exact quiet

theorem pending_fireDue (manager : Manager) (answers : Collaborators) (now : Instant) :
    (manager.fireDue answers now).state.pending = (manager.pending.drain now).2 := by
  let turn : Turn := ⟨manager, answers, .fireDue now⟩
  have drained : turn.outcome.state.pending = (manager.pending.drain now).2 :=
    Turn.pending_of_fires rfl
  exact drained

/-- A batch leaves a device alone whose deadline is still ahead. -/
private theorem fireDue_spares (early : device ∉ manager.pending.due now) :
    (manager.fireDue answers now).state.pending.deadlineOf? device =
        manager.pending.deadlineOf? device ∧
      (manager.fireDue answers now).state.sinks.get? device = manager.sinks.get? device ∧
      ∀ entry ∈ (manager.fireDue answers now).journal, entry.effect.device? ≠ some device := by
  have acts := fireDue_byActs manager answers now
  have spares : ∀ act, Act.InBatch manager answers now act → act.Spares device := by
    rintro act (rfl | connecting)
    · trivial
    · cases act with
      | connect other path =>
          rintro rfl
          exact early connecting.1
      | enroll other reading =>
          rintro rfl
          exact early connecting.1.1
      | _ => exact connecting.elim
  refine ⟨?_, ?_, fun entry member => ?_⟩
  · rw [pending_fireDue, PendingConnects.deadlineOf?_drain_eq_ite, if_neg early]
  · have kept : ∀ {act before written after}, Act.InBatch manager answers now act →
        Act.Step answers act before written after →
        before.sinks.get? device = manager.sinks.get? device →
        after.sinks.get? device = manager.sinks.get? device :=
      fun allowed step same => ((step.of_spares (spares _ allowed)).1).trans same
    exact acts.invariant kept rfl
  · obtain ⟨act, _, _, _, allowed, step, listed⟩ := acts.exists_step member
    exact (step.of_spares (spares act allowed)).2 entry listed

end Manager

/-! ## The sleeper -/

/-- Bounds how often the sleeper still falls asleep and wakes, as long as the clock stands
still and no event comes. -/
def Sleeper.effort (earliest : Option Instant) (signal : Bool) (clock : Instant) : Sleeper → Nat
  | awake => 2 * (Shell.deadlineReached earliest clock).toNat + 2 * signal.toNat + 1
  | asleep deadline => 2 * (Shell.deadlineReached deadline clock).toNat + 2 * signal.toNat

private theorem Sleeper.effort_le (sleeper : Sleeper) (earliest : Option Instant) (signal : Bool)
    (clock : Instant) : sleeper.effort earliest signal clock ≤ 5 := by
  have raised := Bool.toNat_le signal
  cases sleeper with
  | awake =>
      have reached := Bool.toNat_le (Shell.deadlineReached earliest clock)
      simp only [effort]
      omega
  | asleep deadline =>
      have reached := Bool.toNat_le (Shell.deadlineReached deadline clock)
      simp only [effort]
      omega

private theorem Sleeper.effort_le_add_four (sleeper : Sleeper) (earliest moved : Option Instant)
    (signal raised : Bool) (clock : Instant) :
    sleeper.effort moved raised clock ≤ sleeper.effort earliest signal clock + 4 := by
  have up := Bool.toNat_le raised
  cases sleeper with
  | awake =>
      have reached := Bool.toNat_le (Shell.deadlineReached moved clock)
      simp only [effort]
      omega
  | asleep deadline =>
      simp only [effort]
      omega

namespace Shell

open Happening JournalEntry

variable {shell next middle final : Shell} {manager : Manager} {workers : Workers}
  {answers : Collaborators} {happening : Happening} {history : List Happening}
  {task : Option Operation} {written journal : List JournalEntry}
  {deadline : Option Instant} {clock : Instant}

private theorem deadlineReached_eq_false_iff :
    deadlineReached deadline clock = false ↔ ∀ time, deadline = some time → clock < time := by
  cases deadline with
  | none => simp [deadlineReached]
  | some time => simp [deadlineReached, Instant.not_le]

/-- While the sleeper sleeps, it waits for the earliest deadline, or the signal is up. -/
def Alert (shell : Shell) : Prop :=
  ∀ manager workers deadline, shell.stage = .running manager workers →
    workers.sleeper = .asleep deadline →
      shell.signal = true ∨ deadline = manager.earliestDeadline?

private theorem Works.alert (running : shell.stage = .running manager workers) (alert : shell.Alert)
    (works : Works answers shell manager workers task written next) : next.Alert := by
  intro left others deadline nextRunning asleep
  cases works with
  | @applyEvent event events moved oldest sound =>
      cases nextRunning
      rcases alert manager workers deadline running asleep with raised | same
      · exact .inl (by simp [raised])
      · -- An event either raises the signal or leaves the deadlines alone.
        cases moved with
        | true => exact .inl (by simp)
        | false =>
            have pending := Manager.pending_applyEvent sound
            exact .inr (same.trans (congrArg PendingConnects.earliestDeadline? pending.symm))
  | sendHeld _ _ =>
      cases nextRunning
      exact alert manager workers deadline running asleep
  | @serveRequest request _ _ _ _ _ _ =>
      cases nextRunning
      have pending := Manager.pending_serve manager answers request
      exact (alert manager workers deadline running asleep).imp_right fun same =>
        same.trans (congrArg PendingConnects.earliestDeadline? pending.symm)
  | fallAsleep _ =>
      cases nextRunning
      cases asleep
      exact .inr rfl
  | wake _ _ =>
      cases nextRunning
      cases asleep

theorem Step.alert (running : shell.stage = .running manager workers) (alert : shell.Alert)
    (step : Step shell happening written next) : next.Alert := by
  cases step with
  | work kind possible sound => exact (works_of_step? running possible sound).alert running alert
  | post room =>
      obtain ⟨events, _, rfl⟩ := Option.map_eq_some_iff.mp room
      exact alert
  | ask room =>
      obtain ⟨requests, _, rfl⟩ := Option.map_eq_some_iff.mp room
      exact alert
  | take ready =>
      obtain ⟨⟨response, responses⟩, _, same⟩ := Option.map_eq_some_iff.mp ready
      obtain ⟨_, rfl⟩ := Prod.mk.inj same
      exact alert
  | abandon => exact alert
  | elapse shows =>
      obtain ⟨clock, rfl⟩ := eq_of_advance shows
      exact alert

theorem Runs.alert (running : shell.stage = .running manager workers) (alert : shell.Alert)
    (runs : Runs shell history journal final) : final.Alert := by
  induction runs generalizing manager workers with
  | rest _ => exact alert
  | next step _ ih =>
      obtain ⟨_, middle⟩ := (step.delivers running).stage
      exact ih middle (step.alert running alert)

/-- When all workers wait, every deadline is ahead. -/
theorem Alert.deadline_ahead (alert : shell.Alert)
    (running : shell.stage = .running manager workers)
    (rests : shell.nextStep? answers = none) {time : Instant}
    (earliest : manager.earliestDeadline? = some time) : shell.clock < time := by
  have waits := nextStep?_eq_none_iff.mp rests
  obtain ⟨deadline, asleep⟩ := (fallAsleep_waits_iff running).mp (waits .fallAsleep)
  obtain ⟨ahead, down⟩ := (wake_waits_iff running asleep).mp (waits .wake)
  rcases alert manager workers deadline running asleep with raised | same
  · cases raised.symm.trans down
  · exact deadlineReached_eq_false_iff.mp ahead time (same.trans earliest)

/-! ## Coming to rest -/

/-- Bounds the steps that the workers can still take if nothing new arrives. An event may
raise the signal and set a deadline that has come already. -/
def effort (shell : Shell) : Nat :=
  match shell.stage with
  | .absent | .idle _ => 0
  | .running manager workers =>
      5 * shell.events.queued.length + 2 * shell.requests.queued.length +
        workers.held.toList.length +
        workers.sleeper.effort manager.earliestDeadline? shell.signal shell.clock

private theorem effort_of_running (running : shell.stage = .running manager workers) :
    shell.effort = 5 * shell.events.queued.length + 2 * shell.requests.queued.length +
      workers.held.toList.length +
      workers.sleeper.effort manager.earliestDeadline? shell.signal shell.clock := by
  rw [effort, running]

private theorem effort_le (shell : Shell) :
    shell.effort ≤ 5 * shell.events.queued.length + 2 * shell.requests.queued.length + 6 := by
  cases stage : shell.stage with
  | absent | idle _ => simp [effort, stage]
  | running manager workers =>
      have held : workers.held.toList.length ≤ 1 := by cases workers.held <;> simp
      have sleeper :=
        workers.sleeper.effort_le manager.earliestDeadline? shell.signal shell.clock
      rw [effort_of_running stage]
      omega

theorem Works.effort_lt (running : shell.stage = .running manager workers)
    (works : Works answers shell manager workers task written next) :
    next.effort < shell.effort := by
  rw [effort_of_running running]
  cases works with
  | @applyEvent event events moved oldest _ =>
      have sleeper := workers.sleeper.effort_le_add_four manager.earliestDeadline?
        (manager.applyEvent answers shell.clock event).state.earliestDeadline? shell.signal
        (shell.signal || moved) shell.clock
      rw [effort_of_running rfl, oldest, List.length_cons]
      dsimp only
      omega
  | sendHeld held _ =>
      rw [effort_of_running rfl, held]
      simp
  | @serveRequest request requests held _ free oldest _ =>
      have answer : held.toList.length ≤ 1 := by cases held <;> simp
      rw [effort_of_running rfl, oldest, free, List.length_cons, Manager.earliestDeadline?,
        Manager.pending_serve, ← Manager.earliestDeadline?]
      simp only [Option.toList_none, List.length_nil]
      omega
  | fallAsleep awake =>
      rw [effort_of_running rfl, awake]
      simp [Sleeper.effort]
  | @wake deadline asleep called =>
      -- A batch leaves no deadline that has come, so only the signal can wake the sleeper again.
      have ahead : deadlineReached
          (manager.fireDue answers shell.clock).state.earliestDeadline? shell.clock = false := by
        rw [deadlineReached_eq_false_iff, Manager.earliestDeadline?, Manager.pending_fireDue]
        exact fun _ => PendingConnects.lt_of_earliestDeadline?_drain
      rw [effort_of_running rfl, asleep]
      simp only [Sleeper.effort, ahead]
      rcases called with reached | raised
      · simp only [reached, Bool.and_true, Bool.toNat_true, Bool.toNat_false]
        omega
      · cases reached : deadlineReached deadline shell.clock <;> simp [raised]

theorem Runs.length_add_effort_le (running : shell.stage = .running manager workers)
    (busy : ∀ happening ∈ history, ∃ answers task, happening = .worked answers task)
    (runs : Runs shell history journal final) :
    history.length + final.effort ≤ shell.effort := by
  induction runs generalizing manager workers with
  | rest _ => simp
  | next step _ ih =>
      obtain ⟨⟨answers, task, rfl⟩, others⟩ := List.forall_mem_cons.mp busy
      obtain ⟨_, middle⟩ := (step.delivers running).stage
      have first := (step.works running).effort_lt running
      have rest := ih middle others
      rw [List.length_cons]
      omega

/-! ## On time -/

/-- A step of a worker connects a device because a caller asked for it, or in a batch and
not before its deadline; and a batch leaves all devices alone whose deadlines are ahead. -/
structure OnTime (shell : Shell) (manager : Manager) (task : Option Operation)
    (written : List JournalEntry) (next : Shell) : Prop where
  connects : ∀ device accepted, (device, accepted) ∈ connectsOf written →
    task = some (.request (.connect device)) ∨
    task = some (.fireDue shell.clock) ∧
      ∃ deadline, manager.pending.deadlineOf? device = some deadline ∧ deadline ≤ shell.clock
  untouched : ∀ now, task = some (.fireDue now) → ∀ device,
    (∀ deadline, manager.pending.deadlineOf? device = some deadline → shell.clock < deadline) →
      ∃ left others, next.stage = .running left others ∧
        left.pending.deadlineOf? device = manager.pending.deadlineOf? device ∧
        left.sinks.get? device = manager.sinks.get? device ∧
        ∀ entry ∈ written, entry.effect.device? ≠ some device

private theorem Works.onTime (works : Works answers shell manager workers task written next) :
    shell.OnTime manager task written next := by
  constructor
  · intro device accepted member
    cases task with
    | none =>
        have silent : written = [] := by cases works <;> rfl
        rw [silent] at member
        cases member
    | some operation =>
        obtain ⟨routed, rfl, _⟩ := works.of_task
        let turn : Turn := ⟨manager, answers, operation⟩
        have connects : turn.Connects device := ⟨accepted, member⟩
        rcases Turn.operation_of_connects routed connects with request | ⟨now, batch⟩
        · exact .inl (congrArg some request)
        · obtain rfl : operation = .fireDue now := batch
          have fires : turn.Fires now := rfl
          have due := Turn.due_of_connects fires connects
          cases works with
          | wake _ _ => exact .inr ⟨rfl, PendingConnects.mem_due_iff.mp due⟩
  · rintro now rfl device ahead
    cases works with
    | wake _ _ =>
        have early : device ∉ manager.pending.due shell.clock := fun due => by
          obtain ⟨deadline, found, reached⟩ := PendingConnects.mem_due_iff.mp due
          exact Instant.not_le.mpr (ahead deadline found) reached
        exact ⟨_, _, rfl, Manager.fireDue_spares early⟩

private theorem running_of_start {host : Shell} (absent : host.stage = .absent)
    (answers : Collaborators) (setup : Setup) :
    ∃ manager, (host.start answers setup).state.stage = .running manager ⟨none, .awake⟩ := by
  unfold start
  rw [absent]
  exact ⟨_, rfl⟩

/-- From the start of the host on, whatever arrives and whenever the workers get their
turns: once all of them wait, every deadline is ahead; no device is attempted before its
deadline; and the workers come to wait, because without anything new they take only a
limited number of steps. -/
theorem automatic_connects_punctual {host : Shell} (absent : host.stage = .absent)
    (answers : Collaborators) (setup : Setup)
    (runs : Runs (host.start answers setup).state history journal final) :
    ∃ manager workers, final.stage = .running manager workers ∧
      (∀ answers, final.nextStep? answers = none →
        ∀ deadline, manager.earliestDeadline? = some deadline → final.clock < deadline) ∧
      (∀ answers task written next, Step final (.worked answers task) written next →
        final.OnTime manager task written next) ∧
      (∀ busy written next, Runs final busy written next →
        (∀ happening ∈ busy, ∃ answers task, happening = .worked answers task) →
          busy.length ≤
            5 * final.events.queued.length + 2 * final.requests.queued.length + 6) := by
  obtain ⟨begun, started⟩ := running_of_start absent answers setup
  have fresh : (host.start answers setup).state.Alert := by
    intro manager workers deadline running asleep
    cases started.symm.trans running
    cases asleep
  have alert := runs.alert started fresh
  obtain ⟨workers, running⟩ := (runs.delivers started).stage
  refine ⟨_, workers, running, ?_, ?_, ?_⟩
  · intro answers rests deadline earliest
    exact alert.deadline_ahead running rests earliest
  · intro answers task written next step
    exact (step.works running).onTime
  · intro busy written next busyRuns onlyWork
    have spent := busyRuns.length_add_effort_le running onlyWork
    have bound := final.effort_le
    omega

section Sample

open Simulation

/-- A preferred sink shows up. The signal wakes the sleeper, who goes back to sleep until
the delay of 50 microseconds is over. -/
def sleptThrough : List Happening :=
  let noticed := Event.remoteConnected (sampleAddress 1)
  [.posted noticed, .worked preferredSink none,
    .worked preferredSink (some (.event noticed .zero)),
    .worked preferredSink (some (.fireDue .zero)), .worked preferredSink none, .elapsed ⟨50⟩]

theorem automatic_connects_punctual_of_sleptThrough :
    boot.stage = .absent ∧
    ∃ journal final, Runs (boot.start preferredSink ⟨⟨50⟩⟩).state sleptThrough journal final ∧
      ∃ written next, Step final (.worked preferredSink (some (.fireDue ⟨50⟩))) written next ∧
        (sampleAddress 1, true) ∈ connectsOf written ∧
        ∃ manager workers, final.stage = .running manager workers ∧
          ∃ deadline, manager.pending.deadlineOf? (sampleAddress 1) = some deadline ∧
            deadline ≤ final.clock := by
  have runs : Runs (boot.start preferredSink ⟨⟨50⟩⟩).state sleptThrough _ _ :=
    .next (.post rfl) <| .next (.work .fallAsleep rfl rfl) <|
    .next (.work .applyEvent rfl rfl) <| .next (.work .wake rfl rfl) <|
    .next (.work .fallAsleep rfl rfl) <| .next (.elapse rfl) <| .rest _
  obtain ⟨manager, workers, running, _, onTime, _⟩ :=
    automatic_connects_punctual rfl preferredSink ⟨⟨50⟩⟩ runs
  have punctual := onTime preferredSink _ _ _ (.work .wake rfl rfl)
  have called := (punctual.connects (sampleAddress 1) true (by decide)).resolve_left nofun
  exact ⟨rfl, _, _, runs, _, _, .work .wake rfl rfl, by decide, manager, workers, running, called.2⟩

end Sample

end Shell

end AudioHost
