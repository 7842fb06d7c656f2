import AudioHost.PendingConnects.Lemmas
import AudioHost.Proofs.SingleActivation
import Mathlib.Data.List.Induction

/-!
# Triggers of automatic connects

A device waits for its automatic connect exactly if some trigger was accepted for it,
no later one moved the deadline, and no batch has come at or after the deadline since.
So every connect that a batch makes goes back to a trigger of its own.
-/

set_option autoImplicit false

namespace AudioHost

open JournalEntry

namespace Turn

variable {turn : Turn} {device other : Address} {time now deadline : Instant}

/-- A device shows up, and its deadline is set or moved. -/
def Triggers (turn : Turn) (device : Address) (time : Instant) : Prop :=
  turn.operation = .event (.remoteConnected device) time ∧
    turn.outcome.result = .scheduled true

def Fires (turn : Turn) (now : Instant) : Prop := turn.operation = .fireDue now

private theorem of_triggers (triggers : turn.Triggers device time) :
    (turn.answers.priorityOf device).isPreferred = true ∧
      turn.answers.playsAudio device = true ∧
      ∃ deadline, time.after? turn.manager.pending.delay = some deadline ∧
        turn.outcome.state.pending.delay = turn.manager.pending.delay ∧
        ∀ other, turn.outcome.state.pending.deadlineOf? other =
          if other = device then some deadline else turn.manager.pending.deadlineOf? other := by
  obtain ⟨manager, answers, operation⟩ := turn
  obtain ⟨rfl, accepted⟩ := triggers
  change Reply.ofScheduling (manager.remoteConnected answers device time).result = _ at accepted
  show _ ∧ _ ∧ ∃ deadline, _ ∧
    (manager.remoteConnected answers device time).state.pending.delay = _ ∧
    ∀ other, (manager.remoteConnected answers device time).state.pending.deadlineOf? other = _
  unfold Manager.remoteConnected at accepted ⊢
  split at accepted
  case isFalse => simp [Outcome.quiet, Reply.ofScheduling] at accepted
  next candidate =>
    rw [if_pos candidate]
    rw [Bool.and_eq_true] at candidate
    cases triggered : manager.pending.trigger device time with
    | waiting deadline moved =>
        obtain ⟨shows, delay, deadlines⟩ := PendingConnects.of_trigger_eq_waiting triggered
        exact ⟨candidate.1, candidate.2, deadline, shows, delay, deadlines⟩
    | full => simp [triggered, Outcome.quiet, Reply.ofScheduling] at accepted
    | overflow cause => simp [triggered, Outcome.quiet, Reply.ofScheduling] at accepted

theorem pending_of_fires (fires : turn.Fires now) :
    turn.outcome.state.pending = (turn.manager.pending.drain now).2 := by
  obtain ⟨manager, answers, operation⟩ := turn
  obtain rfl : operation = .fireDue now := fires
  have attempts : (Manager.attemptInTurn answers (manager.pending.due now)
      { manager with pending := (manager.pending.drain now).2 }).ByActs answers
        (Act.InConnecting answers fun _ => True)
        { manager with pending := (manager.pending.drain now).2 } :=
    Manager.attemptInTurn_byActs (fun _ _ _ _ => trivial) _
  exact attempts.pending_of_not_reschedules fun _ allowed => allowed

/-- A turn that is neither an accepted trigger nor a batch leaves the deadlines alone. -/
theorem pending_of_quiet (routed : turn.operation.isRouted = true)
    (refused : ∀ device time, ¬ turn.Triggers device time) (idle : ∀ now, ¬ turn.Fires now) :
    turn.outcome.state.pending = turn.manager.pending := by
  by_cases reschedules : turn.operation.Reschedules
  case neg =>
      have acts := Manager.perform_byActs routed turn.manager turn.answers
      exact acts.pending_of_not_reschedules fun _ allowed =>
        reschedules (Operation.reschedules_of_permits allowed)
  unfold Operation.Reschedules at reschedules
  split at reschedules
  · next device time noticed =>
      obtain ⟨manager, answers, operation⟩ := turn
      obtain rfl : operation = _ := noticed
      have notAccepted : Reply.ofScheduling
          (manager.remoteConnected answers device time).result ≠ .scheduled true :=
        fun accepted => refused device time ⟨rfl, accepted⟩
      show (manager.remoteConnected answers device time).state.pending = manager.pending
      unfold Manager.remoteConnected at notAccepted ⊢
      split
      case isFalse => rfl
      next candidate =>
        rw [if_pos candidate] at notAccepted
        cases triggered : manager.pending.trigger device time with
        | waiting deadline moved =>
            simp [triggered, Outcome.quiet, Reply.ofScheduling] at notAccepted
        | full | overflow _ => rfl
  · next now fires => exact absurd fires (idle now)
  · cases reschedules

private theorem triggers_unique {otherTime : Instant} (triggers : turn.Triggers device time)
    (again : turn.Triggers other otherTime) : other = device ∧ otherTime = time := by
  obtain ⟨same, rfl⟩ := Operation.event.inj (again.1.symm.trans triggers.1)
  exact ⟨Event.remoteConnected.inj same, rfl⟩

/-- A deadline that a turn leaves was set by it, or was there and is still ahead. -/
theorem deadlineOf?_outcome_iff (routed : turn.operation.isRouted = true) :
    turn.outcome.state.pending.deadlineOf? device = some deadline ↔
      (∃ time, turn.Triggers device time ∧
        time.after? turn.manager.pending.delay = some deadline) ∨
      ((∀ time, ¬ turn.Triggers device time) ∧ (∀ now, turn.Fires now → now < deadline) ∧
        turn.manager.pending.deadlineOf? device = some deadline) := by
  by_cases triggers : ∃ noticed time, turn.Triggers noticed time
  · obtain ⟨noticed, time, triggers⟩ := triggers
    obtain ⟨_, _, reached, shows, _, deadlines⟩ := of_triggers triggers
    have notFires : ∀ now, ¬ turn.Fires now := fun now fires => by
      cases triggers.1.symm.trans fires
    rw [deadlines device]
    by_cases isNoticed : device = noticed
    · subst isNoticed
      constructor
      · intro found
        exact .inl ⟨time, triggers, shows.trans (by simpa using found)⟩
      · rintro (⟨other, again, delayed⟩ | ⟨refused, _⟩)
        · obtain ⟨_, rfl⟩ := triggers_unique triggers again
          simpa using shows.symm.trans delayed
        · exact absurd triggers (refused time)
    · have refused : ∀ other, ¬ turn.Triggers device other := fun other again =>
        isNoticed (triggers_unique triggers again).1
      simp [isNoticed, refused, notFires]
  have refused : ∀ noticed time, ¬ turn.Triggers noticed time := by simpa using triggers
  by_cases fires : ∃ now, turn.Fires now
  · obtain ⟨now, fires⟩ := fires
    have only : (∀ other, turn.Fires other → other < deadline) ↔ now < deadline := by
      refine ⟨fun early => early now fires, fun early other again => ?_⟩
      obtain rfl := Operation.fireDue.inj (again.symm.trans fires)
      exact early
    rw [pending_of_fires fires, PendingConnects.deadlineOf?_drain, Option.filter_eq_some_iff,
      decide_eq_true_iff, only]
    simp [refused, and_comm]
  · have idle : ∀ now, ¬ turn.Fires now := by simpa using fires
    rw [pending_of_quiet routed refused idle]
    simp [refused, idle]

theorem delay_outcome (routed : turn.operation.isRouted = true) :
    turn.outcome.state.pending.delay = turn.manager.pending.delay := by
  by_cases triggers : ∃ noticed time, turn.Triggers noticed time
  · obtain ⟨noticed, time, triggers⟩ := triggers
    obtain ⟨_, _, _, _, delay, _⟩ := of_triggers triggers
    exact delay
  by_cases fires : ∃ now, turn.Fires now
  · obtain ⟨now, fires⟩ := fires
    rw [pending_of_fires fires, PendingConnects.delay_drain]
  · rw [pending_of_quiet routed (by simpa using triggers) (by simpa using fires)]

end Turn

/-- Why a device waits for a deadline after some turns: a trigger was accepted for it, since
then no other one was, and no batch has come so late as to use the deadline up. -/
structure Outstanding (turns : List Turn) (delay : Duration) (device : Address)
    (time deadline : Instant) (trigger : Turn) (between : List Turn) : Prop where
  since : ∃ earlier, turns = earlier ++ trigger :: between
  accepted : trigger.Triggers device time
  preferred : (trigger.answers.priorityOf device).isPreferred = true
  playsAudio : trigger.answers.playsAudio device = true
  delayed : time.after? delay = some deadline
  latest : ∀ turn ∈ between, ∀ other, ¬ turn.Triggers device other
  unspent : ∀ turn ∈ between, ∀ now, turn.Fires now → now < deadline

namespace Outstanding

variable {turns between : List Turn} {delay : Duration} {device : Address}
  {time deadline : Instant} {trigger last : Turn}

private theorem concat (outstanding : Outstanding turns delay device time deadline trigger between)
    (quiet : ∀ other, ¬ last.Triggers device other)
    (early : ∀ now, last.Fires now → now < deadline) :
    Outstanding (turns ++ [last]) delay device time deadline trigger (between ++ [last]) := by
  obtain ⟨earlier, split⟩ := outstanding.since
  refine { outstanding with since := ⟨earlier, by simp [split]⟩, latest := ?_, unspent := ?_ }
  · exact List.forall_mem_append.mpr ⟨outstanding.latest, by simpa using quiet⟩
  · exact List.forall_mem_append.mpr ⟨outstanding.unspent, by simpa using early⟩

/-- Either the last turn is the trigger, or it left the deadline alone. -/
private theorem of_concat
    (outstanding : Outstanding (turns ++ [last]) delay device time deadline trigger between) :
    trigger = last ∨ (∃ front, Outstanding turns delay device time deadline trigger front) ∧
      (∀ other, ¬ last.Triggers device other) ∧ ∀ now, last.Fires now → now < deadline := by
  obtain ⟨earlier, split⟩ := outstanding.since
  obtain ⟨_, _, same⟩ | ⟨front, rfl, before⟩ := concat_eq_append_cons_iff.mp split
  · exact .inl same.symm
  · obtain ⟨latest, quiet⟩ := List.forall_mem_append.mp outstanding.latest
    obtain ⟨unspent, early⟩ := List.forall_mem_append.mp outstanding.unspent
    refine .inr ⟨⟨front, ?_⟩, by simpa using quiet, by simpa using early⟩
    exact { outstanding with since := ⟨earlier, before⟩, latest, unspent }

end Outstanding

namespace Manager

variable {manager : Manager} {steps : List (Collaborators × Operation)} {device : Address}
  {deadline : Instant}

theorem delay_run (routed : ∀ step ∈ steps, step.2.isRouted = true) (manager : Manager) :
    (manager.run steps).state.pending.delay = manager.pending.delay := by
  induction steps generalizing manager with
  | nil => rfl
  | cons step rest ih =>
      obtain ⟨routedNow, routedLater⟩ := List.forall_mem_cons.mp routed
      let first : Turn := ⟨manager, step.1, step.2⟩
      have now : first.outcome.state.pending.delay = manager.pending.delay :=
        Turn.delay_outcome routedNow
      exact (ih routedLater (manager.perform step.1 step.2).state).trans now

/-- The pending automatic connects are those whose last trigger is still outstanding. -/
theorem deadlineOf?_run_iff (routed : ∀ step ∈ steps, step.2.isRouted = true)
    (idle : ∀ device, manager.pending.deadlineOf? device = none) :
    (manager.run steps).state.pending.deadlineOf? device = some deadline ↔
      ∃ time trigger between, Outstanding (manager.turns steps) manager.pending.delay device
        time deadline trigger between := by
  induction steps using List.reverseRecOn generalizing deadline with
  | nil =>
      constructor
      · intro found
        cases (idle device).symm.trans found
      · rintro ⟨_, _, _, outstanding⟩
        obtain ⟨earlier, split⟩ := outstanding.since
        simp [turns] at split
  | append_singleton front step ih =>
      obtain ⟨routedFront, routedLast⟩ := List.forall_mem_append.mp routed
      let last : Turn := ⟨(manager.run front).state, step.1, step.2⟩
      have final : (manager.run (front ++ [step])).state = last.outcome.state :=
        state_run_append manager front [step]
      have turns : manager.turns (front ++ [step]) = manager.turns front ++ [last] :=
        turns_append manager front [step]
      have lastRouted : last.operation.isRouted = true := routedLast step (by simp)
      have delay : last.manager.pending.delay = manager.pending.delay :=
        delay_run routedFront manager
      rw [final, turns, Turn.deadlineOf?_outcome_iff lastRouted, delay, ih routedFront]
      constructor
      · rintro (⟨time, triggers, delayed⟩ | ⟨quiet, early, time, trigger, between, outstanding⟩)
        · obtain ⟨preferred, playsAudio, _⟩ := Turn.of_triggers triggers
          refine ⟨time, last, [], ?_⟩
          exact
            { since := ⟨manager.turns front, rfl⟩
              accepted := triggers
              preferred
              playsAudio
              delayed
              latest := by simp
              unspent := by simp }
        · exact ⟨time, trigger, _, outstanding.concat quiet early⟩
      · rintro ⟨time, trigger, between, outstanding⟩
        rcases outstanding.of_concat with rfl | ⟨⟨earlier, before⟩, quiet, early⟩
        · exact .inl ⟨time, outstanding.accepted, outstanding.delayed⟩
        · exact .inr ⟨quiet, early, time, trigger, earlier, before⟩

end Manager

/-! ## Batches -/

namespace Turn

variable {batch : Turn} {device : Address} {path : ObjectPath} {accepted : Bool} {now : Instant}

/-- A batch connects only devices whose deadline has come, and only while everything that
allowed the trigger still holds and no sink is active. -/
private theorem of_connect_of_fires (fires : batch.Fires now) {entry : JournalEntry}
    (member : entry ∈ batch.outcome.journal)
    (called : entry.effect = .connect device path accepted) :
    device ∈ batch.manager.pending.due now ∧ batch.answers.adapterEnabled = true ∧
      (batch.answers.priorityOf device).isPreferred = true ∧
      ∀ other, entry.table.stateOf other = .disconnected := by
  obtain ⟨manager, answers, operation⟩ := batch
  obtain rfl : operation = .fireDue now := fires
  have acts := Manager.fireDue_byActs manager answers now
  obtain ⟨act, before, written, after, allowed, step, entryWritten⟩ := acts.exists_step member
  obtain ⟨rfl, table, idle, _⟩ := step.of_connect entryWritten called
  rw [table]
  obtain ⟨due, enabled, preferred⟩ := allowed.resolve_left (by simp)
  exact ⟨due, enabled, preferred, SinkTable.isBusy_eq_false_iff.mp idle⟩

theorem due_of_connects (fires : batch.Fires now) (connects : batch.Connects device) :
    device ∈ batch.manager.pending.due now := by
  obtain ⟨accepted, listed⟩ := connects
  obtain ⟨entry, member, path, called⟩ := mem_connectsOf_iff.mp listed
  exact (of_connect_of_fires fires member called).1

private theorem connectsOf_nodup_of_fires (fires : batch.Fires now) :
    ((connectsOf batch.outcome.journal).map Prod.fst).Nodup := by
  obtain ⟨manager, answers, operation⟩ := batch
  obtain rfl : operation = .fireDue now := fires
  have inOrder := Manager.connectsOf_attemptInTurn_sublist answers (manager.pending.due now)
    { manager with pending := (manager.pending.drain now).2 }
  exact inOrder.nodup (manager.pending.due_nodup now)

/-- What has to hold for a batch to connect a device after some turns. -/
structure ConnectsInTime (batch : Turn) (turns : List Turn) (delay : Duration)
    (now : Instant) (table : SinkTable) (device : Address) : Prop where
  cause : ∃ time deadline trigger between,
    Outstanding turns delay device time deadline trigger between ∧ deadline ≤ now
  enabled : batch.answers.adapterEnabled = true
  preferred : (batch.answers.priorityOf device).isPreferred = true
  idle : ∀ other, table.stateOf other = .disconnected

end Turn

/-- Every automatic connect of a run goes back to a trigger, and no two to the same one. -/
structure TriggeredConnects (turns : List Turn) (delay : Duration) : Prop where
  caused : ∀ front batch back now, turns = front ++ batch :: back → batch.Fires now →
    ∀ entry ∈ batch.outcome.journal, ∀ device path accepted,
      entry.effect = .connect device path accepted →
        batch.ConnectsInTime front delay now entry.table device
  onceInBatch : ∀ batch ∈ turns, ∀ now, batch.Fires now →
    ((connectsOf batch.outcome.journal).map Prod.fst).Nodup
  renewed : ∀ front first between second back device earlier later,
    turns = front ++ first :: (between ++ second :: back) →
      first.Fires earlier → first.Connects device →
        second.Fires later → second.Connects device →
          ∃ trigger ∈ between, ∃ time, trigger.Triggers device time

namespace Manager

variable {manager : Manager} {steps : List (Collaborators × Operation)}

/-- A device that was due in one batch is due in a later one only after a new trigger. -/
private theorem exists_trigger_between (routed : ∀ step ∈ steps, step.2.isRouted = true)
    {front between back : List Turn} {first second : Turn} {device : Address}
    {earlier later : Instant}
    (split : manager.turns steps = front ++ first :: (between ++ second :: back))
    (fires : first.Fires earlier) (due : device ∈ first.manager.pending.due earlier)
    (dueAgain : device ∈ second.manager.pending.due later) :
    ∃ trigger ∈ between, ∃ time, trigger.Triggers device time := by
  obtain ⟨deadline, found, reached⟩ := PendingConnects.mem_due_iff.mp due
  have spent : first.outcome.state.pending.deadlineOf? device = none := by
    rw [Turn.pending_of_fires fires, PendingConnects.deadlineOf?_drain, found]
    simp [Option.filter_some, Instant.not_lt.mpr reached]
  refine Classical.byContradiction fun untriggered => ?_
  obtain ⟨rest, after, included⟩ := turns_eq_append_cons split
  have spared := holds_at_turn (fun manager => manager.pending.deadlineOf? device = none)
    after.symm (fun turn member none => ?_) spent
  · obtain ⟨_, renewed, _⟩ := PendingConnects.mem_due_iff.mp dueAgain
    cases spared.symm.trans renewed
  · have turnRouted : turn.operation.isRouted = true :=
      isRouted_of_mem_turns routed (by rw [split]; simp [member])
    refine Option.eq_none_iff_forall_ne_some.mpr fun deadline set => ?_
    rcases (Turn.deadlineOf?_outcome_iff turnRouted).mp set with ⟨time, triggers, _⟩ | ⟨_, _, was⟩
    · exact untriggered ⟨turn, member, time, triggers⟩
    · cases none.symm.trans was

/-- From a new manager on, a batch connects a device only after the delay since its latest
accepted trigger, and only once for each. -/
theorem connects_of_batches_triggered (routed : ∀ step ∈ steps, step.2.isRouted = true)
    (setup : Setup) :
    TriggeredConnects ((new setup).turns steps) setup.autoConnectDelay := by
  constructor
  · intro front batch back now split fires entry member device path accepted called
    obtain ⟨due, enabled, preferred, idle⟩ := Turn.of_connect_of_fires fires member called
    obtain ⟨deadline, found, reached⟩ := PendingConnects.mem_due_iff.mp due
    obtain ⟨earlier, rfl, state, included⟩ := exists_run_before split
    rw [state, deadlineOf?_run_iff (fun step listed => routed step (included step listed))
      (fun _ => rfl)] at found
    obtain ⟨time, trigger, between, outstanding⟩ := found
    exact
      { cause := ⟨time, deadline, trigger, between, outstanding, reached⟩
        enabled
        preferred
        idle }
  · intro batch _ now fires
    exact Turn.connectsOf_nodup_of_fires fires
  · intro front first between second back device earlier later split fires connects firesAgain
      connectsAgain
    exact exists_trigger_between routed split fires (Turn.due_of_connects fires connects)
      (Turn.due_of_connects firesAgain connectsAgain)

section Sample

open Simulation

/-- A preferred sink shows up twice before its delay of 50 microseconds is over. The batch
at the first deadline finds nothing due. -/
def triggerTwice : List (Collaborators × Operation) :=
  [(preferredSink, .event (.remoteConnected (sampleAddress 1)) ⟨0⟩),
    (preferredSink, .event (.remoteConnected (sampleAddress 1)) ⟨20⟩),
    (preferredSink, .fireDue ⟨50⟩),
    (preferredSink, .fireDue ⟨70⟩)]

theorem connects_of_batches_triggered_of_triggerTwice :
    (∀ step ∈ triggerTwice, step.2.isRouted = true) ∧
    ∃ front batch, (new ⟨⟨50⟩⟩).turns triggerTwice = front ++ [batch] ∧
      connectsOf (front.flatMap fun turn => turn.outcome.journal) = [] ∧
      ∃ entry ∈ batch.outcome.journal, ∃ path,
        entry.effect = .connect (sampleAddress 1) path true ∧
          batch.ConnectsInTime front ⟨50⟩ ⟨70⟩ entry.table (sampleAddress 1) := by
  have routed : ∀ step ∈ triggerTwice, step.2.isRouted = true := by
    simp [triggerTwice, Operation.isRouted]
  refine ⟨routed, ((new ⟨⟨50⟩⟩).turns triggerTwice).take 3,
    ((new ⟨⟨50⟩⟩).turns triggerTwice)[3], rfl, by decide, ?_⟩
  have listed := List.getElem_mem (n := 0)
    (l := ((new ⟨⟨50⟩⟩).turns triggerTwice)[3].outcome.journal) (by decide)
  have called : ((new ⟨⟨50⟩⟩).turns triggerTwice)[3].outcome.journal[0].effect =
      .connect (sampleAddress 1) ⟨"/a", by decide⟩ true := by decide
  have fires : ((new ⟨⟨50⟩⟩).turns triggerTwice)[3].Fires ⟨70⟩ := rfl
  exact ⟨_, listed, _, called, (connects_of_batches_triggered routed ⟨⟨50⟩⟩).caused _ _ [] ⟨70⟩
    rfl fires _ listed _ _ _ called⟩

end Sample

end Manager

end AudioHost
