import AudioHost.Proofs.Turn
import AudioHost.Simulation.Sample

/-!
# Native calls

When the stack is asked to connect or to disconnect a device, and by whom. The stack
is asked to connect only while every tracked device is disconnected, and to
disconnect only a device that is on its way up or connected.
-/

set_option autoImplicit false

namespace AudioHost

/-! ## Single acts -/

namespace Act

open Manager

variable {answers : Collaborators} {act : Act} {before after : Manager}
  {written : List JournalEntry} {entry : JournalEntry} {device : Address} {path : ObjectPath}
  {accepted : Bool}

/-- A native connect comes from an act that asks for it, while nothing is active. -/
theorem Step.of_connect (step : Step answers act before written after)
    (member : entry ∈ written) (called : entry.effect = .connect device path accepted) :
    act = .connect device path ∧ entry.table = before.sinks ∧ before.isBusy = false ∧
      device ∈ before.sinks.keys ∧ answers.pathOf device = some path ∧
      accepted = answers.acceptsConnect path := by
  cases step with
  | connect idle present found =>
      rw [List.mem_singleton] at member
      subst member
      cases called
      exact ⟨rfl, rfl, idle, present, found, rfl⟩
  | disconnect _ _ | storePriority | tellAudio =>
      rw [List.mem_singleton] at member
      subst member
      cases called
  | enroll _ _ | overwrite _ | report _ =>
      obtain ⟨_, _, ⟨noisy, _⟩ | told⟩ := mem_changeJournal member
      · cases noisy.symm.trans called
      · cases told.symm.trans called
  | forget _ | recount | reschedule => cases member

/-- A native disconnect comes from an act that asks for it, for a device that is not
disconnected yet. -/
theorem Step.of_disconnect (step : Step answers act before written after)
    (member : entry ∈ written) (called : entry.effect = .disconnect device path accepted) :
    act = .disconnect device path ∧ entry.table = before.sinks ∧
      (before.stateOf device = .connecting ∨ before.stateOf device = .connected ∨
        before.stateOf device = .playing) ∧
      answers.pathOf device = some path ∧ accepted = answers.acceptsDisconnect path := by
  cases step with
  | disconnect up found =>
      rw [List.mem_singleton] at member
      subst member
      cases called
      exact ⟨rfl, rfl, up, found, rfl⟩
  | connect _ _ _ | storePriority | tellAudio =>
      rw [List.mem_singleton] at member
      subst member
      cases called
  | enroll _ _ | overwrite _ | report _ =>
      obtain ⟨_, _, ⟨noisy, _⟩ | told⟩ := mem_changeJournal member
      · cases noisy.symm.trans called
      · cases told.symm.trans called
  | forget _ | recount | reschedule => cases member

end Act

theorem Operation.of_permits_connect {manager : Manager} {answers : Collaborators}
    {operation : Operation} {device : Address} {path : ObjectPath}
    (allowed : operation.Permits manager answers (.connect device path)) :
    operation = .request (.connect device) ∨
      ∃ now, operation = .fireDue now ∧ device ∈ manager.pending.due now := by
  unfold Permits at allowed
  split at allowed
  case h_6 asked => exact .inl (by rw [show device = asked from allowed])
  case h_9 now =>
      rcases allowed with drained | ⟨due, _, _⟩
      · cases drained
      · exact .inr ⟨now, rfl, due⟩
  all_goals cases allowed

theorem Operation.of_permits_disconnect {manager : Manager} {answers : Collaborators}
    {operation : Operation} {device : Address} {path : ObjectPath}
    (allowed : operation.Permits manager answers (.disconnect device path)) :
    operation = .request (.disconnect device) ∨
      ∃ now, operation = .event (.adapterChanged .turningOff) now := by
  unfold Permits at allowed
  split at allowed
  case h_2 now => exact .inr ⟨now, rfl⟩
  case h_7 asked => exact .inl (by rw [show device = asked from allowed])
  case h_9 =>
      rcases allowed with drained | connecting
      · cases drained
      · cases connecting
  all_goals cases allowed

/-! ## Runs -/

/-- How a native connect in a turn has to be: nothing is active, the device is tracked
and is asked for under its own path by a request or by a batch in which it is due. -/
structure Turn.ConnectsLawfully (turn : Turn) (table : SinkTable) (device : Address)
    (path : ObjectPath) (accepted : Bool) : Prop where
  idle : ∀ other, table.stateOf other = .disconnected
  tracked : table.get? device = some (.known .disconnected) ∨ table.get? device = some .invalid
  ownPath : turn.answers.pathOf device = some path
  answer : accepted = turn.answers.acceptsConnect path
  cause : turn.operation = .request (.connect device) ∨
    ∃ now, turn.operation = .fireDue now ∧ device ∈ turn.manager.pending.due now

/-- How a native disconnect in a turn has to be: the device is tracked as on its way up
or connected and is asked for under its own path, by a request or because the adapter
turns off. -/
structure Turn.DisconnectsLawfully (turn : Turn) (table : SinkTable) (device : Address)
    (path : ObjectPath) (accepted : Bool) : Prop where
  tracked : table.get? device = some (.known .connecting) ∨
    table.get? device = some (.known .connected) ∨ table.get? device = some (.known .playing)
  ownPath : turn.answers.pathOf device = some path
  answer : accepted = turn.answers.acceptsDisconnect path
  cause : turn.operation = .request (.disconnect device) ∨
    ∃ now, turn.operation = .event (.adapterChanged .turningOff) now

/-- Whatever the collaborators answer, every native connect and every native disconnect
of a run is lawful at its moment. -/
theorem Manager.turns_native_calls_lawful {steps : List (Collaborators × Operation)}
    (routed : ∀ step ∈ steps, step.2.isRouted = true) (manager : Manager) :
    ∀ turn ∈ manager.turns steps, ∀ entry ∈ turn.outcome.journal, ∀ device path accepted,
      (entry.effect = .connect device path accepted →
        turn.ConnectsLawfully entry.table device path accepted) ∧
      (entry.effect = .disconnect device path accepted →
        turn.DisconnectsLawfully entry.table device path accepted) := by
  intro turn turnMember entry entryMember device path accepted
  have acts := perform_byActs (isRouted_of_mem_turns routed turnMember) turn.manager turn.answers
  obtain ⟨act, before, written, after, allowed, step, member⟩ := acts.exists_step entryMember
  constructor
  · intro called
    obtain ⟨rfl, table, idle, present, found, answer⟩ := step.of_connect member called
    have down := SinkTable.isBusy_eq_false_iff.mp idle
    rw [table]
    exact
      { idle := down
        tracked := SinkTable.get?_of_disconnected present (down device)
        ownPath := found
        answer
        cause := Operation.of_permits_connect allowed }
  · intro called
    obtain ⟨rfl, table, up, found, answer⟩ := step.of_disconnect member called
    rw [table]
    refine
      { tracked := ?_
        ownPath := found
        answer
        cause := Operation.of_permits_disconnect allowed }
    rcases up with connecting | connected | playing
    · exact .inl (SinkTable.get?_of_stateOf connecting (by decide))
    · exact .inr (.inl (SinkTable.get?_of_stateOf connected (by decide)))
    · exact .inr (.inr (SinkTable.get?_of_stateOf playing (by decide)))

section Sample

open Simulation

/-- One of two bonded sinks is connected, reports so, and is disconnected again. -/
def connectAndDisconnect : List (Collaborators × Operation) :=
  [(twoSinks, .event (.adapterChanged .on) .zero),
    (twoSinks, .request (.connect (sampleAddress 1))),
    (twoSinks, .event reportConnecting .zero),
    (twoSinks, .request (.disconnect (sampleAddress 1)))]

theorem turns_native_calls_lawful_of_sample :
    (∃ turn ∈ (Manager.new {}).turns connectAndDisconnect, ∃ entry ∈ turn.outcome.journal,
      ∃ path, entry.effect = .connect (sampleAddress 1) path true ∧
        turn.ConnectsLawfully entry.table (sampleAddress 1) path true) ∧
    (∃ turn ∈ (Manager.new {}).turns connectAndDisconnect, ∃ entry ∈ turn.outcome.journal,
      ∃ path, entry.effect = .disconnect (sampleAddress 1) path true ∧
        turn.DisconnectsLawfully entry.table (sampleAddress 1) path true) := by
  have routed : ∀ step ∈ connectAndDisconnect, step.2.isRouted = true := by
    simp [connectAndDisconnect, Operation.isRouted]
  have lawful := Manager.turns_native_calls_lawful routed (Manager.new {})
  have connecting : ((Manager.new {}).turns connectAndDisconnect)[1] ∈
      (Manager.new {}).turns connectAndDisconnect := List.getElem_mem _
  have disconnecting : ((Manager.new {}).turns connectAndDisconnect)[3] ∈
      (Manager.new {}).turns connectAndDisconnect := List.getElem_mem _
  constructor
  · refine ⟨_, connecting, _, List.getElem_mem (n := 0) (by decide), ⟨"/a", by decide⟩, ?_⟩
    have called := (lawful _ connecting _ (List.getElem_mem (n := 0) (by decide))
      (sampleAddress 1) ⟨"/a", by decide⟩ true).1
    exact ⟨by decide, called (by decide)⟩
  · refine ⟨_, disconnecting, _, List.getElem_mem (n := 0) (by decide), ⟨"/a", by decide⟩, ?_⟩
    have called := (lawful _ disconnecting _ (List.getElem_mem (n := 0) (by decide))
      (sampleAddress 1) ⟨"/a", by decide⟩ true).2
    exact ⟨by decide, called (by decide)⟩

end Sample

end AudioHost
