import AudioHost.Proofs.Turn
import AudioHost.Simulation.Sample
import AudioHost.Sink.Report

/-!
# Only what can be reported is tracked

The stack never reports a sink as disconnecting, and no operation of the host makes one
so. Only who commits that state directly brings it into the table.
-/

set_option autoImplicit false

namespace AudioHost

/-- The table lists no sink as disconnecting. -/
def SinkTable.Reportable (table : SinkTable) : Prop :=
  ∀ device, table.get? device ≠ some (.known .disconnecting)

private theorem SinkTable.reportable_iff {table : SinkTable} :
    table.Reportable ↔ ∀ device, table.stateOf device ≠ .disconnecting := by
  constructor
  · intro reportable device state
    exact reportable device (get?_of_stateOf state SinkState.noConfusion)
  · intro reportable device tracked
    exact reportable device (stateOf_of_get? tracked)

/-- Neither the table of an entry nor the change that it announces knows a sink that is
disconnecting. -/
structure JournalEntry.Reportable (entry : JournalEntry) : Prop where
  table : entry.table.Reportable
  announced : ∀ device previous current,
    entry.effect = .stateChanged device previous current →
      previous ≠ .disconnecting ∧ current ≠ .disconnecting

private theorem Manager.reportable_of_mem_changeJournal {table : SinkTable} {device : Address}
    {previous current : SinkState} {entry : JournalEntry} (reportable : table.Reportable)
    (before : previous ≠ .disconnecting) (after : current ≠ .disconnecting)
    (member : entry ∈ changeJournal table device previous current) : entry.Reportable := by
  obtain ⟨_, shown, noisy | told⟩ := mem_changeJournal member
  · refine ⟨shown ▸ reportable, fun changed old new announced => ?_⟩
    cases announced.symm.trans noisy.1
  · refine ⟨shown ▸ reportable, fun changed old new announced => ?_⟩
    cases announced.symm.trans told
    exact ⟨before, after⟩

/-! ## Acts -/

namespace Act

variable {answers : Collaborators} {permitted : Act → Prop} {act : Act}
  {before after manager final : Manager} {written journal : List JournalEntry}
  {device : Address}

/-- An act that puts only what can be reported into the table. -/
def Reportable : Act → Prop
  | enroll _ reading | overwrite _ reading | report _ reading => reading.state ≠ .disconnecting
  | connect _ _ | disconnect _ _ | storePriority _ _ | tellAudio _ | forget | recount
  | reschedule _ => True

private theorem Step.stateOf_ne_disconnecting (step : Step answers act before written after)
    (reportable : act.Reportable) (start : before.stateOf device ≠ .disconnecting) :
    after.stateOf device ≠ .disconnecting := by
  cases step with
  | connect _ _ _ | disconnect _ _ | storePriority | tellAudio | recount | reschedule =>
      exact start
  | enroll _ taken =>
      simp only [Manager.stateOf, Manager.sinks_afterChange, SinkTable.stateOf_of_insert? taken]
      split
      · exact reportable
      · exact start
  | overwrite present =>
      simp only [Manager.stateOf, Manager.sinks_afterChange, SinkTable.stateOf_replace present]
      split
      · exact reportable
      · exact start
  | report tracked =>
      have present := BoundedMap.mem_keys_of_get? tracked
      simp only [Manager.stateOf, Manager.sinks_afterChange, SinkTable.stateOf_replace present]
      split
      · exact reportable
      · exact start
  | forget _ => exact SinkState.noConfusion

theorem Step.reportable_of_mem (step : Step answers act before written after)
    (reportable : act.Reportable) (start : before.sinks.Reportable) :
    ∀ entry ∈ written, entry.Reportable := by
  have left : after.sinks.Reportable := by
    rw [SinkTable.reportable_iff] at start ⊢
    exact fun device => step.stateOf_ne_disconnecting reportable (start device)
  intro entry member
  cases step with
  | connect _ _ _ | disconnect _ _ | storePriority | tellAudio =>
      obtain rfl := List.mem_singleton.mp member
      exact ⟨start, fun _ _ _ announced => by cases announced⟩
  | enroll _ _ | overwrite _ =>
      exact Manager.reportable_of_mem_changeJournal left SinkState.noConfusion reportable member
  | @report _ device previous reading tracked =>
      have present := BoundedMap.mem_keys_of_get? tracked
      have old : previous.state ≠ .disconnecting := by
        rw [← SinkTable.stateOf_of_get? tracked]
        exact SinkTable.reportable_iff.mp start device
      refine Manager.reportable_of_mem_changeJournal ?_ old reportable member
      -- The change is told before an invalid reading takes its place in the table.
      rw [SinkTable.reportable_iff] at left ⊢
      intro other
      have shown := left other
      rw [Manager.sinks_afterChange, SinkTable.stateOf_replace present] at shown
      rw [SinkTable.stateOf_replace present]
      exact shown
  | forget _ | recount | reschedule => cases member

theorem Steps.reportable (reportable : ∀ act, permitted act → act.Reportable)
    (steps : Steps answers permitted manager journal final)
    (start : manager.sinks.Reportable) :
    final.sinks.Reportable ∧ ∀ entry ∈ journal, entry.Reportable := by
  induction steps with
  | none => exact ⟨start, by simp⟩
  | next allowed step _ ih =>
      have fits := reportable _ allowed
      rw [SinkTable.reportable_iff] at start
      obtain ⟨left, others⟩ := ih
        (SinkTable.reportable_iff.mpr fun device =>
          step.stateOf_ne_disconnecting fits (start device))
      refine ⟨left, List.forall_mem_append.mpr ⟨?_, others⟩⟩
      exact step.reportable_of_mem fits (SinkTable.reportable_iff.mpr start)

end Act

/-! ## Operations -/

private theorem Collaborators.reportable_of_readSink {answers : Collaborators} {device : Address}
    {reading : Reading} (read : answers.readSink device = .ok reading) :
    reading.state ≠ .disconnecting := by
  unfold readSink at read
  split at read
  · cases read
  · split at read
    · cases read
    · cases read
      exact SinkProperty.state_reading_ne_disconnecting _

namespace Act

variable {manager : Manager} {answers : Collaborators} {act : Act}

private theorem reportable_of_inScan (allowed : act.InScan answers) : act.Reportable := by
  cases act with
  | enroll device reading | overwrite device reading =>
      exact Collaborators.reportable_of_readSink allowed.1
  | report _ _ => cases allowed
  | _ => trivial

private theorem reportable_of_inRelease (allowed : act.InRelease) : act.Reportable := by
  cases act with
  | report device reading =>
      obtain rfl : reading = .known .disconnected := allowed
      exact SinkState.noConfusion
  | enroll _ _ | overwrite _ _ => cases allowed
  | _ => trivial

private theorem reportable_of_inReport {path : String} {property : SinkProperty}
    (allowed : act.InReport answers path property) : act.Reportable := by
  cases act with
  | enroll device reading => exact Collaborators.reportable_of_readSink allowed.2.2.2
  | report device reading =>
      obtain rfl : reading = .ofReport property.value.text := allowed.2.2.2
      exact Reading.state_ofReport_ne_disconnecting _
  | overwrite _ _ => cases allowed
  | _ => trivial

private theorem reportable_of_inStoring {address : String} {priority : Priority}
    (allowed : act.InStoring address priority) : act.Reportable := by
  cases act with
  | storePriority _ _ => trivial
  | _ => cases allowed

private theorem reportable_of_inNoticing {device : Address} {now : Instant}
    (allowed : act.InNoticing manager device now) : act.Reportable := by
  cases act with
  | reschedule _ => trivial
  | _ => cases allowed

private theorem reportable_of_inConnecting {wanted : Address → Prop}
    (allowed : act.InConnecting answers wanted) : act.Reportable := by
  cases act with
  | connect _ _ => trivial
  | enroll device reading => exact Collaborators.reportable_of_readSink allowed.2
  | _ => cases allowed

private theorem reportable_of_inDisconnecting {device : Address}
    (allowed : act.InDisconnecting device) : act.Reportable := by
  cases act with
  | disconnect _ _ => trivial
  | _ => cases allowed

end Act

private theorem Operation.reportable_of_permits {operation : Operation} {manager : Manager}
    {answers : Collaborators} {act : Act} (allowed : operation.Permits manager answers act) :
    act.Reportable := by
  unfold Permits at allowed
  split at allowed
  case h_1 => exact Act.reportable_of_inScan allowed
  case h_2 => exact Act.reportable_of_inRelease allowed
  case h_3 | h_8 => exact Act.reportable_of_inStoring allowed
  case h_4 => exact Act.reportable_of_inNoticing allowed
  case h_5 => exact Act.reportable_of_inReport allowed
  case h_6 => exact Act.reportable_of_inConnecting allowed
  case h_7 => exact Act.reportable_of_inDisconnecting allowed
  case h_9 =>
      rcases allowed with rfl | connecting
      · trivial
      · exact Act.reportable_of_inConnecting connecting
  case h_10 => cases allowed

namespace Manager

open Outcome

variable {manager : Manager} {answers : Collaborators} {operation : Operation}
  {device : Address}

/-- Except for a state that is committed directly, only what can be reported gets into
the table. -/
theorem perform_reportable
    (indirect : ∀ device previous current, operation ≠ .commit device previous current)
    (manager : Manager) (answers : Collaborators) :
    (manager.perform answers operation).ByActs answers Act.Reportable manager := by
  cases operation with
  | event _ _ | request _ | fireDue _ =>
      exact (perform_byActs rfl manager answers).mono fun _ => Operation.reportable_of_permits
  | scanBonded =>
      exact (scanBonded_byActs manager answers).mono fun _ => Act.reportable_of_inScan
  | releaseAll =>
      exact (releaseAll_byActs manager answers).mono fun _ => Act.reportable_of_inRelease
  | bondChanged address state =>
      exact (storePriority_byActs manager answers address state.priority).mono
        fun _ => Act.reportable_of_inStoring
  | remoteConnected device now =>
      exact (remoteConnected_byActs manager answers device now).mono
        fun _ => Act.reportable_of_inNoticing
  | connect device =>
      exact (connect_byActs manager (rfl : (· = device) device)).mono
        fun _ => Act.reportable_of_inConnecting
  | disconnect device =>
      exact (disconnect_byActs manager answers device).mono
        fun _ => Act.reportable_of_inDisconnecting
  | storePriority address priority =>
      exact (storePriority_byActs manager answers address priority).mono
        fun _ => Act.reportable_of_inStoring
  | propertyChanged path property =>
      exact (propertyChanged_byActs manager answers path property).mono
        fun _ => Act.reportable_of_inReport
  | commit device previous current => exact absurd rfl (indirect device previous current)

private theorem disconnect_of_active {path : ObjectPath} (found : answers.pathOf device = some path)
    (active : manager.stateOf device = .connecting ∨ manager.stateOf device = .connected ∨
      manager.stateOf device = .playing) :
    manager.disconnect answers device =
      { result := if answers.acceptsDisconnect path then .ok () else .error .nativeCallFailed
        state := manager
        journal := [⟨.disconnect device path (answers.acceptsDisconnect path),
          manager.sinks⟩] } := by
  unfold disconnect
  rw [found]
  rcases active with state | state | state <;> simp only [state] <;> rfl

/-- A disconnect of a sink that the stack can report on succeeds by one accepted native
call and does nothing else. -/
private theorem journal_disconnect_of_ok (reportable : manager.sinks.Reportable)
    (succeeds : (manager.disconnect answers device).result = .ok ()) :
    ∃ path, answers.pathOf device = some path ∧
      (manager.disconnect answers device).journal =
        [⟨.disconnect device path true, manager.sinks⟩] := by
  cases found : answers.pathOf device with
  | none =>
      simp only [disconnect, found] at succeeds
      cases succeeds
  | some path =>
      refine ⟨path, rfl, ?_⟩
      cases state : manager.stateOf device with
      | disconnected =>
          simp only [disconnect, found, state] at succeeds
          cases succeeds
      | disconnecting => exact absurd state (SinkTable.reportable_iff.mp reportable device)
      | connecting | connected | playing =>
          have active : manager.stateOf device = .connecting ∨
              manager.stateOf device = .connected ∨ manager.stateOf device = .playing := by
            simp [state]
          rw [disconnect_of_active found active] at succeeds ⊢
          by_cases accepts : answers.acceptsDisconnect path = true
          · rw [accepts]
          · simp [accepts] at succeeds

private theorem of_commit_disconnecting {committed : Address} {previous : Reading}
    {current : SinkState} (start : manager.stateOf device ≠ .disconnecting)
    (left : (manager.commit committed previous current).state.stateOf device = .disconnecting) :
    committed = device ∧ current = .disconnecting := by
  unfold commit enter? at left
  split at left
  · exact absurd left start
  · cases taken : manager.sinks.insert? committed (.known current) with
    | none =>
        rw [taken] at left
        exact absurd left start
    | some sinks =>
        have entered : SinkTable.stateOf sinks device = .disconnecting := by
          rw [taken] at left
          dsimp only [Option.map_some] at left
          split at left <;> exact left
        rw [SinkTable.stateOf_of_insert? taken] at entered
        split at entered
        · next same => exact ⟨same.symm, entered⟩
        · exact absurd entered start

end Manager

/-! ## Runs -/

/-- A disconnect of a device succeeds, be it asked for by a request or directly. -/
def Turn.Disconnects (turn : Turn) (device : Address) : Prop :=
  (turn.operation = .request (.disconnect device) ∧ turn.outcome.result = .response .done) ∨
    (turn.operation = .disconnect device ∧ turn.outcome.result = .judged (.ok ()))

/-- All through a turn no sink is disconnecting, and whoever disconnects one successfully
has made one native call, which was accepted. -/
structure Turn.KeepsReportable (turn : Turn) : Prop where
  tracked : turn.outcome.state.sinks.Reportable
  told : ∀ entry ∈ turn.outcome.journal, entry.Reportable
  disconnected : ∀ device, turn.Disconnects device →
    ∃ path, turn.answers.pathOf device = some path ∧
      turn.outcome.journal = [⟨.disconnect device path true, turn.manager.sinks⟩]

namespace Turn

variable {turn : Turn} {device : Address}

private theorem journal_of_disconnects (reportable : turn.manager.sinks.Reportable)
    (disconnects : turn.Disconnects device) :
    ∃ path, turn.answers.pathOf device = some path ∧
      turn.outcome.journal = [⟨.disconnect device path true, turn.manager.sinks⟩] := by
  obtain ⟨manager, answers, operation⟩ := turn
  rcases disconnects with ⟨request, done⟩ | ⟨direct, done⟩
  · obtain rfl : operation = _ := request
    have answer : Manager.responseOf (manager.disconnect answers device).result = .done :=
      Reply.response.inj done
    refine Manager.journal_disconnect_of_ok reportable ?_
    cases result : (manager.disconnect answers device).result with
    | ok => rfl
    | error cause =>
        rw [result] at answer
        cases answer
  · obtain rfl : operation = _ := direct
    exact Manager.journal_disconnect_of_ok reportable (Reply.judged.inj done)

theorem keepsReportable
    (indirect : ∀ device previous current, turn.operation ≠ .commit device previous current)
    (start : turn.manager.sinks.Reportable) : turn.KeepsReportable := by
  have acts := Manager.perform_reportable indirect turn.manager turn.answers
  obtain ⟨left, told⟩ := Act.Steps.reportable (fun _ fits => fits) acts start
  exact ⟨left, told, fun device => journal_of_disconnects start⟩

end Turn

namespace Manager

theorem turns_keepReportable {manager : Manager} {steps : List (Collaborators × Operation)}
    (indirect : ∀ step ∈ steps, ∀ device previous current,
      step.2 ≠ .commit device previous current)
    (start : manager.sinks.Reportable) : ∀ turn ∈ manager.turns steps, turn.KeepsReportable := by
  induction steps generalizing manager with
  | nil => simp [turns]
  | cons step rest ih =>
      have first : (⟨manager, step.1, step.2⟩ : Turn).KeepsReportable :=
        Turn.keepsReportable (indirect step List.mem_cons_self) start
      refine List.forall_mem_cons.mpr ⟨first, ih (fun later member => ?_) first.tracked⟩
      exact indirect later (List.mem_cons_of_mem step member)

/-- Only a direct commit makes a device disconnecting. -/
theorem exists_commit_of_disconnecting {manager : Manager} {answers : Collaborators}
    {operation : Operation} {device : Address}
    (start : manager.sinks.get? device ≠ some (.known .disconnecting))
    (left : (manager.perform answers operation).state.sinks.get? device =
      some (.known .disconnecting)) :
    ∃ previous, operation = .commit device previous .disconnecting := by
  have before : manager.stateOf device ≠ .disconnecting := fun state =>
    start (SinkTable.get?_of_stateOf state SinkState.noConfusion)
  have after : (manager.perform answers operation).state.stateOf device = .disconnecting :=
    SinkTable.stateOf_of_get? left
  refine Classical.byContradiction fun other => ?_
  by_cases indirect : ∀ device previous current, operation ≠ .commit device previous current
  · have acts := perform_reportable indirect manager answers
    have kept := acts.invariant (fun fits step => step.stateOf_ne_disconnecting fits) before
    exact kept after
  · simp only [not_forall, not_not] at indirect
    obtain ⟨committed, previous, current, rfl⟩ := indirect
    obtain ⟨rfl, rfl⟩ := of_commit_disconnecting before after
    exact other ⟨previous, rfl⟩

/-- Whatever the stack reports, no sink is ever disconnecting. Every operation may take part
but the one that commits a state directly, and that one alone can make a sink so. A report
cannot, because it names each of the other states in any letter case and nothing else. -/
theorem run_never_disconnecting {steps : List (Collaborators × Operation)}
    (indirect : ∀ step ∈ steps, ∀ device previous current,
      step.2 ≠ .commit device previous current) (setup : Setup) :
    (∀ turn ∈ (Manager.new setup).turns steps, turn.KeepsReportable) ∧
    (∀ (manager : Manager) answers operation device,
      manager.sinks.get? device ≠ some (.known .disconnecting) →
      (manager.perform answers operation).state.sinks.get? device =
          some (.known .disconnecting) →
        ∃ previous, operation = .commit device previous .disconnecting) ∧
    (∀ report state, SinkState.ofReport? report = some state ↔
      Text.AgreeUpToCase report state.name ∧ state ≠ .disconnecting) ∧
    ∀ report,
      (Reading.ofReport report = .invalid ↔
        ∀ state : SinkState, Text.AgreeUpToCase report state.name → state = .disconnecting) ∧
      ((∃ letter ∈ report.toList, 128 ≤ letter.toNat) → Reading.ofReport report = .invalid) := by
  refine ⟨turns_keepReportable indirect (by simp [SinkTable.Reportable, new]),
    fun _ _ _ _ => exists_commit_of_disconnecting, fun _ _ => SinkState.ofReport?_eq_some_iff,
    fun report => ⟨Reading.ofReport_eq_invalid_iff, ?_⟩⟩
  exact Reading.ofReport_of_not_ascii

section Sample

open Simulation

/-- A sink describes itself by the name that no report can use, is reported connected, is
disconnected at a request, and reports that name once more. -/
def foundDisconnecting : List (Collaborators × Operation) :=
  [(oneSink "Disconnecting", .request (.connect (sampleAddress 1))),
    (oneSink "Disconnecting", .event reportConnected .zero),
    (oneSink "Disconnecting", .request (.disconnect (sampleAddress 1))),
    (oneSink "Disconnecting", .event reportDisconnecting .zero)]

theorem run_never_disconnecting_of_foundDisconnecting :
    (∀ step ∈ foundDisconnecting, ∀ device previous current,
      step.2 ≠ .commit device previous current) ∧
    (∃ turn ∈ (Manager.new {}).turns foundDisconnecting, turn.KeepsReportable ∧
      turn.Disconnects (sampleAddress 1) ∧
      turn.manager.sinks.entries = [(sampleAddress 1, .known .connected)]) ∧
    ((Manager.new {}).run foundDisconnecting).state.sinks.entries =
      [(sampleAddress 1, .invalid)] ∧
    ((Manager.new {}).perform (oneSink "connected")
      (.commit (sampleAddress 1) .invalid .disconnecting)).state.sinks.entries =
      [(sampleAddress 1, .known .disconnecting)] := by
  have indirect : ∀ step ∈ foundDisconnecting, ∀ device previous current,
      step.2 ≠ .commit device previous current := by
    simp [foundDisconnecting]
  have kept := (run_never_disconnecting indirect {}).1
  have disconnecting : ((Manager.new {}).turns foundDisconnecting)[2] ∈
      (Manager.new {}).turns foundDisconnecting := List.getElem_mem _
  exact ⟨indirect, ⟨_, disconnecting, kept _ disconnecting, .inl ⟨rfl, rfl⟩, by decide⟩,
    by decide, by decide⟩

end Sample

end Manager

end AudioHost
