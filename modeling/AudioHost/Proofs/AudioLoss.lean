import AudioHost.Proofs.Frame
import AudioHost.Proofs.Scan
import AudioHost.Sink.Report

/-!
# Warnings before audio is lost

When a connected sink goes away, listeners should hear beforehand that audio becomes
noisy. They do when the sink is reported gone and when the adapter turns off. They do not
when the sink is first reported as connecting again, nor when a scan finds it gone.
-/

set_option autoImplicit false

namespace AudioHost

/-- A report with this reading of a device gets through to the manager. -/
def Operation.Reports (answers : Collaborators) (device : Address) (reading : Reading) :
    Operation → Prop
  | .event (.propertyChanged path property) _ =>
      answers.adapterEnabled = true ∧ property.tellsState = true ∧
        answers.deviceAt path.text = some device ∧ reading = .ofReport property.value.text
  | _ => False

private theorem Operation.Reports.exists_event {operation : Operation} {answers : Collaborators}
    {device : Address} {reading : Reading} (reports : operation.Reports answers device reading) :
    ∃ path property now, operation = .event (.propertyChanged path property) now ∧
      answers.adapterEnabled = true ∧ property.tellsState = true ∧
        answers.deviceAt path.text = some device ∧ reading = .ofReport property.value.text := by
  unfold Reports at reports
  split at reports
  · exact ⟨_, _, _, rfl, reports⟩
  · cases reports

namespace Turn

/-- A connected device stops being connected, and nobody is warned: it is reported as
connecting, or a scan of the bonded devices reads it as not connected. -/
def LosesUnwarned (turn : Turn) (device : Address) : Prop :=
  (turn.manager.stateOf device).isUp = true ∧
    (turn.operation.Reports turn.answers device (.known .connecting) ∨
      ∃ now reading, turn.operation = .event (.adapterChanged .on) now ∧
        (device, reading) ∈ turn.answers.candidates ∧ reading.state.isUp = false)

/-- A connected device is disconnected with a warning: it is reported as disconnected or
under a text that names no state, or the adapter turns off. -/
def LosesWarned (turn : Turn) (device : Address) : Prop :=
  (turn.manager.stateOf device).isUp = true ∧
    ((∃ reading, turn.operation.Reports turn.answers device reading ∧
        reading.state = .disconnected) ∨
      ∃ now, turn.operation = .event (.adapterChanged .turningOff) now)

end Turn

/-! ## Acts -/

private theorem Manager.noisy_mem_changeJournal_iff {table : SinkTable} {device : Address}
    {previous current : SinkState} :
    Effect.becomingNoisy ∈
        (changeJournal table device previous current).map JournalEntry.effect ↔
      losesAudio previous current = true := by
  rw [map_effect_changeJournal]
  cases previous <;> cases current <;>
    simp [announcement, losesAudio, SinkState.isUp, SinkState.isDown]

namespace Act

variable {answers : Collaborators} {act : Act} {before after manager final : Manager}
  {written journal : List JournalEntry} {entry : JournalEntry} {device : Address}

private theorem Step.of_noisy (step : Step answers act before written after)
    (member : entry ∈ written) (noisy : entry.effect = .becomingNoisy) :
    ∃ device previous reading, act = .report device reading ∧
      before.sinks.get? device = some previous ∧
        Manager.losesAudio previous.state reading.state = true := by
  cases step with
  | connect _ _ _ | disconnect _ _ | storePriority | tellAudio =>
      rw [List.mem_singleton] at member
      subst member
      cases noisy
  | enroll _ _ | overwrite _ =>
      obtain ⟨_, _, ⟨_, loses⟩ | told⟩ := Manager.mem_changeJournal member
      · simp [Manager.losesAudio, SinkState.isUp] at loses
      · cases told.symm.trans noisy
  | report tracked =>
      obtain ⟨_, _, ⟨_, loses⟩ | told⟩ := Manager.mem_changeJournal member
      · exact ⟨_, _, _, rfl, tracked, loses⟩
      · cases told.symm.trans noisy
  | forget _ | recount | reschedule => cases member

private theorem Step.isUp_before_release (allowed : act.InRelease)
    (step : Step answers act before written after)
    (up : (after.stateOf device).isUp = true) : (before.stateOf device).isUp = true := by
  cases step with
  | disconnect _ _ | tellAudio => exact up
  | report tracked =>
      obtain rfl : _ = Reading.known .disconnected := allowed
      have state := SinkTable.stateOf_replace (BoundedMap.mem_keys_of_get? tracked) device
        (.known .disconnected)
      unfold Manager.stateOf at up
      rw [Manager.sinks_afterChange, state] at up
      split at up
      · cases up
      · exact up
  | forget _ => cases up
  | connect _ _ _ | storePriority | enroll _ _ | overwrite _ | recount | reschedule =>
      cases allowed

private theorem Steps.isUp_of_noisy (steps : Steps answers InRelease manager journal final)
    (member : entry ∈ journal) (noisy : entry.effect = .becomingNoisy) :
    ∃ device, (manager.stateOf device).isUp = true := by
  induction steps with
  | none => cases member
  | next allowed step _ ih =>
      rcases List.mem_append.mp member with first | later
      · obtain ⟨device, previous, reading, _, tracked, loses⟩ := step.of_noisy first noisy
        refine ⟨device, ?_⟩
        unfold Manager.losesAudio at loses
        rw [Bool.and_eq_true] at loses
        exact (congrArg _ (SinkTable.stateOf_of_get? tracked)).trans loses.1
      · obtain ⟨device, up⟩ := ih later
        exact ⟨device, step.isUp_before_release allowed up⟩

/-- Letting go of a connected device warns, or has not come to the device yet. -/
private theorem Step.noisy_or_isUp (allowed : act.InRelease)
    (step : Step answers act before written after)
    (up : (before.stateOf device).isUp = true) :
    Effect.becomingNoisy ∈ written.map JournalEntry.effect ∨
      (after.stateOf device).isUp = true := by
  cases step with
  | disconnect _ _ | tellAudio => exact .inr up
  | @report _ reported previous reading tracked =>
      obtain rfl : reading = .known .disconnected := allowed
      have present := BoundedMap.mem_keys_of_get? tracked
      by_cases same : device = reported
      · subst same
        unfold Manager.stateOf at up
        rw [SinkTable.stateOf_of_get? tracked] at up
        refine .inl (Manager.noisy_mem_changeJournal_iff.mpr ?_)
        simp [Manager.losesAudio, up, SinkState.isDown]
      · refine .inr ?_
        unfold Manager.stateOf
        rw [Manager.sinks_afterChange, SinkTable.stateOf_replace present, if_neg same]
        exact up
  | forget idle =>
      have down := SinkTable.isBusy_eq_false_iff.mp idle device
      cases (congrArg SinkState.isUp down).symm.trans up
  | connect _ _ _ | storePriority | enroll _ _ | overwrite _ | recount | reschedule =>
      cases allowed

private theorem Steps.noisy_or_isUp (steps : Steps answers InRelease manager journal final)
    (up : (manager.stateOf device).isUp = true) :
    Effect.becomingNoisy ∈ journal.map JournalEntry.effect ∨
      (final.stateOf device).isUp = true := by
  induction steps with
  | none => exact .inr up
  | next allowed step _ ih =>
      rw [List.map_append, List.mem_append]
      rcases step.noisy_or_isUp allowed up with now | still
      · exact .inl (.inl now)
      · rcases ih still with later | remains
        · exact .inl (.inr later)
        · exact .inr remains

end Act

/-! ## Reports -/

private theorem Reading.isDown_ofReport_iff {report : String} :
    (ofReport report).state.isDown = true ↔ (ofReport report).state = .disconnected := by
  have reportable := state_ofReport_ne_disconnecting report
  cases state : (ofReport report).state with
  | disconnecting => exact absurd state reportable
  | disconnected | connecting | connected | playing => simp [SinkState.isDown]

private theorem Reading.of_report_not_up {report : String}
    (down : (ofReport report).state.isUp = false) :
    (ofReport report).state = .disconnected ∨ ofReport report = .known .connecting := by
  have reportable := state_ofReport_ne_disconnecting report
  cases named : ofReport report with
  | invalid => exact .inl rfl
  | known state =>
      rw [named] at down reportable
      cases state with
      | disconnected => exact .inl rfl
      | connecting => exact .inr rfl
      | connected | playing => cases down
      | disconnecting => exact absurd rfl reportable

namespace Manager

variable {manager : Manager} {answers : Collaborators} {operation : Operation}
  {device : Address} {reading previous : Reading}

private theorem perform_of_reports (reports : operation.Reports answers device reading)
    (tracked : manager.sinks.get? device = some previous) :
    (manager.perform answers operation).state =
        manager.afterChange (manager.sinks.replace device reading) previous.state
          reading.state ∧
      (manager.perform answers operation).journal =
        changeJournal (manager.sinks.replace device (.known reading.state)) device
          previous.state reading.state := by
  obtain ⟨path, property, now, rfl, enabled, tells, leads, rfl⟩ := reports.exists_event
  have changed : manager.propertyChanged answers path.text property =
      manager.applyReport device previous property.value.text := by
    simp only [propertyChanged, enabled, leads, tells, tracked, if_true]
  simp only [perform, applyEvent, changed, applyReport_of_tracked tracked]
  exact ⟨rfl, rfl⟩

private theorem not_noisy_of_untracked (reports : operation.Reports answers device reading)
    (untracked : manager.sinks.get? device = none) :
    Effect.becomingNoisy ∉ (manager.perform answers operation).effects := by
  obtain ⟨path, property, now, rfl, enabled, tells, leads, rfl⟩ := reports.exists_event
  have changed : manager.propertyChanged answers path.text property =
      (manager.track answers device).map fun _ => () := by
    simp only [propertyChanged, enabled, leads, tells, untracked, if_true]
  have enrolls : (manager.track answers device).ByActs answers
      (fun act => ∃ reading, act = .enroll device reading) manager :=
    track_byActs untracked fun reading _ => ⟨reading, rfl⟩
  simp only [perform, applyEvent, changed, Outcome.effects_map]
  intro warned
  obtain ⟨entry, member, noisy⟩ := List.mem_map.mp warned
  obtain ⟨act, _, _, _, ⟨_, rfl⟩, step, written⟩ := enrolls.exists_step member
  obtain ⟨_, _, _, reported, _⟩ := step.of_noisy written noisy
  cases reported

end Manager

/-! ## Turns -/

private theorem Operation.of_permits_report {operation : Operation} {manager : Manager}
    {answers : Collaborators} {device : Address} {reading : Reading}
    (allowed : operation.Permits manager answers (.report device reading)) :
    operation.Reports answers device reading ∨
      ∃ now, operation = .event (.adapterChanged .turningOff) now := by
  unfold Permits at allowed
  split at allowed
  case h_2 now => exact .inr ⟨now, rfl⟩
  case h_5 => exact .inl allowed
  case h_9 =>
      rcases allowed with drained | connecting
      · cases drained
      · cases connecting
  all_goals cases allowed

private theorem Operation.reports_unique {operation : Operation} {answers : Collaborators}
    {left right : Address} {leftReading rightReading : Reading}
    (leftReports : operation.Reports answers left leftReading)
    (rightReports : operation.Reports answers right rightReading) :
    left = right ∧ leftReading = rightReading := by
  obtain ⟨_, _, _, rfl, _, _, leftLeads, leftRead⟩ := leftReports.exists_event
  obtain ⟨_, _, rightLeads, rightRead⟩ := rightReports
  exact ⟨Option.some.inj (leftLeads.symm.trans rightLeads), leftRead.trans rightRead.symm⟩

namespace Manager

variable {manager : Manager} {answers : Collaborators} {operation : Operation}
  {device : Address} {reading : Reading}

private theorem tracked_of_isUp (up : (manager.stateOf device).isUp = true) :
    manager.sinks.get? device = some (.known (manager.stateOf device)) := by
  apply SinkTable.get?_of_stateOf rfl
  intro down
  unfold stateOf at up
  rw [down] at up
  cases up

private theorem stateOf_of_reports {previous : Reading}
    (reports : operation.Reports answers device reading)
    (tracked : manager.sinks.get? device = some previous) :
    (manager.perform answers operation).state.stateOf device = reading.state := by
  rw [(perform_of_reports reports tracked).1]
  have present := BoundedMap.mem_keys_of_get? tracked
  exact (SinkTable.stateOf_replace present device reading).trans (if_pos rfl)

private theorem candidate_of_scan_down (up : (manager.stateOf device).isUp = true)
    (down : ((manager.scanBonded answers).state.stateOf device).isUp = false) :
    ∃ reading, (device, reading) ∈ answers.candidates ∧ reading.state.isUp = false := by
  by_cases seated : device ∈ (manager.sinks.seated answers.candidates).map Prod.fst
  · obtain ⟨⟨found, reading⟩, place, same⟩ := List.mem_map.mp seated
    obtain rfl : found = device := same
    refine ⟨reading, SinkTable.mem_of_mem_seated place, ?_⟩
    rw [← (scanBonded_of_seated place).1]
    exact down
  · rw [(scanBonded_of_not_seated seated).1, up] at down
    cases down

private theorem noisy_iff_of_reports (reports : operation.Reports answers device reading) :
    Effect.becomingNoisy ∈ (manager.perform answers operation).effects ↔
      (manager.stateOf device).isUp = true ∧ reading.state = .disconnected := by
  cases tracked : manager.sinks.get? device with
  | none =>
      have state := SinkTable.stateOf_of_untracked tracked
      constructor
      · intro warned
        exact absurd warned (not_noisy_of_untracked reports tracked)
      · rintro ⟨up, _⟩
        unfold stateOf at up
        rw [state] at up
        cases up
  | some previous =>
      have journal := (perform_of_reports reports tracked).2
      have state := SinkTable.stateOf_of_get? tracked
      unfold Outcome.effects stateOf
      rw [journal, state, noisy_mem_changeJournal_iff, losesAudio, Bool.and_eq_true]
      obtain ⟨_, _, _, _, _, _, _, rfl⟩ := reports.exists_event
      rw [Reading.isDown_ofReport_iff]

private theorem noisy_iff_of_release (manager : Manager) (answers : Collaborators) :
    Effect.becomingNoisy ∈ (manager.releaseAll answers).effects ↔
      ∃ device, (manager.stateOf device).isUp = true := by
  have acts := releaseAll_byActs manager answers
  constructor
  · intro warned
    obtain ⟨entry, member, noisy⟩ := List.mem_map.mp warned
    exact acts.isUp_of_noisy member noisy
  · rintro ⟨device, up⟩
    rcases acts.noisy_or_isUp up with warned | still
    · exact warned
    · cases still

end Manager

namespace Turn

variable {turn : Turn} {device : Address}

/-- Listeners are warned in exactly those turns in which a connected device is
disconnected by a report or because the adapter turns off. -/
theorem noisy_iff (routed : turn.operation.isRouted = true) :
    Effect.becomingNoisy ∈ turn.outcome.effects ↔ ∃ device, turn.LosesWarned device := by
  obtain ⟨manager, answers, operation⟩ := turn
  constructor
  · intro warned
    obtain ⟨entry, member, noisy⟩ := List.mem_map.mp warned
    have acts := Manager.perform_byActs routed manager answers
    obtain ⟨act, _, _, _, allowed, step, written⟩ := acts.exists_step member
    obtain ⟨device, _, reading, rfl, _⟩ := step.of_noisy written noisy
    rcases Operation.of_permits_report allowed with reports | ⟨now, rfl⟩
    · obtain ⟨up, down⟩ := (Manager.noisy_iff_of_reports reports).mp warned
      exact ⟨device, up, .inl ⟨reading, reports, down⟩⟩
    · obtain ⟨lost, up⟩ := (Manager.noisy_iff_of_release manager answers).mp warned
      exact ⟨lost, up, .inr ⟨now, rfl⟩⟩
  · rintro ⟨device, up, ⟨reading, reports, down⟩ | ⟨now, off⟩⟩
    · exact (Manager.noisy_iff_of_reports reports).mpr ⟨up, down⟩
    · obtain rfl : operation = _ := off
      exact (Manager.noisy_iff_of_release manager answers).mpr ⟨device, up⟩

private theorem not_noisy_of_losesUnwarned (routed : turn.operation.isRouted = true)
    (loses : turn.LosesUnwarned device) : Effect.becomingNoisy ∉ turn.outcome.effects := by
  rw [noisy_iff routed]
  rintro ⟨other, _, warned⟩
  rcases loses.2 with reports | ⟨now, reading, on, _⟩
  · rcases warned with ⟨otherReading, otherReports, down⟩ | ⟨now, off⟩
    · obtain ⟨_, same⟩ := Operation.reports_unique reports otherReports
      rw [← same] at down
      cases down
    · rw [off] at reports
      cases reports
  · rcases warned with ⟨otherReading, otherReports, down⟩ | ⟨later, off⟩
    · rw [on] at otherReports
      cases otherReports
    · cases on.symm.trans off

private theorem loses_of_not_isUp (routed : turn.operation.isRouted = true)
    (up : (turn.manager.stateOf device).isUp = true)
    (down : (turn.outcome.state.stateOf device).isUp = false) :
    turn.LosesUnwarned device ∨ turn.LosesWarned device := by
  obtain ⟨manager, answers, operation⟩ := turn
  change (manager.stateOf device).isUp = true at up
  change ((manager.perform answers operation).state.stateOf device).isUp = false at down
  have tracked := Manager.tracked_of_isUp up
  have rewrites : operation.Rewrites answers device := by
    refine Classical.byContradiction fun spared => ?_
    have kept := Manager.get?_perform_of_not_rewrites routed spared tracked
    have still := congrArg SinkState.isUp (SinkTable.stateOf_of_get? kept)
    exact Bool.false_ne_true (down.symm.trans (still.trans up))
  unfold Operation.Rewrites at rewrites
  split at rewrites
  · next now =>
      obtain ⟨reading, listed, lost⟩ := Manager.candidate_of_scan_down up down
      exact .inl ⟨up, .inr ⟨now, reading, rfl, listed, lost⟩⟩
  · next now => exact .inr ⟨up, .inr ⟨now, rfl⟩⟩
  · next path property now =>
      obtain ⟨enabled, tells, leads⟩ := rewrites
      have reports : (Operation.event (.propertyChanged path property) now).Reports answers
          device (.ofReport property.value.text) := ⟨enabled, tells, leads, rfl⟩
      have after := Manager.stateOf_of_reports reports tracked
      rcases Reading.of_report_not_up ((congrArg SinkState.isUp after).symm.trans down) with
        gone | connecting
      · exact .inr ⟨up, .inl ⟨_, reports, gone⟩⟩
      · exact .inl ⟨up, .inl (connecting ▸ reports)⟩
  · cases rewrites

end Turn

/-! ## Runs -/

namespace Manager

/-- Wherever a device is connected at one point of a run and disconnected at a later one,
listeners are warned in between. -/
def WarnsOfLoss (manager : Manager) (steps : List (Collaborators × Operation))
    (device : Address) : Prop :=
  ∀ front between back, steps = front ++ between ++ back →
    ((manager.run front).state.stateOf device).isUp = true →
    (manager.run (front ++ between)).state.stateOf device = .disconnected →
      Effect.becomingNoisy ∈ ((manager.run front).state.run between).effects

variable {manager : Manager} {steps : List (Collaborators × Operation)} {device : Address}

private theorem isRouted_between {front between back : List (Collaborators × Operation)}
    (routed : ∀ step ∈ steps, step.2.isRouted = true) (split : steps = front ++ between ++ back) :
    ∀ step ∈ between, step.2.isRouted = true := by
  intro step member
  apply routed
  rw [split]
  exact List.mem_append_left _ (List.mem_append_right _ member)

theorem noisy_mem_run_iff (routed : ∀ step ∈ steps, step.2.isRouted = true) :
    Effect.becomingNoisy ∈ (manager.run steps).effects ↔
      ∃ turn ∈ manager.turns steps, ∃ lost, turn.LosesWarned lost := by
  unfold Outcome.effects
  rw [journal_run, List.map_flatMap, List.mem_flatMap]
  constructor
  · rintro ⟨turn, member, warned⟩
    exact ⟨turn, member, (Turn.noisy_iff (isRouted_of_mem_turns routed member)).mp warned⟩
  · rintro ⟨turn, member, lost⟩
    exact ⟨turn, member, (Turn.noisy_iff (isRouted_of_mem_turns routed member)).mpr lost⟩

/-- A device that ends up disconnected is lost somewhere on the way: with a warning, or
else in a turn that loses it unwarned. -/
private theorem noisy_or_losesUnwarned (routed : ∀ step ∈ steps, step.2.isRouted = true)
    (up : (manager.stateOf device).isUp = true)
    (gone : (manager.run steps).state.stateOf device = .disconnected) :
    Effect.becomingNoisy ∈ (manager.run steps).effects ∨
      ∃ front answers operation between, steps = front ++ (answers, operation) :: between ∧
        Turn.LosesUnwarned ⟨(manager.run front).state, answers, operation⟩ device := by
  induction steps generalizing manager with
  | nil =>
      rw [show manager.stateOf device = .disconnected from gone] at up
      cases up
  | cons step rest ih =>
      obtain ⟨answers, operation⟩ := step
      have firstRouted : operation.isRouted = true := routed _ List.mem_cons_self
      have restRouted := fun other member => routed other (List.mem_cons_of_mem _ member)
      rw [effects_run_cons, List.mem_append]
      cases after : ((manager.perform answers operation).state.stateOf device).isUp with
      | true =>
          rcases ih restRouted after gone with later | ⟨front, others, other, between, split, lost⟩
          · exact .inl (.inr later)
          · subst split
            exact .inr ⟨(answers, operation) :: front, others, other, between, rfl, lost⟩
      | false =>
          -- The first turn after which the device is not connected decides.
          let turn : Turn := ⟨manager, answers, operation⟩
          rcases turn.loses_of_not_isUp firstRouted up after with unwarned | warned
          · exact .inr ⟨[], answers, operation, rest, rfl, unwarned⟩
          · exact .inl (.inl ((Turn.noisy_iff firstRouted).mpr ⟨device, warned⟩))

/-- A run warns of the loss of a device exactly if every turn that loses it unwarned is
followed by the warned loss of some device before the first one is seen disconnected. -/
theorem warnsOfLoss_iff (routed : ∀ step ∈ steps, step.2.isRouted = true) (manager : Manager)
    (device : Address) :
    manager.WarnsOfLoss steps device ↔
      ∀ front answers operation between back,
        steps = front ++ (answers, operation) :: between ++ back →
        Turn.LosesUnwarned ⟨(manager.run front).state, answers, operation⟩ device →
        (manager.run (front ++ (answers, operation) :: between)).state.stateOf device =
            .disconnected →
          ∃ later ∈ (manager.run (front ++ [(answers, operation)])).state.turns between,
            ∃ lost, later.LosesWarned lost := by
  constructor
  · intro law front answers operation between back split unwarned gone
    have waitRouted := isRouted_between routed split
    have firstRouted : operation.isRouted = true := waitRouted _ List.mem_cons_self
    have restRouted : ∀ step ∈ between, step.2.isRouted = true := fun step member =>
      waitRouted step (List.mem_cons_of_mem _ member)
    have warned := law front ((answers, operation) :: between) back split unwarned.1 gone
    rw [effects_run_cons, List.mem_append] at warned
    rw [state_run_append]
    rcases warned with now | later
    · exact absurd now (Turn.not_noisy_of_losesUnwarned firstRouted unwarned)
    · exact (noisy_mem_run_iff restRouted).mp later
  · intro condition front between back split up gone
    have betweenRouted := isRouted_between routed split
    have goneAfter := gone
    rw [state_run_append] at goneAfter
    rcases noisy_or_losesUnwarned betweenRouted up goneAfter with
      warned | ⟨inner, answers, operation, rest, rfl, unwarned⟩
    · exact warned
    · rw [← state_run_append] at unwarned
      rw [← List.append_assoc] at split gone
      obtain ⟨later, member, lost⟩ :=
        condition (front ++ inner) answers operation rest back split unwarned gone
      have restRouted : ∀ step ∈ rest, step.2.isRouted = true := fun step stepMember =>
        betweenRouted step (List.mem_append_right _ (List.mem_cons_of_mem _ stepMember))
      have warned := (noisy_mem_run_iff restRouted).mpr ⟨later, member, lost⟩
      rw [List.append_assoc, state_run_append] at warned
      rw [List.append_cons, effects_run_append]
      exact List.mem_append_right _ warned

section Sample

open Simulation

theorem warnsOfLoss_of_foundAndLost :
    (∀ step ∈ foundAndLost, step.2.isRouted = true) ∧
    (Manager.new {}).WarnsOfLoss foundAndLost (sampleAddress 1) ∧
    (((Manager.new {}).run (foundAndLost.take 1)).state.stateOf (sampleAddress 1)).isUp = true ∧
    ((Manager.new {}).run foundAndLost).state.stateOf (sampleAddress 1) = .disconnected := by
  have routed : ∀ step ∈ foundAndLost, step.2.isRouted = true := by
    simp [foundAndLost, Operation.isRouted]
  refine ⟨routed, ?_, by decide, by decide⟩
  rw [warnsOfLoss_iff routed]
  intro front answers operation between back split unwarned
  have step : (answers, operation) ∈ foundAndLost := by
    rw [split]
    simp
  have moment : ∀ now, operation ≠ .event (.adapterChanged .on) now ∧
      ¬ operation.Reports answers (sampleAddress 1) (.known .connecting) := by
    intro now
    simp only [foundAndLost, List.mem_cons, Prod.mk.injEq, List.not_mem_nil, or_false] at step
    rcases step with ⟨_, rfl⟩ | ⟨_, rfl⟩ | ⟨_, rfl⟩ | ⟨_, rfl⟩
    · exact ⟨by simp, id⟩
    · refine ⟨by simp [reportNonsense, sampleReport], fun reports => ?_⟩
      exact absurd reports.2.2.2 (by decide)
    · refine ⟨by simp [reportPlaying, sampleReport], fun reports => ?_⟩
      exact absurd reports.2.2.2 (by decide)
    · exact ⟨by simp, id⟩
  rcases unwarned.2 with reports | ⟨now, _, on, _⟩
  · exact absurd reports (moment .zero).2
  · exact absurd on (moment now).1

/-- A connected sink is reported as connecting again and then as disconnected. -/
def lostByDetour : List (Collaborators × Operation) :=
  [(oneSink "connected", .event (.adapterChanged .on) .zero),
    (oneSink "connecting", .event reportConnecting .zero),
    (oneSink "disconnected", .event reportDisconnected .zero)]

theorem not_warnsOfLoss_of_detour :
    ¬ (Manager.new {}).WarnsOfLoss lostByDetour (sampleAddress 1) := by
  intro law
  have warned := law (lostByDetour.take 1) (lostByDetour.drop 1) [] rfl (by decide) (by decide)
  exact absurd warned (by decide)

end Sample

end Manager

end AudioHost
