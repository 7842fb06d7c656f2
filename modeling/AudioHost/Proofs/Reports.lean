import AudioHost.Proofs.Connects
import AudioHost.Proofs.Frame

/-!
# What a report comes to

A report that gets through speaks for a tracked device itself. For a device that is not
tracked it is only the occasion to read what the stack says about it.
-/

set_option autoImplicit false

namespace AudioHost

/-- A report gets through to the manager: it tells the state of the device to which its
path leads. -/
structure Collaborators.Hears (answers : Collaborators) (path : String)
    (property : SinkProperty) (device : Address) : Prop where
  enabled : answers.adapterEnabled = true
  leads : answers.deviceAt path = some device
  named : property.name.text = "State"

/-- What listeners are told of a device that the stack moves from one state to another. -/
def Effect.moved (device : Address) (previous current : SinkState) : List Effect :=
  if previous = current then []
  else if (previous = .connected ∨ previous = .playing) ∧ current = .disconnected then
    [.becomingNoisy, .stateChanged device previous current]
  else [.stateChanged device previous current]

/-- Listeners learn of a sink, and nothing is asked of the stack or of the store. -/
def Effect.IsNotice : Effect → Prop
  | .stateChanged _ _ _ | .becomingNoisy => True
  | .connect _ _ _ | .disconnect _ _ _ | .storePriority _ _ _ | .audioEnabled _ => False

namespace Manager

variable {manager : Manager} {answers : Collaborators} {path : String}
  {property : SinkProperty} {device : Address} {previous reading : Reading}

private theorem effects_of_reported (table : SinkTable) (device : Address) (previous : SinkState)
    {current : SinkState} (reported : current ≠ .disconnecting) :
    (changeJournal table device previous current).map JournalEntry.effect =
      Effect.moved device previous current := by
  rw [map_effect_changeJournal]
  cases previous <;> cases current <;> first | rfl | exact absurd rfl reported

/-! ## Computing the outcome -/

theorem propertyChanged_of_unheard
    (unheard : answers.adapterEnabled = false ∨ answers.deviceAt path = none ∨
      property.name.text ≠ "State") :
    manager.propertyChanged answers path property = .quiet () manager := by
  unfold propertyChanged
  split
  case isFalse => rfl
  next enabled =>
    split
    · rfl
    · next device leads =>
        have other : ¬ property.tellsState = true := by
          rw [SinkProperty.tellsState_iff]
          rcases unheard with off | lost | other
          · cases off.symm.trans enabled
          · cases lost.symm.trans leads
          · exact other
        rw [if_neg other]

theorem unheard_of_not_hears (silent : ¬ ∃ device, answers.Hears path property device) :
    answers.adapterEnabled = false ∨ answers.deviceAt path = none ∨
      property.name.text ≠ "State" := by
  refine Classical.byContradiction fun through => silent ?_
  simp only [not_or, Bool.not_eq_false, ← ne_eq, Option.ne_none_iff_exists', not_not] at through
  obtain ⟨enabled, ⟨device, leads⟩, named⟩ := through
  exact ⟨device, enabled, leads, named⟩

theorem propertyChanged_of_untracked (hears : answers.Hears path property device)
    (absent : device ∉ manager.sinks.keys) :
    manager.propertyChanged answers path property =
      (manager.track answers device).map fun _ => () := by
  have untracked := BoundedMap.get?_eq_none_iff.mpr absent
  have tells := SinkProperty.tellsState_iff.mpr hears.named
  simp only [propertyChanged, hears.enabled, hears.leads, tells, untracked, if_true]

theorem propertyChanged_of_tracked (hears : answers.Hears path property device)
    (tracked : manager.sinks.get? device = some previous) :
    manager.propertyChanged answers path property =
      manager.applyReport device previous property.value.text := by
  have tells := SinkProperty.tellsState_iff.mpr hears.named
  simp only [propertyChanged, hears.enabled, hears.leads, tells, tracked, if_true]

/-- A report that tells what is known already is lost without a trace. -/
private theorem applyReport_of_known {report : String}
    (tracked : manager.sinks.get? device = some (.ofReport report)) :
    manager.applyReport device (.ofReport report) report = .quiet () manager := by
  rw [applyReport_of_tracked tracked, BoundedMap.replace_of_get?_eq_some tracked,
    changeJournal_self, afterChange_self]
  rfl

theorem get?_applyReport (tracked : manager.sinks.get? device = some previous)
    (report : String) (other : Address) :
    (manager.applyReport device previous report).state.sinks.get? other =
      if other = device then some (.ofReport report) else manager.sinks.get? other := by
  rw [applyReport_of_tracked tracked]
  exact BoundedMap.get?_replace_of_mem (BoundedMap.mem_keys_of_get? tracked) other _

theorem effects_applyReport (tracked : manager.sinks.get? device = some previous)
    (report : String) :
    (manager.applyReport device previous report).effects =
      Effect.moved device previous.state (Reading.ofReport report).state := by
  rw [applyReport_of_tracked tracked]
  exact effects_of_reported _ device _ (Reading.state_ofReport_ne_disconnecting report)

/-! ## The outcome -/

/-- A tracked device takes over a reading in its place, and listeners learn of the change. -/
structure Rereads (manager : Manager) (device : Address) (previous reading : Reading)
    (outcome : Outcome Manager Unit) : Prop where
  table : outcome.state.sinks.entries = manager.sinks.entries.map fun entry =>
    if entry.1 = device then (device, reading) else entry
  told : outcome.effects = Effect.moved device previous.state reading.state

/-- A device that was not tracked goes to the end of the table, as if it had been
disconnected until then. -/
structure Appends (manager : Manager) (device : Address) (reading : Reading)
    (outcome : Outcome Manager Unit) : Prop where
  table : outcome.state.sinks.entries = manager.sinks.entries ++ [(device, reading)]
  told : outcome.effects = Effect.moved device .disconnected reading.state

private theorem rereads_applyReport (tracked : manager.sinks.get? device = some previous)
    (report : String) :
    manager.Rereads device previous (.ofReport report)
      (manager.applyReport device previous report) where
  table := by
    rw [applyReport_of_tracked tracked]
    rfl
  told := effects_applyReport tracked report

private theorem appends_track {sinks : SinkTable} (absent : device ∉ manager.sinks.keys)
    (reported : reading.state ≠ .disconnecting)
    (read : answers.readSink device = .ok reading)
    (taken : manager.sinks.insert? device reading = some sinks) :
    manager.Appends device reading ((manager.track answers device).map fun _ => ()) where
  table := by
    rw [track_of_taken read taken]
    exact ((BoundedMap.insert?_eq_some_iff_of_not_mem absent).mp taken).2
  told := by
    rw [track_of_taken read taken]
    exact effects_of_reported sinks device _ reported

private theorem track_of_turnedAway (absent : device ∉ manager.sinks.keys)
    (away : answers.pathOf device = none ∨
      (∃ back, answers.pathOf device = some back ∧ answers.sinkProperties back = none) ∨
      manager.sinks.entries.length = Limits.sinkDevices) :
    (manager.track answers device).map (fun _ => ()) = .quiet () manager := by
  cases read : answers.readSink device with
  | error cause =>
      rw [track_of_unread read]
      rfl
  | ok reading =>
      obtain ⟨back, properties, found, readable, _⟩ := Collaborators.readSink_eq_ok_iff.mp read
      have full : manager.sinks.entries.length = Limits.sinkDevices := by
        rcases away with lost | ⟨other, foundToo, unread⟩ | full
        · cases lost.symm.trans found
        · cases foundToo.symm.trans found
          cases unread.symm.trans readable
        · exact full
      rw [track_of_full read (BoundedMap.insert?_eq_none_iff.mpr ⟨absent, full⟩)]
      rfl

private theorem get?_track_of_ne {other : Address} (different : other ≠ device) :
    (manager.track answers device).state.sinks.get? other = manager.sinks.get? other := by
  cases read : answers.readSink device with
  | error cause =>
      rw [track_of_unread read]
      rfl
  | ok reading =>
      cases taken : manager.sinks.insert? device reading with
      | none =>
          rw [track_of_full read taken]
          rfl
      | some sinks =>
          rw [track_of_taken read taken]
          exact (BoundedMap.get?_of_insert?_eq_some taken other).trans (if_neg different)

private theorem get?_propertyChanged_of_ne {other : Address}
    (elsewhere : answers.deviceAt path ≠ some other) :
    (manager.propertyChanged answers path property).state.sinks.get? other =
      manager.sinks.get? other := by
  by_cases hears : ∃ device, answers.Hears path property device
  · obtain ⟨device, hears⟩ := hears
    have different : other ≠ device := fun same => elsewhere (same ▸ hears.leads)
    by_cases present : device ∈ manager.sinks.keys
    · obtain ⟨previous, tracked⟩ := BoundedMap.mem_keys_iff_get?.mp present
      rw [propertyChanged_of_tracked hears tracked, get?_applyReport tracked, if_neg different]
    · rw [propertyChanged_of_untracked hears present]
      exact get?_track_of_ne different
  · rw [propertyChanged_of_unheard (unheard_of_not_hears hears)]
    rfl

theorem isNotice_of_propertyChanged {effect : Effect}
    (member : effect ∈ (manager.propertyChanged answers path property).effects) :
    effect.IsNotice := by
  obtain ⟨entry, written, rfl⟩ := List.mem_map.mp member
  obtain ⟨act, _, _, _, allowed, step, told⟩ :=
    Act.Steps.exists_step (propertyChanged_byActs manager answers path property) written
  cases step with
  | enroll _ _ | report _ =>
      obtain ⟨_, _, ⟨noisy, _⟩ | changed⟩ := mem_changeJournal told
      · rw [noisy]
        trivial
      · rw [changed]
        trivial
  | _ => cases allowed

/-- What a report comes to. -/
structure ReportComesTo (manager : Manager) (answers : Collaborators) (path : String)
    (property : SinkProperty) (outcome : Outcome Manager Unit) : Prop where
  ignored : answers.adapterEnabled = false ∨ answers.deviceAt path = none ∨
    property.name.text ≠ "State" → outcome = .quiet () manager
  recognized : ∀ device previous state, answers.Hears path property device →
    manager.sinks.get? device = some previous →
    Text.AgreeUpToCase property.value.text state.name → state ≠ .disconnecting →
      manager.Rereads device previous (.known state) outcome
  unrecognized : ∀ device previous, answers.Hears path property device →
    manager.sinks.get? device = some previous →
    (∀ state : SinkState, Text.AgreeUpToCase property.value.text state.name →
      state = .disconnecting) →
      manager.Rereads device previous .invalid outcome
  /-- The same report once more, as long as its path leads to the same device. -/
  repeated : ∀ device, device ∈ manager.sinks.keys → answers.Hears path property device →
    ∀ later : Collaborators, later.Hears path property device →
      outcome.state.propertyChanged later path property = .quiet () outcome.state
  /-- What is read of the device counts, not what is reported. -/
  appended : ∀ device back properties reading, answers.Hears path property device →
    device ∉ manager.sinks.keys → answers.pathOf device = some back →
    answers.sinkProperties back = some properties →
    SinkProperty.Describes properties reading →
    manager.sinks.entries.length < Limits.sinkDevices →
      manager.Appends device reading outcome
  turnedAway : ∀ device, answers.Hears path property device → device ∉ manager.sinks.keys →
    answers.pathOf device = none ∨
      (∃ back, answers.pathOf device = some back ∧ answers.sinkProperties back = none) ∨
      manager.sinks.entries.length = Limits.sinkDevices →
      outcome = .quiet () manager
  others : ∀ other, answers.deviceAt path ≠ some other →
    outcome.state.sinks.get? other = manager.sinks.get? other
  uncalled : ∀ effect ∈ outcome.effects, ∀ device path accepted,
    effect ≠ .connect device path accepted ∧ effect ≠ .disconnect device path accepted
  waiting : outcome.state.pending = manager.pending

theorem propertyChanged_comesTo (manager : Manager) (answers : Collaborators) (path : String)
    (property : SinkProperty) :
    manager.ReportComesTo answers path property
      (manager.propertyChanged answers path property) := by
  constructor
  case ignored => exact propertyChanged_of_unheard
  case recognized =>
      intro device previous state hears tracked agree reported
      have read := Reading.ofReport_eq_known_iff.mpr ⟨agree, reported⟩
      rw [propertyChanged_of_tracked hears tracked, ← read]
      exact rereads_applyReport tracked _
  case unrecognized =>
      intro device previous hears tracked unlike
      have read := Reading.ofReport_eq_invalid_iff.mpr unlike
      rw [propertyChanged_of_tracked hears tracked, ← read]
      exact rereads_applyReport tracked _
  case repeated =>
      intro device present hears later hearsLater
      obtain ⟨previous, tracked⟩ := BoundedMap.mem_keys_iff_get?.mp present
      rw [propertyChanged_of_tracked hears tracked]
      have known := (get?_applyReport tracked property.value.text device).trans (if_pos rfl)
      rw [propertyChanged_of_tracked hearsLater known, applyReport_of_known known]
  case appended =>
      intro device back properties reading hears absent found readable describes room
      have read := Collaborators.readSink_eq_ok_iff.mpr
        ⟨back, properties, found, readable, describes⟩
      have reported : reading.state ≠ .disconnecting := by
        rw [← SinkProperty.reading_eq_iff_describes.mpr describes]
        exact SinkProperty.state_reading_ne_disconnecting properties
      rw [propertyChanged_of_untracked hears absent]
      cases taken : manager.sinks.insert? device reading with
      | none => exact absurd (BoundedMap.insert?_eq_none_iff.mp taken).2 (Nat.ne_of_lt room)
      | some sinks => exact appends_track absent reported read taken
  case turnedAway =>
      intro device hears absent away
      rw [propertyChanged_of_untracked hears absent]
      exact track_of_turnedAway absent away
  case others => exact fun _ => get?_propertyChanged_of_ne
  case uncalled =>
      intro effect member device path accepted
      have notice := isNotice_of_propertyChanged member
      constructor
      · rintro rfl
        exact notice
      · rintro rfl
        exact notice
  case waiting =>
      exact Act.Steps.pending_of_not_reschedules (fun _ allowed => allowed)
        (propertyChanged_byActs manager answers path property)

end Manager

end AudioHost
