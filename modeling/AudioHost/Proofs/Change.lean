import AudioHost.BoundedMap.Lemmas
import AudioHost.Manager.Report
import AudioHost.Proofs.Outcome

/-!
# Changes of state

What a change of a tracked device comes to, and what starting to track a device
comes to: the table, the count and the journal in one equation each. Everything
else about transitions is read off these equations.
-/

set_option autoImplicit false

namespace AudioHost

@[simp] theorem Reading.state_known (state : SinkState) : (known state).state = state := rfl

@[simp] theorem Reading.state_invalid : invalid.state = .disconnected := rfl

namespace SinkTable

theorem stateOf_of_get? {table : SinkTable} {device : Address} {reading : Reading}
    (tracked : table.get? device = some reading) : table.stateOf device = reading.state := by
  simp [stateOf, tracked]

theorem stateOf_of_untracked {table : SinkTable} {device : Address}
    (untracked : table.get? device = none) : table.stateOf device = .disconnected := by
  simp [stateOf, untracked]

theorem get?_of_stateOf {table : SinkTable} {device : Address} {state : SinkState}
    (shown : table.stateOf device = state) (up : state ≠ .disconnected) :
    table.get? device = some (.known state) := by
  cases tracked : table.get? device with
  | none => exact absurd (shown.symm.trans (stateOf_of_untracked tracked)) up
  | some reading =>
      rw [stateOf_of_get? tracked] at shown
      cases reading with
      | known state => exact congrArg (some ∘ Reading.known) shown
      | invalid => exact absurd shown.symm up

theorem get?_of_disconnected {table : SinkTable} {device : Address}
    (present : device ∈ table.keys) (down : table.stateOf device = .disconnected) :
    table.get? device = some (.known .disconnected) ∨ table.get? device = some .invalid := by
  obtain ⟨reading, tracked⟩ := BoundedMap.mem_keys_iff_get?.mp present
  rw [stateOf_of_get? tracked] at down
  cases reading with
  | known state => exact .inl (tracked.trans (congrArg (some ∘ Reading.known) down))
  | invalid => exact .inr tracked

theorem stateOf_congr {left right : SinkTable} {device : Address}
    (same : left.get? device = right.get? device) : left.stateOf device = right.stateOf device := by
  simp [stateOf, same]

/-- The table is busy as long as some device is not disconnected. -/
theorem isBusy_eq_false_iff {table : SinkTable} :
    table.isBusy = false ↔ ∀ device, table.stateOf device = .disconnected := by
  unfold isBusy
  rw [List.any_eq_false]
  constructor
  · intro idle device
    cases tracked : table.get? device with
    | none => exact stateOf_of_untracked tracked
    | some reading =>
        rw [stateOf_of_get? tracked]
        have member : reading ∈ table.values :=
          BoundedMap.mem_values_iff.mpr ⟨device, BoundedMap.get?_eq_some_iff.mp tracked⟩
        simpa [SinkState.isBusy] using idle reading member
  · intro down reading member
    obtain ⟨device, entryMember⟩ := BoundedMap.mem_values_iff.mp member
    have tracked := BoundedMap.get?_eq_some_iff.mpr entryMember
    have state := down device
    rw [stateOf_of_get? tracked] at state
    simp [SinkState.isBusy, state]

theorem stateOf_replace {table : SinkTable} {device : Address} (present : device ∈ table.keys)
    (other : Address) (reading : Reading) :
    SinkTable.stateOf (table.replace device reading) other =
      if other = device then reading.state else table.stateOf other := by
  unfold stateOf
  rw [BoundedMap.get?_replace_of_mem present]
  by_cases same : other = device <;> simp [same]

theorem stateOf_of_insert? {table inserted : SinkTable} {device : Address} {reading : Reading}
    (taken : table.insert? device reading = some inserted) (other : Address) :
    inserted.stateOf other = if other = device then reading.state else table.stateOf other := by
  unfold stateOf
  rw [BoundedMap.get?_of_insert?_eq_some taken]
  by_cases same : other = device <;> simp [same]

end SinkTable

namespace Manager

variable {manager : Manager} {answers : Collaborators} {device : Address}

/-- The journal of a device that goes from one state to another. Staying is not told. -/
def changeJournal (table : SinkTable) (device : Address) (previous current : SinkState) :
    List JournalEntry :=
  if previous = current then []
  else (announcement device previous current).map fun effect => ⟨effect, table⟩

/-- The manager with a new table, in which some device went from one state to another. -/
def afterChange (manager : Manager) (sinks : SinkTable) (previous current : SinkState) :
    Manager :=
  { manager with
    sinks
    activeCount :=
      if previous = current then manager.activeCount
      else countAfter manager.activeCount previous current }

@[simp] theorem sinks_afterChange (manager : Manager) (sinks : SinkTable)
    (previous current : SinkState) :
    (manager.afterChange sinks previous current).sinks = sinks := rfl

@[simp] theorem changeJournal_self (table : SinkTable) (device : Address) (state : SinkState) :
    changeJournal table device state state = [] := if_pos rfl

/-- What is told of a change does not depend on the table that shows it. -/
theorem effects_announce (manager : Manager) (device : Address) (previous current : SinkState) :
    (manager.announce device previous current).effects = announcement device previous current := by
  unfold announce Outcome.effects
  rw [List.map_map]
  exact List.map_id _

theorem map_effect_changeJournal (table : SinkTable) (device : Address)
    (previous current : SinkState) :
    (changeJournal table device previous current).map JournalEntry.effect =
      if previous = current then [] else announcement device previous current := by
  unfold changeJournal
  split
  · rfl
  · rw [List.map_map]
    exact List.map_id _

theorem mem_changeJournal {table : SinkTable} {device : Address} {previous current : SinkState}
    {entry : JournalEntry} (member : entry ∈ changeJournal table device previous current) :
    previous ≠ current ∧ entry.table = table ∧
      ((entry.effect = .becomingNoisy ∧ losesAudio previous current = true) ∨
        entry.effect = .stateChanged device previous current) := by
  unfold changeJournal at member
  split at member
  · cases member
  · next different =>
      obtain ⟨effect, announced, rfl⟩ := List.mem_map.mp member
      refine ⟨different, rfl, ?_⟩
      unfold announcement at announced
      by_cases loses : losesAudio previous current = true
      · simp only [loses, if_true, List.mem_cons, List.not_mem_nil, or_false] at announced
        rcases announced with rfl | rfl
        · exact .inl ⟨rfl, loses⟩
        · exact .inr rfl
      · simp only [loses, Bool.false_eq_true, if_false, List.mem_cons, List.not_mem_nil,
          or_false] at announced
        exact .inr announced

@[simp] theorem afterChange_self (manager : Manager) (sinks : SinkTable) (state : SinkState) :
    manager.afterChange sinks state state = { manager with sinks } := by
  simp [afterChange]

theorem enter?_of_tracked {previous : Reading}
    (tracked : manager.sinks.get? device = some previous) (reading : Reading) :
    manager.enter? device reading =
      some { manager with sinks := manager.sinks.replace device reading } := by
  unfold enter?
  rw [BoundedMap.insert?_of_mem reading (BoundedMap.mem_keys_of_get? tracked)]
  rfl

theorem commit_of_tracked {previous : Reading}
    (tracked : manager.sinks.get? device = some previous) (current : SinkState) :
    manager.commit device previous current =
      { result := .ok ()
        state := manager.afterChange (manager.sinks.replace device (.known current))
          previous.state current
        journal := changeJournal (manager.sinks.replace device (.known current)) device
          previous.state current } := by
  unfold commit
  by_cases unchanged : previous = .known current
  · subst unchanged
    rw [if_pos rfl, BoundedMap.replace_of_get?_eq_some tracked]
    simp [Outcome.quiet]
  · rw [if_neg unchanged, enter?_of_tracked tracked]
    by_cases sameState : previous.state = current
    · simp [sameState, Outcome.quiet]
    · simp [sameState, announce, Outcome.map, afterChange, changeJournal]

theorem move_of_tracked {previous : Reading}
    (tracked : manager.sinks.get? device = some previous) (current : SinkState) :
    manager.move device previous current =
      { result := ()
        state := manager.afterChange (manager.sinks.replace device (.known current))
          previous.state current
        journal := changeJournal (manager.sinks.replace device (.known current)) device
          previous.state current } := by
  unfold move
  rw [commit_of_tracked tracked]
  rfl

/-- A report puts its reading into the table. What is told shows the state that the
reading stands for, also when the reading is invalid. -/
theorem applyReport_of_tracked {previous : Reading}
    (tracked : manager.sinks.get? device = some previous) (report : String) :
    manager.applyReport device previous report =
      { result := ()
        state := manager.afterChange
          (manager.sinks.replace device (Reading.ofReport report))
          previous.state (Reading.ofReport report).state
        journal := changeJournal
          (manager.sinks.replace device (.known (Reading.ofReport report).state)) device
          previous.state (Reading.ofReport report).state } := by
  unfold applyReport Reading.ofReport
  cases SinkState.ofReport? report with
  | some state => exact move_of_tracked tracked state
  | none =>
      simp only [move_of_tracked tracked, Outcome.andThen, Outcome.quiet, List.append_nil,
        sinks_afterChange, BoundedMap.replace_replace]
      rfl

theorem track_of_unread {cause : Refusal}
    (unread : answers.readSink device = .error cause) :
    manager.track answers device = .quiet (.error cause) manager := by
  simp [track, unread]

theorem track_of_full {reading : Reading} (read : answers.readSink device = .ok reading)
    (full : manager.sinks.insert? device reading = none) :
    manager.track answers device = .quiet (.error .tableFull) manager := by
  have refused : ∀ other, manager.sinks.insert? device other = none := fun _ =>
    BoundedMap.insert?_eq_none_iff.mpr (BoundedMap.insert?_eq_none_iff.mp full)
  cases reading <;> simp [track, read, enter?, refused]

/-- Tracking a device enters what the stack says about it, and tells how far that is
from being disconnected. -/
theorem track_of_taken {reading : Reading} {sinks : SinkTable}
    (read : answers.readSink device = .ok reading)
    (taken : manager.sinks.insert? device reading = some sinks) :
    manager.track answers device =
      { result := .ok reading
        state := manager.afterChange sinks .disconnected reading.state
        journal := changeJournal sinks device .disconnected reading.state } := by
  unfold track
  cases reading with
  | invalid => simp [read, enter?, taken, Outcome.quiet]
  | known state =>
      cases first : manager.sinks.insert? device (.known .disconnected) with
      | none =>
          rw [BoundedMap.insert?_eq_none_iff.mpr (BoundedMap.insert?_eq_none_iff.mp first)] at taken
          cases taken
      | some assumed =>
          -- The first entry stands for what the host assumed until now.
          have entered : ({ manager with sinks := assumed } : Manager).sinks.get? device =
              some (.known .disconnected) := by
            rw [BoundedMap.get?_of_insert?_eq_some first, if_pos rfl]
          have replaced : assumed.replace device (.known state) = sinks :=
            Option.some.inj ((BoundedMap.replace_of_insert?_eq_some first _).symm.trans taken)
          simp only [read, enter?, first, Option.map_some, move_of_tracked entered, replaced]
          rfl

end Manager

end AudioHost
