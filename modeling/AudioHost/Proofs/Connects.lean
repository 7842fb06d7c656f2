import AudioHost.Proofs.Attempts
import AudioHost.Sink.Report

/-!
# Outcomes of a connect

What a connect comes to, told by what it finds. A refusal before the device is tracked
leaves everything as it was. A device that gets tracked on the way stays tracked, also
when the connect is refused after that.
-/

set_option autoImplicit false

namespace AudioHost

namespace SinkTable

/-- Every sink that is listed is disconnected. -/
def Idle (table : SinkTable) : Prop :=
  ∀ entry ∈ table.entries, entry.2.state = .disconnected

private theorem isBusy_eq_false_iff_idle {table : SinkTable} :
    table.isBusy = false ↔ table.Idle := by
  simp [isBusy, BoundedMap.values, Idle, SinkState.isBusy]

end SinkTable

theorem Collaborators.readSink_eq_ok_iff {answers : Collaborators} {device : Address}
    {reading : Reading} :
    answers.readSink device = .ok reading ↔
      ∃ path properties, answers.pathOf device = some path ∧
        answers.sinkProperties path = some properties ∧
        SinkProperty.Describes properties reading := by
  unfold readSink
  constructor
  · intro read
    split at read
    · cases read
    · next path found =>
        split at read
        · cases read
        · next properties described =>
            have reads := Except.ok.inj read
            exact ⟨path, properties, found, described,
              SinkProperty.reading_eq_iff_describes.mp reads⟩
  · intro known
    obtain ⟨path, properties, found, read, describes⟩ := known
    simp only [found, read, SinkProperty.reading_eq_iff_describes.mpr describes]

namespace Manager

variable {manager : Manager} {answers : Collaborators} {device : Address} {path : ObjectPath}
  {reading : Reading} {sinks : SinkTable} {outcome : Outcome Manager (Except Refusal Unit)}

/-- What the caller hears of a native call. -/
def verdict (accepted : Bool) : Except Refusal Unit :=
  if accepted then .ok () else .error .nativeCallFailed

/-- A connect gets as far as tracking a device that was not tracked: the reading is what the
properties at the path of the device describe, and goes to the end of the table. -/
structure Enrolls (manager : Manager) (answers : Collaborators) (device : Address)
    (path : ObjectPath) (reading : Reading) (sinks : SinkTable) : Prop where
  idle : manager.sinks.Idle
  absent : device ∉ manager.sinks.keys
  found : answers.pathOf device = some path
  described : ∃ properties, answers.sinkProperties path = some properties ∧
    SinkProperty.Describes properties reading
  room : manager.sinks.entries.length < Limits.sinkDevices
  appended : sinks.entries = manager.sinks.entries ++ [(device, reading)]

/-- `manager.ConnectsTo answers device outcome`: as the manager and the stack stand, the
connect of a device comes to this outcome. -/
inductive ConnectsTo (manager : Manager) (answers : Collaborators) (device : Address) :
    Outcome Manager (Except Refusal Unit) → Prop where
  | busy {entry : Address × Reading} (listed : entry ∈ manager.sinks.entries)
      (active : entry.2.state ≠ .disconnected) :
      ConnectsTo manager answers device (.quiet (.error .alreadyBusy) manager)
  | unknown (idle : manager.sinks.Idle) (lost : answers.pathOf device = none) :
      ConnectsTo manager answers device (.quiet (.error .unknownDevice) manager)
  | tracked {path : ObjectPath} (idle : manager.sinks.Idle)
      (present : device ∈ manager.sinks.keys) (found : answers.pathOf device = some path) :
      ConnectsTo manager answers device
        { result := verdict (answers.acceptsConnect path)
          state := manager
          journal := [⟨.connect device path (answers.acceptsConnect path), manager.sinks⟩] }
  | unreadable {path : ObjectPath} (idle : manager.sinks.Idle)
      (absent : device ∉ manager.sinks.keys) (found : answers.pathOf device = some path)
      (unread : answers.sinkProperties path = none) :
      ConnectsTo manager answers device (.quiet (.error .nativeCallFailed) manager)
  | full {path : ObjectPath} {properties : List SinkProperty} (idle : manager.sinks.Idle)
      (absent : device ∉ manager.sinks.keys) (found : answers.pathOf device = some path)
      (read : answers.sinkProperties path = some properties)
      (full : manager.sinks.entries.length = Limits.sinkDevices) :
      ConnectsTo manager answers device (.quiet (.error .tableFull) manager)
  /-- The device turns out to be disconnected, or to tell nothing of use. -/
  | entered {path : ObjectPath} {reading : Reading} {sinks : SinkTable}
      (enrolls : manager.Enrolls answers device path reading sinks)
      (down : reading = .known .disconnected ∨ reading = .invalid) :
      ConnectsTo manager answers device
        { result := verdict (answers.acceptsConnect path)
          state := { manager with sinks }
          journal := [⟨.connect device path (answers.acceptsConnect path), sinks⟩] }
  /-- The device turns out to be on its way up, which is all that the caller wants. -/
  | underway {path : ObjectPath} {sinks : SinkTable}
      (enrolls : manager.Enrolls answers device path (.known .connecting) sinks) :
      ConnectsTo manager answers device
        { result := .ok ()
          state := { manager with sinks }
          journal := [⟨.stateChanged device .disconnected .connecting, sinks⟩] }
  /-- The device turns out to be connected already. -/
  | terminal {path : ObjectPath} {state : SinkState} {sinks : SinkTable}
      (enrolls : manager.Enrolls answers device path (.known state) sinks)
      (up : state = .connected ∨ state = .playing) :
      ConnectsTo manager answers device
        { result := .error .alreadyTerminal
          state :=
            { manager with
              sinks
              activeCount :=
                if state = .connected then manager.activeCount + 1 else manager.activeCount }
          journal := [⟨.stateChanged device .disconnected state, sinks⟩] }

/-! ## Computing the outcome -/

theorem connect_of_tracked (idle : manager.sinks.Idle) (present : device ∈ manager.sinks.keys) :
    manager.connect answers device = manager.requestConnect answers device := by
  obtain ⟨reading, tracked⟩ := BoundedMap.mem_keys_iff_get?.mp present
  have down := idle _ (BoundedMap.get?_eq_some_iff.mp tracked)
  have quiet := SinkTable.isBusy_eq_false_iff_idle.mpr idle
  simp only [connect, isBusy, quiet, tracked, connectFrom, down, Bool.false_eq_true, if_false]

theorem connect_of_untracked (idle : manager.sinks.Idle) (absent : device ∉ manager.sinks.keys) :
    manager.connect answers device =
      (manager.track answers device).andThen fun tracked next =>
        match tracked with
        | .error cause => .quiet (.error cause) next
        | .ok reading => next.connectFrom answers device reading := by
  have quiet := SinkTable.isBusy_eq_false_iff_idle.mpr idle
  have untracked := BoundedMap.get?_eq_none_iff.mpr absent
  unfold connect
  split
  · next busy => cases quiet.symm.trans busy
  · split
    · next reading tracked => cases untracked.symm.trans tracked
    · rfl

private theorem requestConnect_of_found (found : answers.pathOf device = some path) :
    manager.requestConnect answers device =
      { result := verdict (answers.acceptsConnect path)
        state := manager
        journal := [⟨.connect device path (answers.acceptsConnect path), manager.sinks⟩] } := by
  simp only [requestConnect, found]
  rfl

private theorem connect_of_enrolls (enrolls : manager.Enrolls answers device path reading sinks) :
    manager.connect answers device =
      { ((manager.afterChange sinks .disconnected reading.state).connectFrom answers device
          reading) with
        journal := changeJournal sinks device .disconnected reading.state ++
          ((manager.afterChange sinks .disconnected reading.state).connectFrom answers device
            reading).journal } := by
  obtain ⟨properties, read, describes⟩ := enrolls.described
  have reads := Collaborators.readSink_eq_ok_iff.mpr
    ⟨path, properties, enrolls.found, read, describes⟩
  have taken := (BoundedMap.insert?_eq_some_iff_of_not_mem enrolls.absent).mpr
    ⟨enrolls.room, enrolls.appended⟩
  rw [connect_of_untracked enrolls.idle enrolls.absent, track_of_taken reads taken]
  rfl

theorem connect_eq_of_connectsTo (connects : manager.ConnectsTo answers device outcome) :
    manager.connect answers device = outcome := by
  cases connects with
  | @busy entry listed active =>
      have busy : manager.sinks.isBusy = true := by
        rw [← Bool.not_eq_false]
        exact fun quiet => active (SinkTable.isBusy_eq_false_iff_idle.mp quiet entry listed)
      simp only [connect, isBusy, busy, if_true]
  | unknown idle lost =>
      have refused : answers.readSink device = .error .unknownDevice := by
        simp only [Collaborators.readSink, lost]
      -- Without a path it makes no difference whether the device is tracked.
      by_cases present : device ∈ manager.sinks.keys
      · rw [connect_of_tracked idle present]
        simp only [requestConnect, lost]
      · rw [connect_of_untracked idle present, track_of_unread refused]
        rfl
  | tracked idle present found =>
      rw [connect_of_tracked idle present, requestConnect_of_found found]
  | unreadable idle absent found unread =>
      have refused : answers.readSink device = .error .nativeCallFailed := by
        simp only [Collaborators.readSink, found, unread]
      rw [connect_of_untracked idle absent, track_of_unread refused]
      rfl
  | @full path properties idle absent found read full =>
      have reads := Collaborators.readSink_eq_ok_iff.mpr
        ⟨_, _, found, read, SinkProperty.reading_eq_iff_describes.mp rfl⟩
      have refused : manager.sinks.insert? device (SinkProperty.reading properties) = none :=
        BoundedMap.insert?_eq_none_iff.mpr ⟨absent, full⟩
      rw [connect_of_untracked idle absent, track_of_full reads refused]
      rfl
  | entered enrolls down =>
      rw [connect_of_enrolls enrolls]
      rcases down with rfl | rfl
      · simp [connectFrom, requestConnect_of_found enrolls.found]
      · simp [connectFrom, requestConnect_of_found enrolls.found]
  | underway enrolls =>
      rw [connect_of_enrolls enrolls]
      rfl
  | terminal enrolls up =>
      rw [connect_of_enrolls enrolls]
      rcases up with rfl | rfl <;> rfl

/-! ## The outcomes are all there are -/

private theorem exists_connectsTo_of_enrolls
    (enrolls : manager.Enrolls answers device path reading sinks)
    (reported : reading.state ≠ .disconnecting) :
    ∃ outcome, manager.ConnectsTo answers device outcome := by
  cases reading with
  | invalid => exact ⟨_, .entered enrolls (.inr rfl)⟩
  | known state =>
      cases state with
      | disconnected => exact ⟨_, .entered enrolls (.inl rfl)⟩
      | connecting => exact ⟨_, .underway enrolls⟩
      | connected => exact ⟨_, .terminal enrolls (.inl rfl)⟩
      | playing => exact ⟨_, .terminal enrolls (.inr rfl)⟩
      | disconnecting => exact absurd rfl reported

theorem exists_connectsTo (manager : Manager) (answers : Collaborators) (device : Address) :
    ∃ outcome, manager.ConnectsTo answers device outcome := by
  by_cases idle : manager.sinks.Idle
  case neg =>
      simp only [SinkTable.Idle, not_forall] at idle
      obtain ⟨entry, listed, active⟩ := idle
      exact ⟨_, .busy listed active⟩
  cases found : answers.pathOf device with
  | none => exact ⟨_, .unknown idle found⟩
  | some path =>
      by_cases present : device ∈ manager.sinks.keys
      · exact ⟨_, .tracked idle present found⟩
      cases read : answers.sinkProperties path with
      | none => exact ⟨_, .unreadable idle present found read⟩
      | some properties =>
          cases taken : manager.sinks.insert? device (SinkProperty.reading properties) with
          | none =>
              have full := (BoundedMap.insert?_eq_none_iff.mp taken).2
              exact ⟨_, .full idle present found read full⟩
          | some sinks =>
              obtain ⟨room, appended⟩ :=
                (BoundedMap.insert?_eq_some_iff_of_not_mem present).mp taken
              have enrolls : manager.Enrolls answers device path (SinkProperty.reading properties)
                  sinks :=
                { idle
                  absent := present
                  found
                  described := ⟨properties, read, SinkProperty.reading_eq_iff_describes.mp rfl⟩
                  room
                  appended }
              exact exists_connectsTo_of_enrolls enrolls
                (SinkProperty.state_reading_ne_disconnecting properties)

/-- A connect comes to exactly the outcome that the manager and the stack call for. -/
theorem connect_eq_iff_connectsTo :
    manager.connect answers device = outcome ↔ manager.ConnectsTo answers device outcome := by
  constructor
  · intro comes
    obtain ⟨reached, connects⟩ := exists_connectsTo manager answers device
    rw [← comes, connect_eq_of_connectsTo connects]
    exact connects
  · exact connect_eq_of_connectsTo

end Manager

end AudioHost
