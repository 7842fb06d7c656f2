import AudioHost.Manager.Operation
import AudioHost.Proofs.Act

/-!
# The acts of each operation

Every event, every request and every batch of automatic connects is a sequence of
acts, and only of those that `Operation.Permits` lists for it.
-/

set_option autoImplicit false

namespace AudioHost

/-! ## Outcomes by acts -/

def Outcome.ByActs {Result : Type} (outcome : Outcome Manager Result)
    (answers : Collaborators) (permitted : Act → Prop) (manager : Manager) : Prop :=
  Act.Steps answers permitted manager outcome.journal outcome.state

namespace Outcome

variable {Result Next Item : Type} {answers : Collaborators} {permitted : Act → Prop}
  {manager : Manager}

theorem byActs_quiet (result : Result) (manager : Manager) :
    (quiet result manager).ByActs answers permitted manager := .none manager

theorem byActs_map {outcome : Outcome Manager Result} (change : Result → Next)
    (acts : outcome.ByActs answers permitted manager) :
    (outcome.map change).ByActs answers permitted manager := acts

theorem byActs_andThen {first : Outcome Manager Result}
    {next : Result → Manager → Outcome Manager Next}
    (acts : first.ByActs answers permitted manager)
    (others : (next first.result first.state).ByActs answers permitted first.state) :
    (first.andThen next).ByActs answers permitted manager :=
  Act.Steps.append acts others

theorem ByActs.mono {outcome : Outcome Manager Result} {wider : Act → Prop}
    (acts : outcome.ByActs answers permitted manager)
    (implied : ∀ act, permitted act → wider act) :
    outcome.ByActs answers wider manager :=
  Act.Steps.mono implied acts

theorem byActs_forEach {operation : Manager → Item → Outcome Manager Unit} {items : List Item}
    (each : ∀ item ∈ items, ∀ manager,
      (operation manager item).ByActs answers permitted manager) (manager : Manager) :
    (forEach operation items manager).ByActs answers permitted manager := by
  induction items generalizing manager with
  | nil => exact byActs_quiet () manager
  | cons item rest ih =>
      apply byActs_andThen (each item List.mem_cons_self manager)
      exact ih (fun other member => each other (List.mem_cons_of_mem item member)) _

end Outcome

/-! ## What may happen in an operation -/

namespace Act

def InScan (answers : Collaborators) : Act → Prop
  | enroll device reading | overwrite device reading =>
      answers.readSink device = .ok reading ∧
        ∃ path ∈ answers.bondedPaths, answers.deviceAt path.text = some device
  | recount => True
  | tellAudio enabled => enabled = true
  | _ => False

def InRelease : Act → Prop
  | disconnect _ _ | forget => True
  | report _ reading => reading = .known .disconnected
  | tellAudio enabled => enabled = false
  | _ => False

def InReport (answers : Collaborators) (path : String) (property : SinkProperty) : Act → Prop
  | enroll device reading =>
      answers.adapterEnabled = true ∧ property.tellsState = true ∧
        answers.deviceAt path = some device ∧ answers.readSink device = .ok reading
  | report device reading =>
      answers.adapterEnabled = true ∧ property.tellsState = true ∧
        answers.deviceAt path = some device ∧ reading = .ofReport property.value.text
  | _ => False

def InStoring (address : String) (priority : Priority) : Act → Prop
  | storePriority device stored => Address.ofText? address = some device ∧ stored = priority
  | _ => False

def InNoticing (manager : Manager) (device : Address) (now : Instant) : Act → Prop
  | reschedule pending =>
      ∃ deadline, manager.pending.trigger device now = .waiting deadline pending
  | _ => False

def InConnecting (answers : Collaborators) (wanted : Address → Prop) : Act → Prop
  | connect device _ => wanted device
  | enroll device reading => wanted device ∧ answers.readSink device = .ok reading
  | _ => False

def InDisconnecting (device : Address) : Act → Prop
  | disconnect asked _ => asked = device
  | _ => False

def InBatch (manager : Manager) (answers : Collaborators) (now : Instant) (act : Act) : Prop :=
  act = .reschedule (manager.pending.drain now).2 ∨
    InConnecting answers
      (fun device => device ∈ manager.pending.due now ∧ answers.adapterEnabled = true ∧
        (answers.priorityOf device).isPreferred = true) act

end Act

/-- Which acts each of the workers' operations may consist of. -/
def Operation.Permits (manager : Manager) (answers : Collaborators) : Operation → Act → Prop
  | .event (.adapterChanged .on) _ => Act.InScan answers
  | .event (.adapterChanged .turningOff) _ => Act.InRelease
  | .event (.bondChanged address state) _ => Act.InStoring address.text state.priority
  | .event (.remoteConnected device) now => Act.InNoticing manager device now
  | .event (.propertyChanged path property) _ => Act.InReport answers path.text property
  | .request (.connect device) => Act.InConnecting answers (· = device)
  | .request (.disconnect device) => Act.InDisconnecting device
  | .request (.storePriority address priority) => Act.InStoring address.text priority
  | .fireDue now => Act.InBatch manager answers now
  | _ => fun _ => False

namespace Manager

open Outcome

variable {manager : Manager} {answers : Collaborators} {device : Address}
  {permitted : Act → Prop}

/-! ## Priorities and triggers -/

theorem storePriority_byActs (manager : Manager) (answers : Collaborators) (address : String)
    (priority : Priority) :
    (manager.storePriority answers address priority).ByActs answers
      (Act.InStoring address priority) manager := by
  unfold storePriority
  cases denoted : Address.ofText? address with
  | none => exact byActs_quiet _ manager
  | some device =>
      have allowed : Act.InStoring address priority (.storePriority device priority) :=
        ⟨denoted, rfl⟩
      exact byActs_map _ (Act.Steps.one allowed .storePriority)

theorem remoteConnected_byActs (manager : Manager) (answers : Collaborators)
    (device : Address) (now : Instant) :
    (manager.remoteConnected answers device now).ByActs answers
      (Act.InNoticing manager device now) manager := by
  unfold remoteConnected
  split
  · cases triggered : manager.pending.trigger device now with
    | waiting deadline pending =>
        have allowed : Act.InNoticing manager device now (.reschedule pending) :=
          ⟨deadline, triggered⟩
        exact Act.Steps.one allowed .reschedule
    | full => exact byActs_quiet _ manager
    | overflow cause => exact byActs_quiet _ manager
  · exact byActs_quiet _ manager

/-! ## Connecting and disconnecting -/

theorem track_byActs (untracked : manager.sinks.get? device = none)
    (allowed : ∀ reading, answers.readSink device = .ok reading →
      permitted (.enroll device reading)) :
    (manager.track answers device).ByActs answers permitted manager := by
  cases read : answers.readSink device with
  | error cause =>
      rw [track_of_unread read]
      exact byActs_quiet _ manager
  | ok reading =>
      cases taken : manager.sinks.insert? device reading with
      | none =>
          rw [track_of_full read taken]
          exact byActs_quiet _ manager
      | some sinks =>
          rw [track_of_taken read taken]
          exact Act.Steps.one (allowed reading read) (.enroll untracked taken)

/-- Only a device that is read as disconnected leads to the stack. -/
theorem connectFrom_byActs {reading : Reading}
    (idle : reading.state = .disconnected → manager.isBusy = false)
    (present : device ∈ manager.sinks.keys)
    (allowed : ∀ path, permitted (.connect device path)) :
    (manager.connectFrom answers device reading).ByActs answers permitted manager := by
  unfold connectFrom requestConnect
  split
  case h_5 down =>
      have idle := idle down
      cases found : answers.pathOf device with
      | none => exact byActs_quiet _ manager
      | some path =>
          exact byActs_map _ (Act.Steps.one (allowed path) (.connect idle present found))
  all_goals exact byActs_quiet _ manager

/-- A device that was not tracked and is read as disconnected leaves the table idle. -/
private theorem isBusy_of_insert? {table inserted : SinkTable} {reading : Reading}
    (idle : table.isBusy = false) (taken : table.insert? device reading = some inserted)
    (down : reading.state = .disconnected) : inserted.isBusy = false := by
  rw [SinkTable.isBusy_eq_false_iff] at idle ⊢
  intro other
  rw [SinkTable.stateOf_of_insert? taken]
  by_cases same : other = device
  · rw [if_pos same]
    exact down
  · rw [if_neg same]
    exact idle other

theorem connect_byActs (manager : Manager) {wanted : Address → Prop} (asked : wanted device) :
    (manager.connect answers device).ByActs answers (Act.InConnecting answers wanted)
      manager := by
  unfold connect
  by_cases busy : manager.isBusy = true
  · rw [if_pos busy]
    exact byActs_quiet _ manager
  · rw [if_neg busy]
    have idle : manager.isBusy = false := by simpa using busy
    cases tracked : manager.sinks.get? device with
    | some reading =>
        exact connectFrom_byActs (fun _ => idle) (BoundedMap.mem_keys_of_get? tracked)
          fun _ => asked
    | none =>
        apply byActs_andThen (track_byActs tracked fun reading read => ⟨asked, read⟩)
        cases read : answers.readSink device with
        | error cause =>
            rw [track_of_unread read]
            exact byActs_quiet _ manager
        | ok reading =>
            cases taken : manager.sinks.insert? device reading with
            | none =>
                rw [track_of_full read taken]
                exact byActs_quiet _ manager
            | some sinks =>
                rw [track_of_taken read taken]
                exact connectFrom_byActs (isBusy_of_insert? idle taken)
                  (BoundedMap.mem_keys_of_insert?_eq_some taken) fun _ => asked

theorem disconnect_byActs (manager : Manager) (answers : Collaborators) (device : Address) :
    (manager.disconnect answers device).ByActs answers (Act.InDisconnecting device)
      manager := by
  unfold disconnect
  cases found : answers.pathOf device with
  | none => exact byActs_quiet _ manager
  | some path =>
      cases state : manager.stateOf device with
      | disconnected | disconnecting => exact byActs_quiet _ manager
      | connecting | connected | playing =>
          have allowed : Act.InDisconnecting device (.disconnect device path) := rfl
          exact byActs_map _ (Act.Steps.one allowed (.disconnect (by simp [state]) found))

/-! ## Automatic connects -/

theorem attemptInTurn_byActs {wanted : Address → Prop} {devices : List Address}
    (asked : ∀ device ∈ devices, answers.adapterEnabled = true →
      (answers.priorityOf device).isPreferred = true → wanted device) (manager : Manager) :
    (attemptInTurn answers devices manager).ByActs answers (Act.InConnecting answers wanted)
      manager := by
  induction devices generalizing manager with
  | nil => exact byActs_quiet _ manager
  | cons device rest ih =>
      have restAsked := fun other member => asked other (List.mem_cons_of_mem device member)
      unfold attemptInTurn
      by_cases may : manager.mayAttempt answers device = true
      · rw [if_pos may]
        have wantedNow : wanted device := by
          simp only [mayAttempt, Bool.and_eq_true] at may
          exact asked device List.mem_cons_self may.1.1 may.1.2
        apply byActs_andThen (connect_byActs manager wantedNow)
        split
        · exact byActs_quiet _ _
        · exact ih restAsked _
      · rw [if_neg may]
        exact ih restAsked manager

theorem fireDue_byActs (manager : Manager) (answers : Collaborators) (now : Instant) :
    (manager.fireDue answers now).ByActs answers (Act.InBatch manager answers now) manager := by
  have attempts : (manager.fireDue answers now).ByActs answers
      (Act.InBatch manager answers now)
      { manager with pending := (manager.pending.drain now).2 } := by
    refine ByActs.mono (attemptInTurn_byActs ?_ _) fun _ allowed => .inr allowed
    intro device due enabled preferred
    exact ⟨due, enabled, preferred⟩
  have drained : Act.InBatch manager answers now (.reschedule (manager.pending.drain now).2) :=
    .inl rfl
  exact Act.Steps.silent drained .reschedule attempts

/-! ## Reports -/

theorem propertyChanged_byActs (manager : Manager) (answers : Collaborators) (path : String)
    (property : SinkProperty) :
    (manager.propertyChanged answers path property).ByActs answers
      (Act.InReport answers path property) manager := by
  unfold propertyChanged
  by_cases enabled : answers.adapterEnabled = true
  case neg =>
      rw [if_neg enabled]
      exact byActs_quiet _ manager
  rw [if_pos enabled]
  cases leads : answers.deviceAt path with
  | none => exact byActs_quiet _ manager
  | some device =>
      by_cases tells : property.tellsState = true
      case neg =>
          simp only [if_neg tells]
          exact byActs_quiet _ manager
      simp only [if_pos tells]
      cases tracked : manager.sinks.get? device with
      | none =>
          apply byActs_map
          exact track_byActs tracked fun reading read => ⟨enabled, tells, leads, read⟩
      | some previous =>
          simp only [applyReport_of_tracked tracked]
          have allowed : Act.InReport answers path property
              (.report device (.ofReport property.value.text)) := ⟨enabled, tells, leads, rfl⟩
          exact Act.Steps.one allowed (.report tracked)

/-! ## The adapter goes on -/

/-- A bonded device is tracked whether or not it is tracked already. The count does not
start anew once more. -/
theorem trackBonded_byActs {path : ObjectPath} (listed : path ∈ answers.bondedPaths)
    (manager : Manager) :
    (trackBonded answers manager path).ByActs answers
      (fun act => act.InScan answers ∧ act ≠ .recount) manager := by
  unfold trackBonded
  cases leads : answers.deviceAt path.text with
  | none => exact byActs_quiet _ manager
  | some device =>
      dsimp only
      split
      case isFalse => exact byActs_quiet _ manager
      apply byActs_map
      cases tracked : manager.sinks.get? device with
      | none =>
          refine track_byActs tracked fun reading read => ?_
          exact ⟨⟨read, path, listed, leads⟩, by simp⟩
      | some previous =>
          have present := BoundedMap.mem_keys_of_get? tracked
          cases read : answers.readSink device with
          | error cause =>
              rw [track_of_unread read]
              exact byActs_quiet _ manager
          | ok reading =>
              rw [track_of_taken read (BoundedMap.insert?_of_mem reading present)]
              have allowed : Act.InScan answers (.overwrite device reading) :=
                ⟨read, path, listed, leads⟩
              exact Act.Steps.one ⟨allowed, by simp⟩ (.overwrite present)

theorem forEach_trackBonded_byActs (manager : Manager) (answers : Collaborators) :
    (Outcome.forEach (trackBonded answers) answers.bondedPaths manager).ByActs answers
      (fun act => act.InScan answers ∧ act ≠ .recount) manager :=
  byActs_forEach (fun _ listed => trackBonded_byActs listed) manager

theorem scanBonded_byActs (manager : Manager) (answers : Collaborators) :
    (manager.scanBonded answers).ByActs answers (Act.InScan answers) manager := by
  have each := (forEach_trackBonded_byActs { manager with activeCount := 0 } answers).mono
    fun _ allowed => allowed.1
  have mayRecount : Act.InScan answers .recount := trivial
  have mayTell : Act.InScan answers (.tellAudio true) := rfl
  exact Act.Steps.silent mayRecount .recount
    (byActs_andThen each (Act.Steps.one mayTell .tellAudio))

/-! ## The adapter goes off -/

/-- Letting go of a tracked device leaves it disconnected and no other one changed. -/
theorem release_spec (answers : Collaborators) {entry : Address × Reading}
    (tracked : manager.sinks.get? entry.1 = some entry.2) :
    (release answers manager entry).ByActs answers Act.InRelease manager ∧
      (release answers manager entry).state.stateOf entry.1 = .disconnected ∧
      ∀ other, other ≠ entry.1 →
        (release answers manager entry).state.sinks.get? other = manager.sinks.get? other := by
  have present := BoundedMap.mem_keys_of_get? tracked
  have moved : (manager.move entry.1 entry.2 .disconnected).ByActs answers Act.InRelease manager ∧
      (manager.move entry.1 entry.2 .disconnected).state.stateOf entry.1 = .disconnected ∧
      ∀ other, other ≠ entry.1 →
        (manager.move entry.1 entry.2 .disconnected).state.sinks.get? other =
          manager.sinks.get? other := by
    rw [move_of_tracked tracked]
    refine ⟨?_, ?_, ?_⟩
    · have allowed : Act.InRelease (.report entry.1 (.known .disconnected)) := rfl
      exact Act.Steps.one allowed (.report tracked)
    · exact (SinkTable.stateOf_replace present entry.1 _).trans (if_pos rfl)
    · intro other different
      exact (BoundedMap.get?_replace_of_mem present other _).trans (if_neg different)
  have state := SinkTable.stateOf_of_get? tracked
  unfold release
  cases shown : entry.2.state with
  | disconnected => exact ⟨byActs_quiet _ manager, state.trans shown, fun _ _ => rfl⟩
  | disconnecting => exact moved
  | connecting | connected | playing =>
      dsimp only
      unfold requestRelease
      cases found : answers.pathOf entry.1 with
      | none => exact moved
      | some path =>
          refine ⟨?_, moved.2⟩
          have up : manager.stateOf entry.1 = .connecting ∨ manager.stateOf entry.1 = .connected ∨
              manager.stateOf entry.1 = .playing := by
            unfold stateOf
            rw [state, shown]
            simp
          have mayAsk : Act.InRelease (.disconnect entry.1 path) := trivial
          exact Act.Steps.append (.one mayAsk (.disconnect up found)) moved.1

/-- Letting go of the first device leaves the entries of the others as they were. -/
theorem ahead_of_release (answers : Collaborators) {entry : Address × Reading}
    {rest : List (Address × Reading)} (distinct : ((entry :: rest).map Prod.fst).Nodup)
    (ahead : ∀ other ∈ entry :: rest, manager.sinks.get? other.1 = some other.2) :
    ∀ other ∈ rest, (release answers manager entry).state.sinks.get? other.1 = some other.2 := by
  have fresh := (List.nodup_cons.mp distinct).1
  obtain ⟨_, _, others⟩ := release_spec answers (ahead entry List.mem_cons_self)
  intro other member
  have different : other.1 ≠ entry.1 := by
    intro same
    exact fresh (same ▸ List.mem_map_of_mem member)
  rw [others other.1 different]
  exact ahead other (List.mem_cons_of_mem entry member)

/-- The entries still ahead are as they were, and every device behind is disconnected. -/
private theorem forEach_release (answers : Collaborators) {entries : List (Address × Reading)}
    (distinct : (entries.map Prod.fst).Nodup) (manager : Manager)
    (ahead : ∀ entry ∈ entries, manager.sinks.get? entry.1 = some entry.2)
    (behind : ∀ device, device ∉ entries.map Prod.fst →
      manager.stateOf device = .disconnected) :
    (Outcome.forEach (release answers) entries manager).ByActs answers Act.InRelease manager ∧
      (Outcome.forEach (release answers) entries manager).state.isBusy = false := by
  induction entries generalizing manager with
  | nil =>
      refine ⟨byActs_quiet _ manager, SinkTable.isBusy_eq_false_iff.mpr fun device => ?_⟩
      exact behind device (by simp)
  | cons entry rest ih =>
      have restDistinct := (List.nodup_cons.mp distinct).2
      have restAhead := ahead_of_release answers distinct ahead
      obtain ⟨acts, down, others⟩ :=
        release_spec answers (ahead entry List.mem_cons_self)
      have restBehind : ∀ device, device ∉ rest.map Prod.fst →
          (release answers manager entry).state.stateOf device = .disconnected := by
        intro device absent
        by_cases same : device = entry.1
        · rw [same]
          exact down
        · refine (SinkTable.stateOf_congr (others device same)).trans (behind device ?_)
          rw [List.map_cons, List.mem_cons, not_or]
          exact ⟨same, absent⟩
      obtain ⟨restActs, idle⟩ := ih restDistinct _ restAhead restBehind
      exact ⟨byActs_andThen acts restActs, idle⟩

theorem releaseAll_byActs (manager : Manager) (answers : Collaborators) :
    (manager.releaseAll answers).ByActs answers Act.InRelease manager := by
  have tracked : ∀ entry ∈ manager.sinks.entries,
      manager.sinks.get? entry.1 = some entry.2 := fun entry member =>
    BoundedMap.get?_eq_some_iff.mpr member
  have untracked : ∀ device, device ∉ manager.sinks.entries.map Prod.fst →
      manager.stateOf device = .disconnected := fun device absent =>
    SinkTable.stateOf_of_untracked (BoundedMap.get?_eq_none_iff.mpr absent)
  obtain ⟨acts, idle⟩ :=
    forEach_release answers manager.sinks.distinct manager tracked untracked
  have mayForget : Act.InRelease .forget := trivial
  have mayTell : Act.InRelease (.tellAudio false) := rfl
  apply byActs_andThen acts
  exact Act.Steps.silent mayForget (.forget idle) (.one mayTell .tellAudio)

/-! ## Every operation of the workers -/

theorem applyEvent_byActs (manager : Manager) (answers : Collaborators) (now : Instant)
    (event : Event) :
    (manager.applyEvent answers now event).ByActs answers
      ((Operation.event event now).Permits manager answers) manager := by
  cases event with
  | adapterChanged state =>
      apply byActs_map
      cases state with
      | on => exact scanBonded_byActs manager answers
      | turningOff => exact releaseAll_byActs manager answers
      | off | turningOn => exact byActs_quiet _ manager
  | bondChanged address state =>
      exact byActs_map _ (byActs_map _ (storePriority_byActs manager answers _ _))
  | remoteConnected device => exact remoteConnected_byActs manager answers device now
  | propertyChanged path property =>
      exact byActs_map _ (propertyChanged_byActs manager answers path.text property)

theorem serve_byActs (manager : Manager) (answers : Collaborators) (request : Request) :
    (manager.serve answers request).ByActs answers
      ((Operation.request request).Permits manager answers) manager := by
  cases request with
  | connect device => exact byActs_map _ (connect_byActs manager rfl)
  | disconnect device => exact byActs_map _ (disconnect_byActs manager answers device)
  | storePriority address priority =>
      exact byActs_map _ (storePriority_byActs manager answers _ _)
  | connected | stateOf _ | priorityOf _ | activeCount => exact byActs_quiet _ manager

/-- Whatever the workers do to the manager consists of permitted acts. -/
theorem perform_byActs {operation : Operation} (routed : operation.isRouted = true)
    (manager : Manager) (answers : Collaborators) :
    (manager.perform answers operation).ByActs answers (operation.Permits manager answers)
      manager := by
  cases operation with
  | event event now => exact byActs_map _ (applyEvent_byActs manager answers now event)
  | request request => exact byActs_map _ (serve_byActs manager answers request)
  | fireDue now => exact byActs_map _ (fireDue_byActs manager answers now)
  | scanBonded | releaseAll | bondChanged _ _ | remoteConnected _ _ | connect _ | disconnect _
  | storePriority _ _ | propertyChanged _ _ | commit _ _ _ => cases routed

end Manager

end AudioHost
