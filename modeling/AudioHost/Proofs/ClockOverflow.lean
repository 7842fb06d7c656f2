import AudioHost.Proofs.AddressCodec
import AudioHost.Proofs.LockStep
import AudioHost.Proofs.Queries
import AudioHost.Proofs.Triggers

/-!
# The one failure of arithmetic

An operation stops the host in a single case: a preferred sink shows up so late that the
clock cannot show its deadline. Then nothing has been done yet. All other sums, places and
collections that an operation needs are within their bounds.
-/

set_option autoImplicit false

namespace AudioHost

/-! ## Checked counting -/

namespace Effect

variable {log : List Effect} {count : UInt32}

/-- The count after an effect, unless it is beyond the last number. -/
def recount? (count : UInt32) (effect : Effect) : Option UInt32 :=
  if effect.entersConnected && count.toNat + 1 == UInt32.size then none
  else some (recount count effect)

private theorem recount?_eq_some {effect : Effect}
    (few : count.toNat + [effect].countP entersConnected < UInt32.size) :
    recount? count effect = some (recount count effect) := by
  refine if_neg fun beyond => ?_
  rw [Bool.and_eq_true, beq_iff_eq] at beyond
  rw [List.countP_cons_of_pos beyond.1] at few
  omega

theorem foldlM_recount? (few : count.toNat + log.countP entersConnected < UInt32.size) :
    log.foldlM recount? count = some (log.foldl recount count) := by
  induction log generalizing count with
  | nil => rfl
  | cons effect rest ih =>
      rw [← List.singleton_append, List.countP_append] at few
      have step : (recount count effect).toNat = tally count.toNat effect :=
        toNat_recount (by omega)
      have bound := tally_le count.toNat effect
      rw [List.foldlM_cons, recount?_eq_some (by omega)]
      exact ih (by omega)

private theorem foldl_tally_le (log : List Effect) (count : Nat) :
    log.foldl tally count ≤ count + log.countP entersConnected := by
  induction log generalizing count with
  | nil => exact Nat.le_refl _
  | cons effect rest ih =>
      have first := tally_le count effect
      have later := ih (tally count effect)
      rw [← List.singleton_append, List.countP_append, List.foldl_append]
      show rest.foldl tally (tally count effect) ≤ _
      omega

end Effect

/-! ## Single operations -/

theorem Priority.isPreferred_iff {priority : Priority} :
    priority.isPreferred = true ↔ Priority.off.level.toInt < priority.level.toInt :=
  decide_eq_true_iff

theorem Collaborators.playsAudio_iff {answers : Collaborators} {device : Address} :
    answers.playsAudio device = true ↔
      ∃ uuids, answers.serviceUuids device = some uuids ∧ ServiceClass.audioSink.uuid ∈ uuids := by
  unfold playsAudio advertises
  cases answers.serviceUuids device with
  | none => simp
  | some uuids => simp [Uuid.playsAudio, Uuid.denotes]

/-- A preferred sink shows up so late that the clock cannot show its deadline. -/
structure Setup.Overflows (setup : Setup) (answers : Collaborators) (device : Address)
    (now : Instant) : Prop where
  preferred : Priority.off.level.toInt < (answers.priorityOf device).level.toInt
  playsAudio : ∃ uuids, answers.serviceUuids device = some uuids ∧
    ServiceClass.audioSink.uuid ∈ uuids
  beyond : UInt64.size ≤ now.micros.toNat + setup.autoConnectDelay.micros.toNat

/-- The device that an operation says to have shown up, and when. -/
def Operation.arrival? : Operation → Option (Address × Instant)
  | .event (.remoteConnected device) now | .remoteConnected device now => some (device, now)
  | _ => none

/-- The replies with which an operation can come to its end. -/
inductive Operation.EndsWith : Operation → Reply → Prop where
  | event (event : Event) (now : Instant) (moved : Bool) :
      EndsWith (.event event now) (.scheduled moved)
  | request (request : Request) (response : Response) :
      EndsWith (.request request) (.response response)
  | fireDue (now : Instant) (device : Option Address) :
      EndsWith (.fireDue now) (.attempted device)
  | scanBonded : EndsWith .scanBonded .done
  | releaseAll : EndsWith .releaseAll .done
  | bondChanged (address : String) (state : BondState) :
      EndsWith (.bondChanged address state) .done
  | remoteConnected (device : Address) (now : Instant) (moved : Bool) :
      EndsWith (.remoteConnected device now) (.scheduled moved)
  | connect (device : Address) (verdict : Except Refusal Unit) :
      EndsWith (.connect device) (.judged verdict)
  | disconnect (device : Address) (verdict : Except Refusal Unit) :
      EndsWith (.disconnect device) (.judged verdict)
  | storePriority (address : String) (priority : Priority) (verdict : Except Refusal Unit) :
      EndsWith (.storePriority address priority) (.judged verdict)
  | propertyChanged (path : String) (property : SinkProperty) :
      EndsWith (.propertyChanged path property) .done
  | commit (device : Address) (previous : Reading) (current : SinkState)
      (verdict : Except Refusal Unit) : EndsWith (.commit device previous current) (.judged verdict)

private theorem Operation.not_endsWith_overflow {operation : Operation} {cause : ClockOverflow} :
    ¬ operation.EndsWith (.overflow cause) := nofun

namespace Manager

variable {manager : Manager} {answers : Collaborators} {device : Address} {now : Instant}
  {operation : Operation}

theorem overflows_iff : manager.setup.Overflows answers device now ↔
    ((answers.priorityOf device).isPreferred && answers.playsAudio device) = true ∧
      now.after? manager.pending.delay = none := by
  rw [Bool.and_eq_true, Priority.isPreferred_iff, Collaborators.playsAudio_iff,
    Instant.after?_eq_none_iff]
  exact ⟨fun ⟨preferred, playsAudio, beyond⟩ => ⟨⟨preferred, playsAudio⟩, beyond⟩,
    fun ⟨⟨preferred, playsAudio⟩, beyond⟩ => ⟨preferred, playsAudio, beyond⟩⟩

private theorem remoteConnected_of_overflows
    (overflows : manager.setup.Overflows answers device now) :
    manager.remoteConnected answers device now = .quiet (.error .beyondLastReading) manager := by
  obtain ⟨candidate, beyond⟩ := overflows_iff.mp overflows
  rw [remoteConnected, if_pos candidate, PendingConnects.trigger_eq_overflow_iff.mpr beyond]

private theorem remoteConnected_of_not_overflows
    (within : ¬ manager.setup.Overflows answers device now) :
    ∃ moved, (manager.remoteConnected answers device now).result = .ok moved := by
  unfold remoteConnected
  split
  · next candidate =>
      cases triggered : manager.pending.trigger device now with
      | waiting deadline pending => exact ⟨true, rfl⟩
      | full => exact ⟨false, rfl⟩
      | overflow cause =>
          have beyond := PendingConnects.trigger_eq_overflow_iff.mp triggered
          exact absurd (overflows_iff.mpr ⟨candidate, beyond⟩) within
  · exact ⟨false, rfl⟩

private theorem perform_of_overflows (arrives : operation.arrival? = some (device, now))
    (overflows : manager.setup.Overflows answers device now) :
    manager.perform answers operation = .quiet (.overflow .beyondLastReading) manager := by
  have stopped := remoteConnected_of_overflows overflows
  unfold Operation.arrival? at arrives
  split at arrives
  · cases arrives
    exact congrArg (Outcome.map Reply.ofScheduling) stopped
  · cases arrives
    exact congrArg (Outcome.map Reply.ofScheduling) stopped
  · cases arrives

theorem perform_endsWith
    (within : ∀ device now, operation.arrival? = some (device, now) →
      ¬ manager.setup.Overflows answers device now) :
    operation.EndsWith (manager.perform answers operation).result := by
  have arrives : ∀ device now, operation.arrival? = some (device, now) →
      ∃ moved, (manager.remoteConnected answers device now).result = .ok moved :=
    fun device now arrival => remoteConnected_of_not_overflows (within device now arrival)
  cases operation with
  | event event now =>
      cases event with
      | adapterChanged _ | bondChanged _ _ | propertyChanged _ _ => exact .event _ now false
      | remoteConnected device =>
          obtain ⟨moved, accepted⟩ := arrives device now rfl
          have shows : (manager.perform answers (.event (.remoteConnected device) now)).result =
            .scheduled moved := congrArg Reply.ofScheduling accepted
          rw [shows]
          exact .event _ now moved
  | remoteConnected device now =>
      obtain ⟨moved, accepted⟩ := arrives device now rfl
      have shows : (manager.perform answers (.remoteConnected device now)).result =
        .scheduled moved := congrArg Reply.ofScheduling accepted
      rw [shows]
      exact .remoteConnected device now moved
  | request request => exact .request request _
  | fireDue now => exact .fireDue now _
  | scanBonded => exact .scanBonded
  | releaseAll => exact .releaseAll
  | bondChanged address state => exact .bondChanged address state
  | connect device => exact .connect device _
  | disconnect device => exact .disconnect device _
  | storePriority address priority => exact .storePriority address priority _
  | propertyChanged path property => exact .propertyChanged path property
  | commit device previous current => exact .commit device previous current _

/-! ## The delay -/

private theorem setup_commit (manager : Manager) (device : Address) (previous : Reading)
    (current : SinkState) :
    (manager.commit device previous current).state.setup = manager.setup := by
  unfold commit enter?
  split
  · rfl
  · cases manager.sinks.insert? device (.known current) with
    | none => rfl
    | some sinks =>
        simp only [Option.map_some]
        split <;> rfl

private theorem setup_eq_of_byActs {Result : Type} {outcome : Outcome Manager Result}
    {permitted : Act → Prop} (acts : outcome.ByActs answers permitted manager)
    (spared : ∀ pending, ¬ permitted (.reschedule pending)) :
    outcome.state.setup = manager.setup :=
  congrArg (fun pending => Setup.mk pending.delay) (acts.pending_of_not_reschedules spared)

/-- The delay is what it was set up to be, whatever is done. -/
theorem setup_perform (manager : Manager) (answers : Collaborators) (operation : Operation) :
    (manager.perform answers operation).state.setup = manager.setup := by
  have routed : ∀ operation : Operation, operation.isRouted = true →
      (manager.perform answers operation).state.setup = manager.setup := by
    intro operation isRouted
    let turn : Turn := ⟨manager, answers, operation⟩
    have kept : turn.outcome.state.pending.delay = manager.pending.delay :=
      Turn.delay_outcome isRouted
    exact congrArg Setup.mk kept
  cases operation with
  | event event now => exact routed (.event event now) rfl
  | request request => exact routed (.request request) rfl
  | fireDue now => exact routed (.fireDue now) rfl
  | scanBonded => exact routed (.event (.adapterChanged .on) .zero) rfl
  | releaseAll => exact routed (.event (.adapterChanged .turningOff) .zero) rfl
  | remoteConnected device now => exact routed (.event (.remoteConnected device) now) rfl
  | connect device => exact routed (.request (.connect device)) rfl
  | disconnect device => exact routed (.request (.disconnect device)) rfl
  | bondChanged address state =>
      exact setup_eq_of_byActs (storePriority_byActs manager answers address _)
        fun _ allowed => allowed
  | storePriority address priority =>
      exact setup_eq_of_byActs (storePriority_byActs manager answers address priority)
        fun _ allowed => allowed
  | propertyChanged path property =>
      exact setup_eq_of_byActs (propertyChanged_byActs manager answers path property)
        fun _ allowed => allowed
  | commit device previous current => exact setup_commit manager device previous current

theorem setup_run (manager : Manager) (steps : List (Collaborators × Operation)) :
    (manager.run steps).state.setup = manager.setup := by
  induction steps generalizing manager with
  | nil => rfl
  | cons step rest ih =>
      exact (ih (manager.perform step.1 step.2).state).trans
        (setup_perform manager step.1 step.2)

end Manager

/-! ## Turns -/

/-- The turn stops the host in one case and then leaves everything as it was. Otherwise it
comes to its end, and whatever it counts, collects or reads is within its bounds. -/
structure Turn.StopsOnlyAtOverflow (setup : Setup) (turn : Turn) : Prop where
  stops_iff : (∃ cause, turn.outcome.result = .overflow cause) ↔
    ∃ device now, turn.operation.arrival? = some (device, now) ∧
      setup.Overflows turn.answers device now
  stopped : ∀ cause, turn.outcome.result = .overflow cause →
    turn.outcome.state = turn.manager ∧ turn.outcome.journal = []
  ends : (∀ cause, turn.outcome.result ≠ .overflow cause) →
    turn.operation.EndsWith turn.outcome.result
  counts : turn.outcome.effects.foldlM Effect.recount?
    (if turn.operation.scans then 0 else turn.manager.activeCount) =
      some turn.outcome.state.activeCount
  collections : turn.manager.CollectionsFit ∧ turn.outcome.state.CollectionsFit
  addresses : ∀ text, Address.judge text ≠ .outOfRange ∧
    (Address.judge text).address? = Address.ofText? text

namespace Turn

variable {turn : Turn}

theorem stops_iff (turn : Turn) :
    (∃ cause, turn.outcome.result = .overflow cause) ↔
      ∃ device now, turn.operation.arrival? = some (device, now) ∧
        turn.manager.setup.Overflows turn.answers device now := by
  constructor
  · rintro ⟨cause, stops⟩
    refine Classical.byContradiction fun within => ?_
    have ends : turn.operation.EndsWith turn.outcome.result :=
      Manager.perform_endsWith fun device now arrives beyond =>
        within ⟨device, now, arrives, beyond⟩
    rw [stops] at ends
    exact Operation.not_endsWith_overflow ends
  · rintro ⟨device, now, arrives, beyond⟩
    exact ⟨_, congrArg Outcome.result (Manager.perform_of_overflows arrives beyond)⟩

theorem stopped {cause : ClockOverflow} (stops : turn.outcome.result = .overflow cause) :
    turn.outcome.state = turn.manager ∧ turn.outcome.journal = [] := by
  obtain ⟨device, now, arrives, beyond⟩ := turn.stops_iff.mp ⟨cause, stops⟩
  have stopped := Manager.perform_of_overflows arrives beyond
  exact ⟨congrArg Outcome.state stopped, congrArg Outcome.journal stopped⟩

theorem ends (goesOn : ∀ cause, turn.outcome.result ≠ .overflow cause) :
    turn.operation.EndsWith turn.outcome.result := by
  refine Manager.perform_endsWith fun device now arrives beyond => ?_
  obtain ⟨cause, stops⟩ := turn.stops_iff.mpr ⟨device, now, arrives, beyond⟩
  exact goesOn cause stops

end Turn

namespace Manager

/-- What was heard since the last scan ends with what the last turn tells. -/
private theorem sinceScan_concat (manager : Manager) (steps : List (Collaborators × Operation))
    (answers : Collaborators) (operation : Operation) :
    sinceScan [] (manager.turns (steps ++ [(answers, operation)])) =
      (if operation.scans then [] else sinceScan [] (manager.turns steps)) ++
        ((manager.run steps).state.perform answers operation).effects := by
  rw [turns_append, sinceScan, List.foldl_append]
  rfl

/-- A run that enters the connected state fewer times than there are numbers counts without
an overflow. -/
private theorem recounts_of_few {setup : Setup} {steps : List (Collaborators × Operation)}
    {answers : Collaborators} {operation : Operation}
    (few : (sinceScan [] ((Manager.new setup).turns (steps ++ [(answers, operation)]))).countP
      Effect.entersConnected < UInt32.size) :
    (((Manager.new setup).run steps).state.perform answers operation).effects.foldlM
        Effect.recount?
        (if operation.scans then 0 else ((Manager.new setup).run steps).state.activeCount) =
      some (((Manager.new setup).run steps).state.perform answers operation).state.activeCount := by
  rw [sinceScan_concat, List.countP_append] at few
  rw [(perform_tallies _ answers operation).count]
  apply Effect.foldlM_recount?
  by_cases scans : operation.scans = true
  · rw [if_pos scans] at few ⊢
    exact few
  · rw [if_neg scans] at few ⊢
    have start : (Manager.new setup).activeCount = List.foldl Effect.recount 0 [] := rfl
    have before := Effect.foldl_tally_le (sinceScan [] ((Manager.new setup).turns steps)) 0
    rw [activeCount_run start steps, Effect.toNat_foldl_recount]
    · show List.foldl Effect.tally 0 _ + _ < _
      omega
    · show 0 + _ < _
      omega

/-- From any state that operations lead to, an operation stops the host only where a
preferred sink shows up too late for its deadline. -/
theorem run_stops_only_at_overflow (setup : Setup) (steps : List (Collaborators × Operation))
    (answers : Collaborators) (operation : Operation)
    (few : (sinceScan [] ((Manager.new setup).turns (steps ++ [(answers, operation)]))).countP
      Effect.entersConnected < UInt32.size) :
    Turn.StopsOnlyAtOverflow setup
      ⟨((Manager.new setup).run steps).state, answers, operation⟩ where
  stops_iff := by
    rw [Turn.stops_iff, setup_run]
    exact Iff.rfl
  stopped _ stops := Turn.stopped stops
  ends goesOn := Turn.ends goesOn
  counts := recounts_of_few few
  collections := ⟨collectionsFit _, collectionsFit _⟩
  addresses text := ⟨(Address.readExactly text).inRange, (Address.readExactly text).address?⟩

section Sample

open Simulation

/-- A preferred sink shows up at the start of the clock. -/
def arrivesInTime : List (Collaborators × Operation) :=
  [(preferredSink, .event (.remoteConnected (sampleAddress 1)) .zero)]

/-- It shows up again at the last reading of the clock. -/
def arrivesTooLate : Operation := .event (.remoteConnected (sampleAddress 1)) ⟨-1⟩

theorem run_stops_only_at_overflow_of_arrivesTooLate :
    ((Manager.new {}).run arrivesInTime).state.pending.contains (sampleAddress 1) = true ∧
    (sinceScan [] ((Manager.new {}).turns (arrivesInTime ++
      [(preferredSink, arrivesTooLate)]))).countP Effect.entersConnected < UInt32.size ∧
    Turn.StopsOnlyAtOverflow {}
      ⟨((Manager.new {}).run arrivesInTime).state, preferredSink, arrivesTooLate⟩ ∧
    (∃ cause, (((Manager.new {}).run arrivesInTime).state.perform preferredSink
      arrivesTooLate).result = .overflow cause) ∧
    (((Manager.new {}).run arrivesInTime).state.perform preferredSink arrivesTooLate).state =
      ((Manager.new {}).run arrivesInTime).state := by
  have few : (sinceScan [] ((Manager.new {}).turns (arrivesInTime ++
      [(preferredSink, arrivesTooLate)]))).countP Effect.entersConnected < UInt32.size := by
    decide
  have exact := run_stops_only_at_overflow {} arrivesInTime preferredSink arrivesTooLate few
  have beyond : Setup.Overflows {} preferredSink (sampleAddress 1) ⟨-1⟩ :=
    ⟨by decide, ⟨_, rfl, by decide⟩, by decide⟩
  obtain ⟨cause, stops⟩ := exact.stops_iff.mpr ⟨sampleAddress 1, ⟨-1⟩, rfl, beyond⟩
  exact ⟨by decide, few, exact, ⟨cause, stops⟩, (exact.stopped cause stops).1⟩

end Sample

end Manager

end AudioHost
