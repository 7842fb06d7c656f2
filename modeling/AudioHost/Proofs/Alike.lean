import AudioHost.Manager.Operation
import AudioHost.Proofs.Change
import AudioHost.Proofs.Listing
import AudioHost.Simulation.Sample

/-!
# Invalid and disconnected sinks look alike

Two managers that differ only in which of the disconnected sinks they remember as invalid
answer alike and act alike for ever. Only the listing of the table tells them apart.
-/

set_option autoImplicit false

namespace AudioHost

/-! ## Tables -/

/-- Two answers of one view are both missing or both there. -/
private theorem none_or_some_of_map_eq {Item View : Type} {view : Item → View}
    {left right : Option Item} (same : left.map view = right.map view) :
    (left = none ∧ right = none) ∨
      ∃ first second, left = some first ∧ right = some second ∧ view first = view second := by
  cases left with
  | none => exact .inl ⟨rfl, Option.map_eq_none_iff.mp same.symm⟩
  | some first =>
      obtain ⟨second, found, view⟩ := Option.map_eq_some_iff.mp same.symm
      exact .inr ⟨first, second, rfl, found, view.symm⟩

namespace SinkTable

/-- What a table shows of each entry: the device and its state. -/
def shown (table : SinkTable) : List (Address × SinkState) :=
  table.entries.map fun entry => (entry.1, entry.2.state)

variable {left right : SinkTable} {device : Address} {reading : Reading}

private theorem keys_eq_of_shown (alike : left.shown = right.shown) : left.keys = right.keys := by
  have keys : ∀ table : SinkTable, table.keys = table.shown.map Prod.fst := by
    intro table
    unfold shown BoundedMap.keys
    rw [List.map_map]
    rfl
  rw [keys left, keys right, alike]

private theorem isBusy_eq_of_shown (alike : left.shown = right.shown) :
    left.isBusy = right.isBusy := by
  have busy : ∀ table : SinkTable, table.isBusy = table.shown.any fun pair => pair.2.isBusy := by
    intro table
    unfold isBusy shown BoundedMap.values
    rw [List.any_map, List.any_map]
    rfl
  rw [busy left, busy right, alike]

private theorem connected_eq_of_shown (alike : left.shown = right.shown) :
    left.connected = right.connected := by
  have connected : ∀ table : SinkTable,
      table.connected = (table.shown.filter fun pair => pair.2.isUp).map Prod.fst := by
    intro table
    unfold connected shown
    rw [List.filter_map, List.map_map]
    rfl
  rw [connected left, connected right, alike]

private theorem map_state_get? (table : SinkTable) (device : Address) :
    (table.get? device).map Reading.state = table.shown.lookup device := by
  unfold BoundedMap.get? shown
  induction table.entries with
  | nil => rfl
  | cons entry rest ih =>
      rw [List.map_cons, List.lookup_cons, List.lookup_cons]
      cases device == entry.1 with
      | true => rfl
      | false => exact ih

private theorem get?_of_shown (alike : left.shown = right.shown) (device : Address) :
    (left.get? device = none ∧ right.get? device = none) ∨
      ∃ first second, left.get? device = some first ∧ right.get? device = some second ∧
        first.state = second.state := by
  apply none_or_some_of_map_eq
  rw [map_state_get?, map_state_get?, alike]

private theorem stateOf_eq_of_shown (alike : left.shown = right.shown) (device : Address) :
    left.stateOf device = right.stateOf device := by
  unfold stateOf
  rcases get?_of_shown alike device with
    ⟨leftNone, rightNone⟩ | ⟨_, _, leftFound, rightFound, state⟩
  · rw [leftNone, rightNone]
  · rw [leftFound, rightFound]
    exact state

private theorem shown_replace (table : SinkTable) (device : Address) (reading : Reading) :
    shown (table.replace device reading) =
      table.shown.map fun pair => if pair.1 = device then (device, reading.state) else pair := by
  unfold shown BoundedMap.replace
  rw [List.map_map, List.map_map]
  apply List.map_congr_left
  intro entry _
  by_cases same : entry.1 = device <;> simp [same]

private theorem replace_alike (alike : left.shown = right.shown) (device : Address)
    (reading : Reading) :
    shown (left.replace device reading) = shown (right.replace device reading) := by
  rw [shown_replace, shown_replace, alike]

private theorem map_shown_insert? (table : SinkTable) (device : Address) (reading : Reading) :
    (table.insert? device reading).map shown =
      if device ∈ table.keys then
        some (table.shown.map fun pair =>
          if pair.1 = device then (device, reading.state) else pair)
      else if table.shown.length < Limits.sinkDevices then
        some (table.shown ++ [(device, reading.state)])
      else none := by
  have length : table.shown.length = table.size := List.length_map _
  by_cases present : device ∈ table.keys
  · rw [BoundedMap.insert?_of_mem reading present, if_pos present, Option.map_some,
      shown_replace]
  · rw [if_neg present, length]
    cases taken : table.insert? device reading with
    | none =>
        obtain ⟨_, full⟩ := BoundedMap.insert?_eq_none_iff.mp taken
        rw [full, if_neg (Nat.lt_irrefl _)]
        rfl
    | some inserted =>
        have room : table.size < Limits.sinkDevices := by
          refine Nat.lt_of_le_of_ne table.size_le fun full => ?_
          rw [BoundedMap.insert?_eq_none_iff.mpr ⟨present, full⟩] at taken
          cases taken
        rcases BoundedMap.entries_of_insert?_eq_some taken with ⟨member, _⟩ | ⟨_, appended⟩
        · exact absurd member present
        · rw [if_pos room, Option.map_some]
          unfold shown
          rw [appended, List.map_append]
          rfl

private theorem insert?_alike (alike : left.shown = right.shown) (device : Address)
    (reading : Reading) :
    (left.insert? device reading = none ∧ right.insert? device reading = none) ∨
      ∃ first second, left.insert? device reading = some first ∧
        right.insert? device reading = some second ∧ shown first = shown second := by
  apply none_or_some_of_map_eq
  rw [map_shown_insert?, map_shown_insert?, keys_eq_of_shown alike, alike]

end SinkTable

/-! ## Managers and outcomes -/

/-- Two managers that agree on everything but on which disconnected sinks are invalid. -/
structure Manager.Alike (left right : Manager) : Prop where
  sinks : left.sinks.shown = right.sinks.shown
  activeCount : left.activeCount = right.activeCount
  pending : left.pending = right.pending

/-- Outcomes with the same answer and the same effects that leave alike managers. -/
structure Outcome.Alike {Result : Type} (left right : Outcome Manager Result) : Prop where
  result : left.result = right.result
  effects : left.effects = right.effects
  state : left.state.Alike right.state

namespace Outcome

variable {Result Next Item : Type} {left right : Manager}

private theorem alike_quiet (alike : left.Alike right) (result : Result) :
    (quiet result left).Alike (quiet result right) := ⟨rfl, rfl, alike⟩

theorem Alike.map {first second : Outcome Manager Result} (alike : first.Alike second)
    (change : Result → Next) : (first.map change).Alike (second.map change) :=
  ⟨congrArg change alike.result, alike.effects, alike.state⟩

theorem Alike.andThen {first second : Outcome Manager Result} (alike : first.Alike second)
    {next : Result → Manager → Outcome Manager Next}
    (goesOn : ∀ result {left right : Manager}, left.Alike right →
      (next result left).Alike (next result right)) :
    (first.andThen next).Alike (second.andThen next) := by
  have later := goesOn first.result alike.state
  rw [show next first.result second.state = next second.result second.state by
    rw [alike.result]] at later
  refine ⟨later.result, ?_, later.state⟩
  rw [effects_andThen, effects_andThen, alike.effects, later.effects]

private theorem forEach_alike {operation : Manager → Item → Outcome Manager Unit}
    (each : ∀ item {left right : Manager}, left.Alike right →
      (operation left item).Alike (operation right item))
    (items : List Item) (alike : left.Alike right) :
    (forEach operation items left).Alike (forEach operation items right) := by
  induction items generalizing left right with
  | nil => exact alike_quiet alike ()
  | cons item rest ih => exact (each item alike).andThen fun _ _ _ next => ih next

end Outcome

namespace Manager

open Outcome

variable {left right : Manager} {answers : Collaborators} {device : Address}

theorem Alike.stateOf_eq (alike : left.Alike right) (device : Address) :
    left.stateOf device = right.stateOf device :=
  SinkTable.stateOf_eq_of_shown alike.sinks device

theorem Alike.connected_eq (alike : left.Alike right) : left.connected = right.connected :=
  SinkTable.connected_eq_of_shown alike.sinks

theorem Alike.isBusy_eq (alike : left.Alike right) : left.isBusy = right.isBusy :=
  SinkTable.isBusy_eq_of_shown alike.sinks

private theorem emit_alike (alike : left.Alike right) (effect : Effect) :
    (left.emit effect).Alike (right.emit effect) := ⟨rfl, rfl, alike⟩

private theorem enter?_alike (alike : left.Alike right) (device : Address) (reading : Reading) :
    (left.enter? device reading = none ∧ right.enter? device reading = none) ∨
      ∃ leftEntered rightEntered, left.enter? device reading = some leftEntered ∧
        right.enter? device reading = some rightEntered ∧ leftEntered.Alike rightEntered := by
  unfold enter?
  rcases SinkTable.insert?_alike alike.sinks device reading with
    ⟨leftFull, rightFull⟩ | ⟨leftSinks, rightSinks, leftTaken, rightTaken, shown⟩
  · rw [leftFull, rightFull]
    exact .inl ⟨rfl, rfl⟩
  · rw [leftTaken, rightTaken]
    exact .inr ⟨_, _, rfl, rfl, shown, alike.activeCount, alike.pending⟩

/-! ## Transitions -/

private theorem announce_alike (alike : left.Alike right) (device : Address)
    (previous current : SinkState) :
    (left.announce device previous current).Alike (right.announce device previous current) := by
  refine ⟨rfl, ?_, alike.sinks, ?_, alike.pending⟩
  · rw [effects_announce, effects_announce]
  · exact congrArg (countAfter · previous current) alike.activeCount

theorem commit_alike (alike : left.Alike right) (device : Address) (previous : Reading)
    (current : SinkState) :
    (left.commit device previous current).Alike (right.commit device previous current) := by
  unfold commit
  split
  · exact alike_quiet alike _
  · rcases enter?_alike alike device (.known current) with
      ⟨leftFull, rightFull⟩ | ⟨leftEntered, rightEntered, leftTaken, rightTaken, entered⟩
    · rw [leftFull, rightFull]
      exact alike_quiet alike _
    · rw [leftTaken, rightTaken]
      dsimp only
      split
      · exact alike_quiet entered _
      · exact (announce_alike entered device _ current).map _

private theorem move_alike (alike : left.Alike right) (device : Address) (previous : Reading)
    (current : SinkState) :
    (left.move device previous current).Alike (right.move device previous current) :=
  (commit_alike alike device previous current).map fun _ => ()

private theorem track_alike (alike : left.Alike right) (answers : Collaborators)
    (device : Address) : (left.track answers device).Alike (right.track answers device) := by
  unfold track
  split
  · exact alike_quiet alike _
  · rcases enter?_alike alike device .invalid with
      ⟨leftFull, rightFull⟩ | ⟨leftEntered, rightEntered, leftTaken, rightTaken, entered⟩
    · rw [leftFull, rightFull]
      exact alike_quiet alike _
    · rw [leftTaken, rightTaken]
      exact alike_quiet entered _
  · rcases enter?_alike alike device (.known .disconnected) with
      ⟨leftFull, rightFull⟩ | ⟨leftEntered, rightEntered, leftTaken, rightTaken, entered⟩
    · rw [leftFull, rightFull]
      exact alike_quiet alike _
    · rw [leftTaken, rightTaken]
      exact (move_alike entered device _ _).map _

private theorem applyReport_alike (alike : left.Alike right) {leftReading rightReading : Reading}
    (leftTracked : left.sinks.get? device = some leftReading)
    (rightTracked : right.sinks.get? device = some rightReading)
    (same : leftReading.state = rightReading.state) (report : String) :
    (left.applyReport device leftReading report).Alike
      (right.applyReport device rightReading report) := by
  rw [applyReport_of_tracked leftTracked, applyReport_of_tracked rightTracked, same]
  refine ⟨rfl, ?_, SinkTable.replace_alike alike.sinks device _, ?_, alike.pending⟩
  · unfold Outcome.effects
    rw [map_effect_changeJournal, map_effect_changeJournal]
  · unfold afterChange
    rw [alike.activeCount]

/-! ## Reports, priorities and triggers -/

theorem propertyChanged_alike (alike : left.Alike right) (answers : Collaborators)
    (path : String) (property : SinkProperty) :
    (left.propertyChanged answers path property).Alike
      (right.propertyChanged answers path property) := by
  unfold propertyChanged
  split
  case isFalse => exact alike_quiet alike ()
  split
  · exact alike_quiet alike ()
  · next device leads =>
      split
      case isFalse => exact alike_quiet alike ()
      rcases SinkTable.get?_of_shown alike.sinks device with
        ⟨leftNone, rightNone⟩ | ⟨_, _, leftFound, rightFound, state⟩
      · rw [leftNone, rightNone]
        exact (track_alike alike answers device).map _
      · rw [leftFound, rightFound]
        exact applyReport_alike alike leftFound rightFound state _

theorem storePriority_alike (alike : left.Alike right) (answers : Collaborators)
    (address : String) (priority : Priority) :
    (left.storePriority answers address priority).Alike
      (right.storePriority answers address priority) := by
  unfold storePriority
  split
  · exact alike_quiet alike _
  · exact (emit_alike alike _).map _

theorem bondChanged_alike (alike : left.Alike right) (answers : Collaborators)
    (address : String) (state : BondState) :
    (left.bondChanged answers address state).Alike (right.bondChanged answers address state) :=
  (storePriority_alike alike answers address state.priority).map fun _ => ()

theorem remoteConnected_alike (alike : left.Alike right) (answers : Collaborators)
    (device : Address) (now : Instant) :
    (left.remoteConnected answers device now).Alike
      (right.remoteConnected answers device now) := by
  unfold remoteConnected
  rw [alike.pending]
  split
  · split
    · next deadline pending triggered =>
        have next : Manager.Alike { left with pending } { right with pending } :=
          ⟨alike.sinks, alike.activeCount, rfl⟩
        exact alike_quiet next _
    · exact alike_quiet alike _
    · exact alike_quiet alike _
  · exact alike_quiet alike _

/-! ## Connecting and disconnecting -/

private theorem connectFrom_alike (alike : left.Alike right) (answers : Collaborators)
    (device : Address) {leftReading rightReading : Reading}
    (same : leftReading.state = rightReading.state) :
    (left.connectFrom answers device leftReading).Alike
      (right.connectFrom answers device rightReading) := by
  unfold connectFrom requestConnect
  rw [same]
  cases rightReading.state with
  | connected | playing | disconnecting | connecting => exact alike_quiet alike _
  | disconnected =>
      dsimp only
      split
      · exact alike_quiet alike _
      · exact (emit_alike alike _).map _

theorem connect_alike (alike : left.Alike right) (answers : Collaborators) (device : Address) :
    (left.connect answers device).Alike (right.connect answers device) := by
  unfold connect
  rw [alike.isBusy_eq]
  split
  · exact alike_quiet alike _
  · rcases SinkTable.get?_of_shown alike.sinks device with
      ⟨leftNone, rightNone⟩ | ⟨_, _, leftFound, rightFound, state⟩
    · rw [leftNone, rightNone]
      apply (track_alike alike answers device).andThen
      intro tracked left right next
      cases tracked with
      | error cause => exact alike_quiet next _
      | ok reading => exact connectFrom_alike next answers device rfl
    · rw [leftFound, rightFound]
      exact connectFrom_alike alike answers device state

theorem disconnect_alike (alike : left.Alike right) (answers : Collaborators)
    (device : Address) :
    (left.disconnect answers device).Alike (right.disconnect answers device) := by
  unfold disconnect
  rw [alike.stateOf_eq]
  split
  · exact alike_quiet alike _
  · cases right.stateOf device with
    | disconnected | disconnecting => exact alike_quiet alike _
    | connecting | connected | playing => exact (emit_alike alike _).map _

private theorem attemptInTurn_alike (answers : Collaborators) (devices : List Address)
    (alike : left.Alike right) :
    (attemptInTurn answers devices left).Alike (attemptInTurn answers devices right) := by
  induction devices generalizing left right with
  | nil => exact alike_quiet alike _
  | cons device rest ih =>
      unfold attemptInTurn mayAttempt
      rw [alike.isBusy_eq]
      split
      · apply (connect_alike alike answers device).andThen
        intro attempted left right next
        cases attempted with
        | ok => exact alike_quiet next _
        | error cause => exact ih next
      · exact ih alike

theorem fireDue_alike (alike : left.Alike right) (answers : Collaborators) (now : Instant) :
    (left.fireDue answers now).Alike (right.fireDue answers now) := by
  unfold fireDue
  rw [alike.pending]
  exact attemptInTurn_alike answers _ ⟨alike.sinks, alike.activeCount, rfl⟩

/-! ## The adapter -/

private theorem trackBonded_alike (answers : Collaborators) (path : ObjectPath)
    (alike : left.Alike right) :
    (trackBonded answers left path).Alike (trackBonded answers right path) := by
  unfold trackBonded
  split
  · exact alike_quiet alike ()
  · split
    · exact (track_alike alike answers _).map _
    · exact alike_quiet alike ()

theorem scanBonded_alike (alike : left.Alike right) (answers : Collaborators) :
    (left.scanBonded answers).Alike (right.scanBonded answers) := by
  have fresh : Manager.Alike { left with activeCount := 0 } { right with activeCount := 0 } :=
    ⟨alike.sinks, rfl, alike.pending⟩
  have scanned := forEach_alike (fun path _ _ held => trackBonded_alike answers path held)
    answers.bondedPaths fresh
  exact scanned.andThen fun _ _ _ next => emit_alike next _

private theorem release_of_shown (answers : Collaborators) (manager : Manager)
    (entry : Address × Reading) :
    release answers manager entry =
      release answers manager (entry.1, .known entry.2.state) := by
  obtain ⟨device, known | _⟩ := entry <;> rfl

private theorem release_alike (answers : Collaborators) (entry : Address × Reading)
    (alike : left.Alike right) :
    (release answers left entry).Alike (release answers right entry) := by
  unfold release requestRelease
  cases entry.2.state with
  | disconnected => exact alike_quiet alike ()
  | disconnecting => exact move_alike alike _ _ _
  | connecting | connected | playing =>
      refine Outcome.Alike.andThen ?_ fun _ _ _ asked => move_alike asked _ _ _
      split
      · exact alike_quiet alike ()
      · exact emit_alike alike _

private theorem forEach_release_of_shown (answers : Collaborators)
    (entries : List (Address × Reading)) (manager : Manager) :
    Outcome.forEach (release answers) entries manager =
      Outcome.forEach (release answers)
        ((entries.map fun entry => (entry.1, entry.2.state)).map
          fun pair => (pair.1, .known pair.2)) manager := by
  induction entries generalizing manager with
  | nil => rfl
  | cons entry rest ih =>
      simp only [List.map_cons, Outcome.forEach]
      rw [release_of_shown]
      simp only [ih]

theorem releaseAll_alike (alike : left.Alike right) (answers : Collaborators) :
    (left.releaseAll answers).Alike (right.releaseAll answers) := by
  unfold releaseAll
  -- Both are taken down along one list: the entries as far as they are shown.
  rw [forEach_release_of_shown answers left.sinks.entries,
    forEach_release_of_shown answers right.sinks.entries]
  have shown : left.sinks.entries.map (fun entry => (entry.1, entry.2.state)) =
      right.sinks.entries.map fun entry => (entry.1, entry.2.state) := alike.sinks
  rw [shown]
  refine (forEach_alike (fun entry _ _ held => release_alike answers entry held) _ alike).andThen
    fun _ left right released => ?_
  have emptied : Manager.Alike { left with sinks := .empty } { right with sinks := .empty } :=
    ⟨rfl, released.activeCount, released.pending⟩
  exact emit_alike emptied _

theorem adapterChanged_alike (alike : left.Alike right) (answers : Collaborators)
    (state : AdapterState) :
    (left.adapterChanged answers state).Alike (right.adapterChanged answers state) := by
  cases state with
  | on => exact scanBonded_alike alike answers
  | turningOff => exact releaseAll_alike alike answers
  | off | turningOn => exact alike_quiet alike ()

/-! ## Operations and runs -/

theorem applyEvent_alike (alike : left.Alike right) (answers : Collaborators) (now : Instant)
    (event : Event) :
    (left.applyEvent answers now event).Alike (right.applyEvent answers now event) := by
  cases event with
  | adapterChanged state =>
      exact (adapterChanged_alike alike answers state).map fun _ => Except.ok false
  | bondChanged address state =>
      exact (bondChanged_alike alike answers address.text state).map fun _ => Except.ok false
  | remoteConnected device => exact remoteConnected_alike alike answers device now
  | propertyChanged path property =>
      exact (propertyChanged_alike alike answers path.text property).map fun _ => Except.ok false

theorem serve_alike (alike : left.Alike right) (answers : Collaborators) (request : Request) :
    (left.serve answers request).Alike (right.serve answers request) := by
  cases request with
  | connect device => exact (connect_alike alike answers device).map _
  | disconnect device => exact (disconnect_alike alike answers device).map _
  | storePriority address priority => exact (storePriority_alike alike answers _ _).map _
  | connected =>
      simp only [serve, alike.connected_eq]
      exact alike_quiet alike _
  | stateOf device =>
      simp only [serve, alike.stateOf_eq device]
      exact alike_quiet alike _
  | priorityOf device => exact alike_quiet alike _
  | activeCount =>
      simp only [serve, alike.activeCount]
      exact alike_quiet alike _

theorem perform_alike (alike : left.Alike right) (answers : Collaborators)
    (operation : Operation) :
    (left.perform answers operation).Alike (right.perform answers operation) := by
  cases operation with
  | event event now => exact (applyEvent_alike alike answers now event).map _
  | request request => exact (serve_alike alike answers request).map _
  | fireDue now => exact (fireDue_alike alike answers now).map _
  | scanBonded => exact (scanBonded_alike alike answers).map fun _ => Reply.done
  | releaseAll => exact (releaseAll_alike alike answers).map fun _ => Reply.done
  | bondChanged address state =>
      exact (bondChanged_alike alike answers address state).map fun _ => Reply.done
  | remoteConnected device now => exact (remoteConnected_alike alike answers device now).map _
  | connect device => exact (connect_alike alike answers device).map _
  | disconnect device => exact (disconnect_alike alike answers device).map _
  | storePriority address priority => exact (storePriority_alike alike answers _ _).map _
  | propertyChanged path property =>
      exact (propertyChanged_alike alike answers path property).map fun _ => Reply.done
  | commit device previous current => exact (commit_alike alike device previous current).map _

theorem run_alike (alike : left.Alike right) (steps : List (Collaborators × Operation)) :
    (left.run steps).Alike (right.run steps) := by
  induction steps generalizing left right with
  | nil => exact alike_quiet alike []
  | cons step rest ih =>
      obtain ⟨answers, operation⟩ := step
      exact (perform_alike alike answers operation).andThen fun _ _ _ next => (ih next).map _

/-- Nothing that is done to two managers that look alike tells them apart, but the listing
of the table does. -/
theorem run_indistinguishable {left right : Manager} (alike : left.Alike right)
    (steps : List (Collaborators × Operation)) :
    (left.run steps).Alike (right.run steps) ∧
      ((left.run steps).state.sinks.listing = (right.run steps).state.sinks.listing ↔
        (left.run steps).state = (right.run steps).state) := by
  have after := run_alike alike steps
  refine ⟨after, fun listed => ?_, fun same => by rw [same]⟩
  have sinks := SinkTable.listing_inj.mp listed
  obtain ⟨_, activeCount, pending⟩ := after.state
  cases leftState : (left.run steps).state
  cases rightState : (right.run steps).state
  rw [leftState, rightState] at sinks activeCount pending
  rw [Manager.mk.injEq]
  exact ⟨sinks, activeCount, pending⟩

section Sample

open Simulation

/-- A manager that has found a sink whose state it does not recognise. -/
def foundInvalid : Manager :=
  ((Manager.new {}).run [(oneSink "sleeping", .event (.adapterChanged .on) .zero)]).state

/-- A manager that has found the same sink to be disconnected. -/
def foundDisconnected : Manager :=
  ((Manager.new {}).run [(oneSink "disconnected", .event (.adapterChanged .on) .zero)]).state

/-- The sink is connected on request, reports so and is lost with the adapter. -/
def usedAndLost : List (Collaborators × Operation) :=
  [(oneSink "disconnected", .request (.connect (sampleAddress 1))),
    (oneSink "playing", .event reportPlaying .zero),
    (oneSink "playing", .event (.adapterChanged .turningOff) .zero)]

theorem run_indistinguishable_of_usedAndLost :
    foundInvalid.Alike foundDisconnected ∧ foundInvalid ≠ foundDisconnected ∧
      (foundInvalid.run usedAndLost).Alike (foundDisconnected.run usedAndLost) ∧
      (foundInvalid.run (usedAndLost.take 1)).state.sinks.listing ≠
        (foundDisconnected.run (usedAndLost.take 1)).state.sinks.listing := by
  have alike : foundInvalid.Alike foundDisconnected := ⟨by decide, by decide, by decide⟩
  have differ : foundInvalid ≠ foundDisconnected := by decide
  refine ⟨alike, differ, (run_indistinguishable alike usedAndLost).1, ?_⟩
  rw [Ne, (run_indistinguishable alike (usedAndLost.take 1)).2]
  decide

end Sample

end Manager

end AudioHost
