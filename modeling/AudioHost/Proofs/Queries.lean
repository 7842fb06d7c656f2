import AudioHost.Manager.Operation
import AudioHost.PendingConnects.Lemmas
import AudioHost.Proofs.Refusals

/-!
# Queries about the tables

After any run the tables hold each device once and have room for what they hold, the
queries about sinks tell the same story, and every list that is put together from a table
fits into as many slots as the table has.
-/

set_option autoImplicit false

namespace AudioHost

private theorem SinkState.isUp_iff {state : SinkState} :
    state.isUp = true ↔ state = .connected ∨ state = .playing := by
  cases state <;> decide

namespace SinkTable

/-- The connected devices are the tracked ones, in their order, whose state says so. -/
theorem connected_eq_filter (table : SinkTable) :
    table.connected = table.keys.filter fun device => (table.stateOf device).isUp := by
  unfold connected BoundedMap.keys
  rw [List.filter_map]
  congr 1
  refine List.filter_congr fun entry member => ?_
  have tracked : table.get? entry.1 = some entry.2 := BoundedMap.get?_eq_some_iff.mpr member
  exact congrArg SinkState.isUp (stateOf_of_get? tracked).symm

theorem mem_connected_iff {table : SinkTable} {device : Address} :
    device ∈ table.connected ↔
      table.stateOf device = .connected ∨ table.stateOf device = .playing := by
  rw [connected_eq_filter, List.mem_filter, SinkState.isUp_iff, and_iff_right_iff_imp]
  intro up
  refine Classical.byContradiction fun absent => ?_
  rw [stateOf_of_untracked (BoundedMap.get?_eq_none_iff.mpr absent)] at up
  simp at up

theorem isBusy_iff {table : SinkTable} :
    table.isBusy = true ↔ ∃ device, table.stateOf device ≠ .disconnected := by
  rw [← Bool.not_eq_false, isBusy_eq_false_iff, Classical.not_forall]

end SinkTable

namespace Manager

/-- Each device is listed once, and neither table holds more than it has room for. -/
structure TablesFit (manager : Manager) : Prop where
  tracked : manager.sinks.entries.length ≤ Limits.sinkDevices
  trackedOnce : (manager.sinks.entries.map Prod.fst).Nodup
  waiting : manager.pending.deadlines.entries.length ≤ Limits.sinkDevices
  waitingOnce : (manager.pending.deadlines.entries.map Prod.fst).Nodup

/-- The list of connected devices, the states of single devices and the refusal of
connects agree. -/
structure QueriesAgree (manager : Manager) : Prop where
  connected_iff : ∀ device, device ∈ manager.connected ↔
    manager.stateOf device = .connected ∨ manager.stateOf device = .playing
  connectedOnce : manager.connected.Nodup
  inTableOrder : manager.connected.Sublist manager.sinks.keys
  busy_iff : ∀ answers device,
    (manager.connect answers device).result = .error .alreadyBusy ↔
      ∃ other, manager.stateOf other ≠ .disconnected
  untracked : ∀ device, manager.sinks.get? device = none →
    manager.stateOf device = .disconnected

/-- What is collected from the tables fits into the slots that are set aside for it: the
answer to a query, the devices of a batch at any time, the devices to let go of. -/
structure CollectionsFit (manager : Manager) : Prop where
  connected : manager.connected.length ≤ Limits.sinkDevices
  due : ∀ now, (manager.pending.drain now).1.length ≤ Limits.sinkDevices
  released : manager.sinks.entries.length ≤ Limits.sinkDevices

theorem tablesFit (manager : Manager) : manager.TablesFit where
  tracked := manager.sinks.within
  trackedOnce := manager.sinks.distinct
  waiting := manager.pending.deadlines.within
  waitingOnce := manager.pending.deadlines.distinct

theorem queriesAgree (manager : Manager) : manager.QueriesAgree where
  connected_iff _ := SinkTable.mem_connected_iff
  connectedOnce := by
    rw [connected, SinkTable.connected_eq_filter]
    exact manager.sinks.keys_nodup.filter _
  inTableOrder := by
    rw [connected, SinkTable.connected_eq_filter]
    exact List.filter_sublist
  busy_iff _ _ := result_connect_eq_alreadyBusy_iff.trans SinkTable.isBusy_iff
  untracked _ := SinkTable.stateOf_of_untracked

theorem collectionsFit (manager : Manager) : manager.CollectionsFit where
  connected := by
    have fewer := manager.queriesAgree.inTableOrder.length_le
    rw [BoundedMap.length_keys] at fewer
    exact Nat.le_trans fewer manager.sinks.size_le
  due now := by
    have fewer : (manager.pending.due now).length ≤ manager.pending.deadlines.size := by
      rw [PendingConnects.due, List.length_map]
      exact List.length_filter_le _ _
    exact Nat.le_trans fewer manager.pending.deadlines.size_le
  released := manager.sinks.within

theorem run_tables_and_queries (setup : Setup) (steps : List (Collaborators × Operation)) :
    ((Manager.new setup).run steps).state.TablesFit ∧
      ((Manager.new setup).run steps).state.QueriesAgree ∧
      ((Manager.new setup).run steps).state.CollectionsFit :=
  ⟨tablesFit _, queriesAgree _, collectionsFit _⟩

end Manager

end AudioHost
