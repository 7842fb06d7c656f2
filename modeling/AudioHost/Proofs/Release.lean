import AudioHost.Proofs.LockStep
import AudioHost.Proofs.Survey

/-!
# What turning the adapter off comes to

Every tracked device is let go of once, in table order, whatever the stack answers. After
that the manager remembers nothing that a later scan could notice.
-/

set_option autoImplicit false

namespace AudioHost

namespace Effect

/-- Only a sink that is up or on its way up is disconnected natively, and only if it has
a path. -/
def askedToRelease (answers : Collaborators) (entry : Address × Reading) : List Effect :=
  if entry.2.state = .connecting ∨ entry.2.state = .connected ∨ entry.2.state = .playing then
    (answers.pathOf entry.1).toList.map fun path =>
      .disconnect entry.1 path (answers.acceptsDisconnect path)
  else []

/-- What is done and told about one tracked device when the adapter turns off. -/
def released (answers : Collaborators) (entry : Address × Reading) : List Effect :=
  askedToRelease answers entry ++
    (if entry.2.state = .connected ∨ entry.2.state = .playing then [.becomingNoisy] else []) ++
    (if entry.2.state = .disconnected then []
    else [.stateChanged entry.1 entry.2.state .disconnected])

end Effect

namespace Manager

variable {manager : Manager} {answers : Collaborators} {entry : Address × Reading}

def readUp (entry : Address × Reading) : Bool :=
  decide (entry.2.state = .connected ∨ entry.2.state = .playing)

/-! ## One device -/

private theorem effects_move_of_tracked (tracked : manager.sinks.get? entry.1 = some entry.2)
    (current : SinkState) :
    (manager.move entry.1 entry.2 current).effects =
      if entry.2.state = current then [] else announcement entry.1 entry.2.state current := by
  rw [move_of_tracked tracked]
  exact map_effect_changeJournal _ _ _ _

private theorem effects_requestRelease (manager : Manager) (answers : Collaborators)
    (device : Address) :
    (manager.requestRelease answers device).effects =
      (answers.pathOf device).toList.map fun path =>
        .disconnect device path (answers.acceptsDisconnect path) := by
  unfold requestRelease
  cases answers.pathOf device <;> rfl

private theorem state_requestRelease (manager : Manager) (answers : Collaborators)
    (device : Address) : (manager.requestRelease answers device).state = manager := by
  unfold requestRelease
  cases answers.pathOf device <;> rfl

private theorem effects_release (tracked : manager.sinks.get? entry.1 = some entry.2) :
    (release answers manager entry).effects = Effect.released answers entry := by
  have told := effects_move_of_tracked tracked .disconnected
  unfold release Effect.released Effect.askedToRelease
  cases shown : entry.2.state with
  | disconnected => simp
  | disconnecting | connecting | connected | playing =>
      simp [effects_requestRelease, state_requestRelease, told, shown, announcement, losesAudio,
        SinkState.isUp, SinkState.isDown]

/-! ## All devices -/

/-- As long as the entries still ahead are as they were, each of them is let go of. -/
private theorem effects_forEach_release (answers : Collaborators)
    {entries : List (Address × Reading)}
    (distinct : (entries.map Prod.fst).Nodup) (manager : Manager)
    (ahead : ∀ entry ∈ entries, manager.sinks.get? entry.1 = some entry.2) :
    (Outcome.forEach (release answers) entries manager).effects =
      entries.flatMap (Effect.released answers) := by
  induction entries generalizing manager with
  | nil => rfl
  | cons entry rest ih =>
      have restDistinct := (List.nodup_cons.mp distinct).2
      have tracked := ahead entry List.mem_cons_self
      have restAhead := ahead_of_release answers distinct ahead
      unfold Outcome.forEach
      rw [Outcome.effects_andThen, effects_release tracked, ih restDistinct _ restAhead,
        List.flatMap_cons]

theorem effects_releaseAll (manager : Manager) (answers : Collaborators) :
    (manager.releaseAll answers).effects =
      manager.sinks.entries.flatMap (Effect.released answers) ++ [.audioEnabled false] := by
  have ahead : ∀ entry ∈ manager.sinks.entries, manager.sinks.get? entry.1 = some entry.2 :=
    fun _ member => BoundedMap.get?_eq_some_iff.mpr member
  unfold releaseAll
  rw [Outcome.effects_andThen,
    effects_forEach_release answers manager.sinks.distinct manager ahead]
  rfl

private theorem toNat_recount_released (answers : Collaborators) (entry : Address × Reading)
    (count : UInt32) :
    ((Effect.released answers entry).foldl Effect.recount count).toNat =
      count.toNat - [entry].countP readUp := by
  have asked : (Effect.askedToRelease answers entry).foldl Effect.recount count = count := by
    unfold Effect.askedToRelease
    split
    · cases answers.pathOf entry.1 <;> rfl
    · rfl
  unfold Effect.released
  rw [List.foldl_append, List.foldl_append, asked]
  cases shown : entry.2.state with
  | disconnected | disconnecting | connecting =>
      simp [shown, Effect.recount, countAfter, losesAudio, SinkState.isUp, readUp]
  | connected | playing =>
      simpa [shown, Effect.recount, countAfter, losesAudio, SinkState.isUp, SinkState.isDown,
        readUp] using Effect.toNat_countDown count

private theorem toNat_foldl_recount_released (answers : Collaborators)
    (entries : List (Address × Reading)) (count : UInt32) :
    ((entries.flatMap (Effect.released answers)).foldl Effect.recount count).toNat =
      count.toNat - entries.countP readUp := by
  induction entries generalizing count with
  | nil => rfl
  | cons entry rest ih =>
      rw [List.flatMap_cons, List.foldl_append, ih, toNat_recount_released, Nat.sub_sub,
        ← List.countP_append, List.singleton_append]

/-- The count is what the log adds up to from the old count on. -/
theorem activeCount_releaseAll (manager : Manager) (answers : Collaborators) :
    (manager.releaseAll answers).state.activeCount.toNat =
      manager.activeCount.toNat - manager.sinks.entries.countP readUp := by
  have goesOn : ¬ Act.InRelease .recount := fun allowed => allowed
  have tallies : Effect.Tallies (manager.releaseAll answers).effects manager.activeCount
      (manager.releaseAll answers).state.activeCount :=
    Act.Steps.tallies goesOn (releaseAll_byActs manager answers)
  rw [tallies.count, effects_releaseAll, List.foldl_append]
  exact toNat_foldl_recount_released answers _ _

theorem pending_releaseAll (manager : Manager) (answers : Collaborators) :
    (manager.releaseAll answers).state.pending = manager.pending :=
  Act.Steps.pending_of_not_reschedules (fun _ allowed => allowed)
    (releaseAll_byActs manager answers)

/-! ## Off and on again -/

/-- A scan looks at the table alone: the count starts anew and the pending connects have
no part in it. -/
private theorem scanBonded_of_same_sinks {left right : Manager} (same : left.sinks = right.sinks)
    (answers : Collaborators) :
    (left.scanBonded answers).state.sinks = (right.scanBonded answers).state.sinks ∧
      (left.scanBonded answers).state.activeCount =
        (right.scanBonded answers).state.activeCount ∧
      (left.scanBonded answers).effects = (right.scanBonded answers).effects := by
  simp only [sinks_scanBonded, activeCount_scanBonded, effects_scanBonded, same, and_self]

/-- What the adapter turning off comes to. -/
structure ReleaseComesTo (manager : Manager) (answers : Collaborators)
    (outcome : Outcome Manager Unit) : Prop where
  told : outcome.effects =
    manager.sinks.entries.flatMap (Effect.released answers) ++ [.audioEnabled false]
  emptied : outcome.state.sinks = .empty
  counted : outcome.state.activeCount.toNat =
    manager.activeCount.toNat - manager.sinks.entries.countP readUp
  waiting : outcome.state.pending = manager.pending
  /-- A scan that follows finds what it would find with a new manager. -/
  startsAnew : ∀ (later : Collaborators) (setup : Setup),
    (outcome.state.scanBonded later).state.sinks =
        ((new setup).scanBonded later).state.sinks ∧
      (outcome.state.scanBonded later).state.activeCount =
        ((new setup).scanBonded later).state.activeCount ∧
      (outcome.state.scanBonded later).effects = ((new setup).scanBonded later).effects

theorem releaseAll_comesTo (manager : Manager) (answers : Collaborators) :
    manager.ReleaseComesTo answers (manager.releaseAll answers) := by
  constructor
  case told => exact effects_releaseAll manager answers
  case emptied => rfl
  case counted => exact activeCount_releaseAll manager answers
  case waiting => exact pending_releaseAll manager answers
  case startsAnew =>
      intro later setup
      have emptied : (manager.releaseAll answers).state.sinks = (new setup).sinks := rfl
      exact scanBonded_of_same_sinks emptied later

end Manager

end AudioHost
