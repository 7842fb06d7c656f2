import AudioHost.Proofs.Turn
import AudioHost.Simulation.Sample

/-!
# Warnings, changes and the count in lock-step

The journal of any run, direct transitions included, pairs each warning with the change
that it warns of. The count is what the changes since the last scan add up to.
-/

set_option autoImplicit false

namespace AudioHost

/-- A sink leaves the connected states for the disconnected ones. -/
def SinkState.GoesAway (previous current : SinkState) : Prop :=
  (previous = .connected ∨ previous = .playing) ∧
    (current = .disconnected ∨ current = .disconnecting)

instance (previous current : SinkState) : Decidable (previous.GoesAway current) :=
  inferInstanceAs (Decidable (_ ∧ _))

theorem Manager.losesAudio_iff {previous current : SinkState} :
    losesAudio previous current = true ↔ previous.GoesAway current := by
  cases previous <;> cases current <;> decide

/-! ## Pairing -/

namespace Effect

/-- A log in which warnings and the changes that they warn of come in pairs, and in which
no change stands still. -/
inductive Paired : List Effect → Prop where
  | nil : Paired []
  | loss {device : Address} {previous current : SinkState} {rest : List Effect}
      (away : previous.GoesAway current) (others : Paired rest) :
      Paired (.becomingNoisy :: .stateChanged device previous current :: rest)
  | change {device : Address} {previous current : SinkState} {rest : List Effect}
      (moves : previous ≠ current) (remains : ¬ previous.GoesAway current)
      (others : Paired rest) :
      Paired (.stateChanged device previous current :: rest)
  | other {effect : Effect} {rest : List Effect} (noWarning : effect ≠ .becomingNoisy)
      (noChange : ∀ device previous current, effect ≠ .stateChanged device previous current)
      (others : Paired rest) : Paired (effect :: rest)

variable {log more front back : List Effect} {device : Address} {previous current : SinkState}

private theorem Paired.append (first : Paired log) (second : Paired more) :
    Paired (log ++ more) := by
  induction first with
  | nil => exact second
  | loss away _ ih => exact .loss away ih
  | change moves remains _ ih => exact .change moves remains ih
  | other noWarning noChange _ ih => exact .other noWarning noChange ih

private theorem Paired.after_noisy (paired : Paired log)
    (split : log = front ++ .becomingNoisy :: back) :
    ∃ device previous current rest, back = .stateChanged device previous current :: rest ∧
      previous.GoesAway current := by
  induction paired generalizing front with
  | nil => simp at split
  | @loss device previous current rest away _ ih =>
      match front with
      | [] => exact ⟨device, previous, current, rest, (List.cons.inj split).2.symm, away⟩
      | [_] => cases split
      | _ :: _ :: front => exact ih (List.cons.inj (List.cons.inj split).2).2
  | change _ _ _ ih =>
      match front with
      | [] => cases split
      | _ :: front => exact ih (List.cons.inj split).2
  | other noWarning _ _ ih =>
      match front with
      | [] => exact absurd (List.cons.inj split).1 noWarning
      | _ :: front => exact ih (List.cons.inj split).2

private theorem Paired.before_loss (paired : Paired log)
    (split : log = front ++ .stateChanged device previous current :: back)
    (away : previous.GoesAway current) : ∃ earlier, front = earlier ++ [.becomingNoisy] := by
  induction paired generalizing front with
  | nil => simp at split
  | loss _ _ ih =>
      match front with
      | [] => cases split
      | [_] => exact ⟨[], congrArg ([·]) (List.cons.inj split).1.symm⟩
      | first :: second :: front =>
          obtain ⟨earlier, same⟩ := ih (List.cons.inj (List.cons.inj split).2).2
          exact ⟨first :: second :: earlier, by rw [same]; rfl⟩
  | change _ remains _ ih =>
      match front with
      | [] =>
          cases split
          exact absurd away remains
      | first :: front =>
          obtain ⟨earlier, same⟩ := ih (List.cons.inj split).2
          exact ⟨first :: earlier, by rw [same]; rfl⟩
  | other _ noChange _ ih =>
      match front with
      | [] => exact absurd (List.cons.inj split).1 (noChange _ _ _)
      | first :: front =>
          obtain ⟨earlier, same⟩ := ih (List.cons.inj split).2
          exact ⟨first :: earlier, by rw [same]; rfl⟩

private theorem Paired.moves (paired : Paired log)
    (told : .stateChanged device previous current ∈ log) : previous ≠ current := by
  induction paired with
  | nil => cases told
  | loss away _ ih =>
      rcases List.mem_cons.mp told with warning | later
      · cases warning
      · rcases List.mem_cons.mp later with now | after
        · cases now
          rintro rfl
          revert away
          cases previous <;> decide
        · exact ih after
  | change moves _ _ ih =>
      rcases List.mem_cons.mp told with now | later
      · cases now
        exact moves
      · exact ih later
  | other _ noChange _ ih =>
      rcases List.mem_cons.mp told with now | later
      · exact absurd now.symm (noChange _ _ _)
      · exact ih later

/-- What listeners can rely on: a warning is followed at once by the change that it warns
of, such a change never comes without its warning, and no change stands still. -/
structure InLockStep (log : List Effect) : Prop where
  afterNoisy : ∀ front back, log = front ++ .becomingNoisy :: back →
    ∃ device previous current rest, back = .stateChanged device previous current :: rest ∧
      previous.GoesAway current
  beforeLoss : ∀ front device previous current back,
    log = front ++ .stateChanged device previous current :: back →
      previous.GoesAway current → ∃ earlier, front = earlier ++ [.becomingNoisy]
  moves : ∀ device previous current, .stateChanged device previous current ∈ log →
    previous ≠ current

private theorem Paired.inLockStep (paired : Paired log) : InLockStep log where
  afterNoisy _ _ split := paired.after_noisy split
  beforeLoss _ _ _ _ _ split away := paired.before_loss split away
  moves _ _ _ told := paired.moves told

/-! ## Counting -/

/-- The count that a listener keeps, without a bound. -/
def tally (count : Nat) : Effect → Nat
  | .stateChanged _ previous current =>
      if previous.GoesAway current then count - 1
      else if current = .connected then count + 1
      else count
  | _ => count

/-- The count that the manager keeps. -/
def recount (count : UInt32) : Effect → UInt32
  | .stateChanged _ previous current => Manager.countAfter count previous current
  | _ => count

def entersConnected : Effect → Bool
  | .stateChanged _ _ current => decide (current = .connected)
  | _ => false

theorem toNat_countDown (count : UInt32) :
    (if count = 0 then 0 else count - 1 : UInt32).toNat = count.toNat - 1 := by
  split
  · next zero =>
      rw [zero]
      rfl
  · next positive =>
      have one : (1 : UInt32) ≤ count := by
        rw [UInt32.le_iff_toNat_le]
        have : count.toNat ≠ 0 := fun zero => positive (UInt32.toNat_inj.mp zero)
        exact Nat.one_le_iff_ne_zero.mpr this
      rw [UInt32.toNat_sub_of_le _ _ one]
      rfl

theorem toNat_recount {count : UInt32} {effect : Effect}
    (few : count.toNat + [effect].countP entersConnected < UInt32.size) :
    (recount count effect).toNat = tally count.toNat effect := by
  cases effect with
  | stateChanged device previous current =>
      simp only [recount, tally, Manager.countAfter, Manager.losesAudio_iff]
      split
      · exact toNat_countDown count
      · split
        · next enters =>
            subst enters
            rw [UInt32.toNat_add]
            exact Nat.mod_eq_of_lt few
        · rfl
  | connect _ _ _ | disconnect _ _ _ | storePriority _ _ _ | becomingNoisy | audioEnabled _ => rfl

theorem tally_le (count : Nat) (effect : Effect) :
    tally count effect ≤ count + [effect].countP entersConnected := by
  cases effect with
  | stateChanged device previous current =>
      simp only [tally]
      split
      · omega
      · split
        · next enters =>
            subst enters
            exact Nat.le_refl _
        · exact Nat.le_add_right _ _
  | connect _ _ _ | disconnect _ _ _ | storePriority _ _ _ | becomingNoisy | audioEnabled _ =>
      exact Nat.le_add_right _ _

theorem toNat_foldl_recount {count : UInt32}
    (few : count.toNat + log.countP entersConnected < UInt32.size) :
    (log.foldl recount count).toNat = log.foldl tally count.toNat := by
  induction log generalizing count with
  | nil => rfl
  | cons effect rest ih =>
      rw [← List.singleton_append, List.countP_append] at few
      have step : (recount count effect).toNat = tally count.toNat effect :=
        toNat_recount (by omega)
      have bound := tally_le count.toNat effect
      rw [List.foldl_cons, List.foldl_cons, ih (by omega), step]

/-- A log is paired and leads the count of the manager from one value to another. -/
structure Tallies (log : List Effect) (start stop : UInt32) : Prop where
  paired : Paired log
  count : stop = log.foldl recount start

private theorem Tallies.append {start middle stop : UInt32} (first : Tallies log start middle)
    (second : Tallies more middle stop) : Tallies (log ++ more) start stop := by
  obtain ⟨paired, rfl⟩ := first
  obtain ⟨morePaired, rfl⟩ := second
  exact ⟨paired.append morePaired, (List.foldl_append ..).symm⟩

private theorem tallies_announcement {previous current : SinkState} (device : Address)
    (moves : previous ≠ current) (count : UInt32) :
    Tallies (Manager.announcement device previous current) count
      (Manager.countAfter count previous current) := by
  unfold Manager.announcement
  by_cases loses : Manager.losesAudio previous current = true
  · rw [if_pos loses]
    exact ⟨.loss (Manager.losesAudio_iff.mp loses) .nil, rfl⟩
  · rw [if_neg loses]
    have remains : ¬ previous.GoesAway current := fun away =>
      loses (Manager.losesAudio_iff.mpr away)
    exact ⟨.change moves remains .nil, rfl⟩

end Effect

/-! ## Operations -/

namespace Act

variable {answers : Collaborators} {permitted : Act → Prop} {act : Act}
  {before after manager final : Manager} {written journal : List JournalEntry}

private theorem tallies_change (manager : Manager) (shown sinks : SinkTable) (device : Address)
    (previous current : SinkState) :
    Effect.Tallies
      ((Manager.changeJournal shown device previous current).map JournalEntry.effect)
      manager.activeCount (manager.afterChange sinks previous current).activeCount := by
  rw [Manager.map_effect_changeJournal]
  unfold Manager.afterChange
  by_cases still : previous = current
  · simp only [still, if_true]
    exact ⟨.nil, rfl⟩
  · simp only [still, if_false]
    exact Effect.tallies_announcement device still manager.activeCount

theorem Step.tallies (step : Step answers act before written after) (goesOn : act ≠ .recount) :
    Effect.Tallies (written.map JournalEntry.effect) before.activeCount after.activeCount := by
  cases step with
  | connect _ _ _ | disconnect _ _ | storePriority | tellAudio =>
      exact ⟨.other (by simp) (by simp) .nil, rfl⟩
  | enroll _ _ | overwrite _ | report _ => exact tallies_change _ _ _ _ _ _
  | forget _ | reschedule => exact ⟨.nil, rfl⟩
  | recount => exact absurd rfl goesOn

theorem Steps.tallies (goesOn : ¬ permitted .recount)
    (steps : Steps answers permitted manager journal final) :
    Effect.Tallies (journal.map JournalEntry.effect) manager.activeCount final.activeCount := by
  induction steps with
  | none => exact ⟨.nil, rfl⟩
  | next allowed step _ ih =>
      rw [List.map_append]
      exact (step.tallies fun same => goesOn (same ▸ allowed)).append ih

end Act

/-- The operations that start the count anew. -/
def Operation.scans : Operation → Bool
  | .scanBonded | .event (.adapterChanged .on) _ => true
  | _ => false

namespace Manager

theorem commit_tallies (manager : Manager) (device : Address) (previous : Reading)
    (current : SinkState) :
    Effect.Tallies (manager.commit device previous current).effects manager.activeCount
      (manager.commit device previous current).state.activeCount := by
  unfold commit
  by_cases unchanged : previous = .known current
  · rw [if_pos unchanged]
    exact ⟨.nil, rfl⟩
  · rw [if_neg unchanged]
    unfold enter?
    cases taken : manager.sinks.insert? device (.known current) with
    | none => exact ⟨.nil, rfl⟩
    | some sinks =>
        by_cases sameState : previous.state = current
        · simp only [Option.map_some, if_pos sameState]
          exact ⟨.nil, rfl⟩
        · simp only [Option.map_some, if_neg sameState]
          rw [Outcome.effects_map, effects_announce]
          exact Effect.tallies_announcement device sameState manager.activeCount

theorem scanBonded_tallies (manager : Manager) (answers : Collaborators) :
    Effect.Tallies (manager.scanBonded answers).effects 0
      (manager.scanBonded answers).state.activeCount := by
  have scanned := forEach_trackBonded_byActs { manager with activeCount := 0 } answers
  unfold scanBonded
  rw [Outcome.effects_andThen]
  exact (scanned.tallies fun both => both.2 rfl).append ⟨.other (by simp) (by simp) .nil, rfl⟩

/-- Every operation keeps journal and count in step; a scan does so from zero. -/
theorem perform_tallies (manager : Manager) (answers : Collaborators) (operation : Operation) :
    Effect.Tallies (manager.perform answers operation).effects
      (if operation.scans then 0 else manager.activeCount)
      (manager.perform answers operation).state.activeCount := by
  cases operation with
  | event event now =>
      have acts := applyEvent_byActs manager answers now event
      cases event with
      | adapterChanged state =>
          cases state with
          | on => exact scanBonded_tallies manager answers
          | turningOff | off | turningOn => exact acts.tallies fun allowed => allowed
      | bondChanged _ _ | remoteConnected _ | propertyChanged _ _ =>
          exact acts.tallies fun allowed => allowed
  | request request =>
      have acts := serve_byActs manager answers request
      refine acts.tallies fun allowed => ?_
      cases request <;> cases allowed
  | fireDue now =>
      refine (fireDue_byActs manager answers now).tallies ?_
      rintro (drained | connecting)
      · cases drained
      · cases connecting
  | scanBonded => exact scanBonded_tallies manager answers
  | releaseAll => exact (releaseAll_byActs manager answers).tallies fun allowed => allowed
  | bondChanged address state =>
      exact (storePriority_byActs manager answers address _).tallies fun allowed => allowed
  | remoteConnected device now =>
      exact (remoteConnected_byActs manager answers device now).tallies fun allowed => allowed
  | connect device =>
      have acts : (manager.connect answers device).ByActs answers
          (Act.InConnecting answers (· = device)) manager := connect_byActs manager rfl
      exact acts.tallies fun allowed => allowed
  | disconnect device =>
      exact (disconnect_byActs manager answers device).tallies fun allowed => allowed
  | storePriority address priority =>
      exact (storePriority_byActs manager answers address priority).tallies fun allowed => allowed
  | propertyChanged path property =>
      exact (propertyChanged_byActs manager answers path property).tallies fun allowed => allowed
  | commit device previous current => exact commit_tallies manager device previous current

/-! ## Runs -/

/-- What was heard after some turns: a scan starts anew, every other turn goes on. -/
def sinceScan (heard : List Effect) (turns : List Turn) : List Effect :=
  turns.foldl
    (fun heard turn => (if turn.operation.scans then [] else heard) ++ turn.outcome.effects)
    heard

theorem run_paired (manager : Manager) (steps : List (Collaborators × Operation)) :
    Effect.Paired (manager.run steps).effects := by
  induction steps generalizing manager with
  | nil => exact .nil
  | cons step rest ih =>
      obtain ⟨answers, operation⟩ := step
      rw [effects_run_cons]
      exact (perform_tallies manager answers operation).paired.append (ih _)

theorem activeCount_run {manager : Manager} {heard : List Effect}
    (known : manager.activeCount = heard.foldl Effect.recount 0)
    (steps : List (Collaborators × Operation)) :
    (manager.run steps).state.activeCount =
      (sinceScan heard (manager.turns steps)).foldl Effect.recount 0 := by
  induction steps generalizing manager heard with
  | nil => exact known
  | cons step rest ih =>
      -- What was heard grows by this turn, or is this turn's log alone after a scan.
      obtain ⟨answers, operation⟩ := step
      apply ih
      rw [List.foldl_append, (perform_tallies manager answers operation).count]
      congr 1
      show (if operation.scans then _ else _) = List.foldl _ _ (if operation.scans then _ else _)
      split
      · rfl
      · exact known

/-- From a new manager on, and whatever is done to it, the log pairs warnings with losses,
and the count is what the changes since the last scan add up to. -/
theorem run_in_lockStep (setup : Setup) (steps : List (Collaborators × Operation)) :
    Effect.InLockStep ((Manager.new setup).run steps).effects ∧
      ((sinceScan [] ((Manager.new setup).turns steps)).countP Effect.entersConnected <
          UInt32.size →
        ((Manager.new setup).run steps).state.activeCount.toNat =
          (sinceScan [] ((Manager.new setup).turns steps)).foldl Effect.tally 0) := by
  refine ⟨(run_paired _ steps).inLockStep, fun few => ?_⟩
  have start : (Manager.new setup).activeCount = List.foldl Effect.recount 0 [] := rfl
  rw [activeCount_run start steps]
  apply Effect.toNat_foldl_recount
  rw [show (0 : UInt32).toNat = 0 from rfl, Nat.zero_add]
  exact few

section Sample

open Simulation

/-- A sink is connected before and during a scan, plays, a second one is said to be
connected, and the first one reports a text that names no state. -/
def countedAnew : List (Collaborators × Operation) :=
  [(oneSink "connected", .request (.connect (sampleAddress 1))),
    (oneSink "connected", .scanBonded),
    (oneSink "playing", .event reportPlaying .zero),
    (oneSink "playing", .commit (sampleAddress 2) .invalid .connected),
    (oneSink "sleeping", .event reportNonsense .zero)]

theorem run_in_lockStep_of_countedAnew :
    Effect.InLockStep ((Manager.new {}).run countedAnew).effects ∧
    (sinceScan [] ((Manager.new {}).turns countedAnew)).countP Effect.entersConnected = 2 ∧
    ((Manager.new {}).run countedAnew).state.activeCount.toNat =
      (sinceScan [] ((Manager.new {}).turns countedAnew)).foldl Effect.tally 0 ∧
    ((Manager.new {}).run countedAnew).state.activeCount = 1 := by
  obtain ⟨lockStep, counts⟩ := run_in_lockStep {} countedAnew
  exact ⟨lockStep, by decide, counts (by decide), by decide⟩

end Sample

end Manager

end AudioHost
