import AudioHost.Proofs.Turn
import AudioHost.Simulation.Sample

/-!
# Replay of the notifications

The state changes that are announced for a device form a chain, and the chain leads
from the state before a run to the state after it. Only a scan of the bonded devices
may break it. So whoever listens from the start knows every state that the table shows.
-/

set_option autoImplicit false

namespace AudioHost

/-! ## Chains of announced changes -/

/-- The change of one device that an effect announces. -/
def Effect.changeOf? (device : Address) : Effect → Option (SinkState × SinkState)
  | .stateChanged changed previous current =>
      if changed = device then some (previous, current) else none
  | _ => none

def JournalEntry.changesOf (device : Address) (journal : List JournalEntry) :
    List (SinkState × SinkState) :=
  journal.filterMap fun entry => entry.effect.changeOf? device

def Effect.hear (device : Address) (known : SinkState) (effect : Effect) : SinkState :=
  match effect.changeOf? device with
  | some (_, current) => current
  | none => known

/-- Changes lead from one state to another: each starts where the one before it ended,
and none of them stands still. -/
def SinkState.Leads : SinkState → List (SinkState × SinkState) → SinkState → Prop
  | start, [], final => start = final
  | start, (previous, current) :: rest, final =>
      previous = start ∧ previous ≠ current ∧ Leads current rest final

namespace SinkState

private theorem Leads.append {start middle final : SinkState}
    {changes more : List (SinkState × SinkState)} (first : start.Leads changes middle)
    (second : middle.Leads more final) : start.Leads (changes ++ more) final := by
  induction changes generalizing start with
  | nil =>
      cases first
      exact second
  | cons change rest ih =>
      obtain ⟨previous, current⟩ := change
      obtain ⟨starts, moves, leads⟩ := first
      exact ⟨starts, moves, ih leads⟩

end SinkState

namespace JournalEntry

@[simp] theorem changesOf_nil (device : Address) : changesOf device [] = [] := rfl

private theorem changesOf_append (device : Address) (front back : List JournalEntry) :
    changesOf device (front ++ back) = changesOf device front ++ changesOf device back :=
  List.filterMap_append

private theorem changesOf_changeJournal (table : SinkTable) (changed device : Address)
    (previous current : SinkState) :
    changesOf device (Manager.changeJournal table changed previous current) =
      if changed = device ∧ previous ≠ current then [(previous, current)] else [] := by
  unfold Manager.changeJournal Manager.announcement
  by_cases still : previous = current
  · simp [still]
  · by_cases loses : Manager.losesAudio previous current = true <;>
      by_cases same : changed = device <;>
        simp [still, loses, same, changesOf, Effect.changeOf?]

/-- Whoever hears the changes ends up where they lead. -/
private theorem foldl_hear {device : Address} {start final : SinkState}
    {journal : List JournalEntry} (leads : start.Leads (changesOf device journal) final) :
    (journal.map JournalEntry.effect).foldl (Effect.hear device) start = final := by
  induction journal generalizing start with
  | nil => exact leads
  | cons entry rest ih =>
      rw [List.map_cons, List.foldl_cons]
      apply ih
      unfold Effect.hear
      cases heard : entry.effect.changeOf? device with
      | none => simpa [changesOf, heard] using leads
      | some change =>
          obtain ⟨previous, current⟩ := change
          simp only [changesOf, List.filterMap_cons, heard] at leads
          exact leads.2.2

end JournalEntry

/-! ## Acts -/

namespace Act

open JournalEntry

variable {answers : Collaborators} {permitted : Act → Prop} {manager final : Manager}
  {journal : List JournalEntry}

/-- A single change is announced just if there is one. -/
private theorem leads_changeJournal {before after : SinkState} {table : SinkTable}
    {changed device : Address} {previous current : SinkState}
    (start : changed = device → before = previous)
    (stop : after = if device = changed then current else before) :
    before.Leads (changesOf device (Manager.changeJournal table changed previous current))
      after := by
  rw [changesOf_changeJournal]
  by_cases same : changed = device
  · rw [if_pos same.symm] at stop
    by_cases still : previous = current
    · rw [if_neg fun both => both.2 still]
      exact (start same).trans (still.trans stop.symm)
    · rw [if_pos ⟨same, still⟩]
      exact ⟨(start same).symm, still, stop.symm⟩
  · rw [if_neg fun both => same both.1]
    rw [if_neg (Ne.symm same)] at stop
    exact stop.symm

/-- Every act but overwriting announces the change that it makes. -/
theorem Step.leads {act : Act} (step : Step answers act manager journal final)
    (keeps : ∀ device reading, act ≠ .overwrite device reading) (device : Address) :
    (manager.stateOf device).Leads (changesOf device journal) (final.stateOf device) := by
  cases step with
  | connect _ _ _ | disconnect _ _ | storePriority | tellAudio | recount | reschedule => rfl
  | enroll untracked taken =>
      apply leads_changeJournal
      · intro same
        subst same
        exact SinkTable.stateOf_of_untracked untracked
      · exact SinkTable.stateOf_of_insert? taken device
  | overwrite _ => exact absurd rfl (keeps _ _)
  | report tracked =>
      apply leads_changeJournal
      · intro same
        subst same
        exact SinkTable.stateOf_of_get? tracked
      · exact SinkTable.stateOf_replace (BoundedMap.mem_keys_of_get? tracked) device _
  | forget idle => exact SinkTable.isBusy_eq_false_iff.mp idle device

theorem Steps.leads (keeps : ∀ device reading, ¬ permitted (.overwrite device reading))
    (steps : Steps answers permitted manager journal final) (device : Address) :
    (manager.stateOf device).Leads (changesOf device journal) (final.stateOf device) := by
  induction steps with
  | none => rfl
  | next allowed step _ ih =>
      rw [changesOf_append]
      refine SinkState.Leads.append (step.leads ?_ device) ih
      intro other reading same
      subst same
      exact keeps other reading allowed

end Act

/-! ## Runs -/

/-- Only a scan of the bonded devices overwrites what the table says. -/
private theorem Operation.not_permits_overwrite {operation : Operation}
    (noScan : ∀ now, operation ≠ .event (.adapterChanged .on) now) (manager : Manager)
    (answers : Collaborators) (device : Address) (reading : Reading) :
    ¬ operation.Permits manager answers (.overwrite device reading) := by
  intro allowed
  unfold Permits at allowed
  split at allowed
  case h_1 now => exact noScan now rfl
  case h_9 =>
      rcases allowed with drained | connecting
      · cases drained
      · cases connecting
  all_goals cases allowed

namespace Manager

open JournalEntry

theorem perform_leads {operation : Operation} (routed : operation.isRouted = true)
    (noScan : ∀ now, operation ≠ .event (.adapterChanged .on) now) (manager : Manager)
    (answers : Collaborators) (device : Address) :
    (manager.stateOf device).Leads
      (changesOf device (manager.perform answers operation).journal)
      ((manager.perform answers operation).state.stateOf device) :=
  (perform_byActs routed manager answers).leads
    (operation.not_permits_overwrite noScan manager answers) device

/-- Without a scan, the announced changes of a device lead from the state before a run
to the state after it, and a listener who knew the first knows the second. -/
theorem run_replays {steps : List (Collaborators × Operation)}
    (ordinary : ∀ step ∈ steps, step.2.isRouted = true ∧
      ∀ now, step.2 ≠ .event (.adapterChanged .on) now)
    (manager : Manager) (device : Address) :
    (manager.stateOf device).Leads (changesOf device (manager.run steps).journal)
        ((manager.run steps).state.stateOf device) ∧
      (manager.run steps).effects.foldl (Effect.hear device) (manager.stateOf device) =
        (manager.run steps).state.stateOf device := by
  have leads : (manager.stateOf device).Leads (changesOf device (manager.run steps).journal)
      ((manager.run steps).state.stateOf device) := by
    induction steps generalizing manager with
    | nil => rfl
    | cons step rest ih =>
        obtain ⟨routed, noScan⟩ := ordinary step List.mem_cons_self
        show SinkState.Leads _ (changesOf device (_ ++ _)) _
        rw [changesOf_append]
        refine (perform_leads routed noScan manager step.1 device).append ?_
        exact ih (fun other member => ordinary other (List.mem_cons_of_mem step member)) _
  exact ⟨leads, foldl_hear leads⟩

section Sample

open Simulation

/-- A sink is found connected, reports a text that names no state, plays, and is let go
of when the adapter turns off. -/
def foundAndLost : List (Collaborators × Operation) :=
  [(oneSink "connected", .request (.connect (sampleAddress 1))),
    (oneSink "connected", .event reportNonsense .zero),
    (oneSink "connected", .event reportPlaying .zero),
    (oneSink "connected", .event (.adapterChanged .turningOff) .zero)]

theorem run_replays_of_sample :
    (∀ step ∈ foundAndLost, step.2.isRouted = true ∧
      ∀ now, step.2 ≠ .event (.adapterChanged .on) now) ∧
    changesOf (sampleAddress 1) ((Manager.new {}).run foundAndLost).journal =
      [(.disconnected, .connected), (.connected, .disconnected), (.disconnected, .playing),
        (.playing, .disconnected)] ∧
    ((Manager.new {}).stateOf (sampleAddress 1)).Leads
      (changesOf (sampleAddress 1) ((Manager.new {}).run foundAndLost).journal)
      (((Manager.new {}).run foundAndLost).state.stateOf (sampleAddress 1)) ∧
    ((Manager.new {}).run foundAndLost).effects.foldl (Effect.hear (sampleAddress 1))
        ((Manager.new {}).stateOf (sampleAddress 1)) =
      ((Manager.new {}).run foundAndLost).state.stateOf (sampleAddress 1) := by
  have ordinary : ∀ step ∈ foundAndLost, step.2.isRouted = true ∧
      ∀ now, step.2 ≠ .event (.adapterChanged .on) now := by
    simp [foundAndLost, Operation.isRouted, reportNonsense, reportPlaying, sampleReport]
  exact ⟨ordinary, by decide, run_replays ordinary (Manager.new {}) (sampleAddress 1)⟩

end Sample

end Manager

end AudioHost
