import AudioHost.Proofs.Anatomy
import AudioHost.Simulation.Sample

/-!
# What operations leave alone

The table follows what is heard of the devices, and every other operation leaves it as it
was. The order of the entries outlives everything but the adapter turning off, and the
pending automatic connects change only with triggers and batches.
-/

set_option autoImplicit false

namespace AudioHost

/-! ## Acts -/

namespace Act

variable {answers : Collaborators} {permitted : Act → Prop} {act : Act}
  {before after manager final : Manager} {written journal : List JournalEntry}

private theorem Step.keys_append (step : Step answers act before written after)
    (remains : act ≠ .forget) :
    ∃ added, after.sinks.keys = before.sinks.keys ++ added ∧
      ∀ device ∈ added, ∃ reading, act = .enroll device reading := by
  cases step with
  | connect _ _ _ | disconnect _ _ | storePriority | tellAudio | recount | reschedule =>
      exact ⟨[], (List.append_nil _).symm, by simp⟩
  | @enroll _ sinks device reading untracked taken =>
      refine ⟨[device], ?_, by simp⟩
      rw [Manager.sinks_afterChange, BoundedMap.keys_of_insert?_eq_some taken,
        if_neg (BoundedMap.get?_eq_none_iff.mp untracked)]
  | overwrite _ | report _ => exact ⟨[], by simp, by simp⟩
  | forget _ => exact absurd rfl remains

theorem Steps.keys_append (remains : ¬ permitted .forget)
    (steps : Steps answers permitted manager journal final) :
    ∃ added, final.sinks.keys = manager.sinks.keys ++ added ∧
      ∀ device ∈ added, ∃ reading, permitted (.enroll device reading) := by
  induction steps with
  | none => exact ⟨[], (List.append_nil _).symm, by simp⟩
  | next allowed step _ ih =>
      have kept : _ ≠ Act.forget := fun same => remains (same ▸ allowed)
      obtain ⟨first, firstKeys, enrolled⟩ := step.keys_append kept
      obtain ⟨others, otherKeys, othersEnrolled⟩ := ih
      refine ⟨first ++ others, ?_, ?_⟩
      · rw [otherKeys, firstKeys, List.append_assoc]
      · intro device member
        rcases List.mem_append.mp member with now | later
        · obtain ⟨reading, rfl⟩ := enrolled device now
          exact ⟨reading, allowed⟩
        · exact othersEnrolled device later

theorem Steps.get?_of_not_rewrites {device : Address} {reading : Reading}
    (spared : ∀ act, permitted act → ¬ act.Rewrites device)
    (steps : Steps answers permitted manager journal final)
    (tracked : manager.sinks.get? device = some reading) :
    final.sinks.get? device = some reading := by
  have kept : ∀ {act before written after}, permitted act →
      Step answers act before written after → before.sinks.get? device = some reading →
      after.sinks.get? device = some reading :=
    fun allowed step => step.get?_of_not_rewrites (spared _ allowed)
  exact steps.invariant kept tracked

/-- An act that may change the table. -/
def Writes : Act → Prop
  | enroll _ _ | overwrite _ _ | report _ _ | forget => True
  | _ => False

theorem Steps.sinks_of_not_writes (spared : ∀ act, permitted act → ¬ act.Writes)
    (steps : Steps answers permitted manager journal final) :
    final.sinks = manager.sinks := by
  induction steps with
  | none => rfl
  | next allowed step _ ih =>
      rw [ih]
      cases step with
      | enroll _ _ | overwrite _ | report _ | forget _ =>
          exact absurd trivial (spared _ allowed)
      | connect _ _ _ | disconnect _ _ | storePriority | tellAudio | recount | reschedule => rfl

theorem Steps.pending_of_not_reschedules (spared : ∀ pending, ¬ permitted (.reschedule pending))
    (steps : Steps answers permitted manager journal final) :
    final.pending = manager.pending := by
  induction steps with
  | none => rfl
  | next allowed step _ ih =>
      rw [ih]
      cases step with
      | reschedule => exact absurd allowed (spared _)
      | _ => rfl

end Act

/-! ## Operations -/

namespace Operation

/-- The operations that may replace the reading of a tracked device. -/
def Rewrites (answers : Collaborators) (device : Address) : Operation → Prop
  | .event (.adapterChanged .on) _ | .event (.adapterChanged .turningOff) _ => True
  | .event (.propertyChanged path property) _ =>
      answers.adapterEnabled = true ∧ property.tellsState = true ∧
        answers.deviceAt path.text = some device
  | _ => False

/-- The operations that may add a device to the table. -/
def Adds (manager : Manager) (answers : Collaborators) (device : Address) : Operation → Prop
  | .event (.adapterChanged .on) _ =>
      ∃ path ∈ answers.bondedPaths, answers.deviceAt path.text = some device
  | .event (.propertyChanged path property) _ =>
      answers.adapterEnabled = true ∧ property.tellsState = true ∧
        answers.deviceAt path.text = some device
  | .request (.connect asked) => device = asked
  | .fireDue now => device ∈ manager.pending.due now
  | _ => False

/-- The operations that may change the table at all. -/
def Writes (answers : Collaborators) : Operation → Prop
  | .event (.adapterChanged .on) _ | .event (.adapterChanged .turningOff) _ => True
  | .event (.propertyChanged path property) _ =>
      answers.adapterEnabled = true ∧ property.tellsState = true ∧
        ∃ device, answers.deviceAt path.text = some device
  | .request (.connect _) | .fireDue _ => True
  | _ => False

/-- The operations that may set, move or use up a deadline. -/
def Reschedules : Operation → Prop
  | .event (.remoteConnected _) _ | .fireDue _ => True
  | _ => False

variable {operation : Operation} {manager : Manager} {answers : Collaborators}
  {device : Address} {act : Act}

private theorem rewrites_of_permits (allowed : operation.Permits manager answers act)
    (rewrites : act.Rewrites device) : operation.Rewrites answers device := by
  unfold Permits at allowed
  split at allowed
  case h_1 | h_2 => trivial
  case h_5 path property now =>
      cases act with
      | report reported _ =>
          obtain rfl : reported = device := rewrites
          exact ⟨allowed.1, allowed.2.1, allowed.2.2.1⟩
      | forget | overwrite _ _ => cases allowed
      | _ => cases rewrites
  case h_9 now =>
      rcases allowed with rfl | connecting
      · cases rewrites
      · cases act with
        | forget | overwrite _ _ | report _ _ => cases connecting
        | _ => cases rewrites
  all_goals
    cases act with
    | forget | overwrite _ _ | report _ _ => cases allowed
    | _ => cases rewrites

private theorem adds_of_permits {reading : Reading}
    (allowed : operation.Permits manager answers (.enroll device reading)) :
    operation.Adds manager answers device := by
  unfold Permits at allowed
  split at allowed
  case h_1 => exact allowed.2
  case h_5 => exact ⟨allowed.1, allowed.2.1, allowed.2.2.1⟩
  case h_6 => exact allowed.1
  case h_9 =>
      rcases allowed with drained | ⟨⟨due, _⟩, _⟩
      · cases drained
      · exact due
  all_goals cases allowed

private theorem of_permits_forget (allowed : operation.Permits manager answers .forget) :
    ∃ now, operation = .event (.adapterChanged .turningOff) now := by
  unfold Permits at allowed
  split at allowed
  case h_2 now => exact ⟨now, rfl⟩
  case h_9 =>
      rcases allowed with drained | connecting
      · cases drained
      · cases connecting
  all_goals cases allowed

private theorem writes_of_permits (allowed : operation.Permits manager answers act)
    (writes : act.Writes) : operation.Writes answers := by
  cases act with
  | enroll device reading =>
      have adds := adds_of_permits allowed
      unfold Adds at adds
      split at adds
      case h_2 => exact ⟨adds.1, adds.2.1, device, adds.2.2⟩
      case h_5 => cases adds
      all_goals trivial
  | overwrite device reading | report device reading =>
      have rewrites : operation.Rewrites answers device := rewrites_of_permits allowed rfl
      unfold Rewrites at rewrites
      split at rewrites
      case h_3 => exact ⟨rewrites.1, rewrites.2.1, device, rewrites.2.2⟩
      case h_4 => cases rewrites
      all_goals trivial
  | forget =>
      obtain ⟨now, rfl⟩ := of_permits_forget allowed
      trivial
  | _ => cases writes

theorem reschedules_of_permits {pending : PendingConnects}
    (allowed : operation.Permits manager answers (.reschedule pending)) :
    operation.Reschedules := by
  unfold Permits at allowed
  split at allowed
  case h_4 | h_9 => trivial
  all_goals cases allowed

/-- What an operation of the workers may do to the table and to the pending automatic
connects. -/
structure Frames (operation : Operation) (answers : Collaborators)
    (before after : Manager) : Prop where
  rewritten : ∀ device reading, before.sinks.get? device = some reading →
    after.sinks.get? device ≠ some reading → operation.Rewrites answers device
  ordered : (∀ now, operation ≠ .event (.adapterChanged .turningOff) now) →
    ∃ added, after.sinks.keys = before.sinks.keys ++ added ∧
      ∀ device ∈ added, operation.Adds before answers device
  emptied : ∀ now, operation = .event (.adapterChanged .turningOff) now →
    after.sinks = .empty
  written : after.sinks ≠ before.sinks → operation.Writes answers
  rescheduled : after.pending ≠ before.pending → operation.Reschedules

end Operation

namespace Manager

theorem get?_perform_of_not_rewrites {operation : Operation} {manager : Manager}
    {answers : Collaborators} {device : Address} {reading : Reading}
    (routed : operation.isRouted = true) (spared : ¬ operation.Rewrites answers device)
    (tracked : manager.sinks.get? device = some reading) :
    (manager.perform answers operation).state.sinks.get? device = some reading := by
  have acts := perform_byActs routed manager answers
  refine acts.get?_of_not_rewrites (fun act allowed rewrites => ?_) tracked
  exact spared (Operation.rewrites_of_permits allowed rewrites)

/-- Whatever the collaborators answer, and whether an operation succeeds or not, the
table changes only as far as the operation says, and so do the pending automatic connects. -/
theorem perform_frames {operation : Operation} (routed : operation.isRouted = true)
    (manager : Manager) (answers : Collaborators) :
    operation.Frames answers manager (manager.perform answers operation).state := by
  have acts := perform_byActs routed manager answers
  constructor
  · intro device reading tracked changed
    refine Classical.byContradiction fun spared => changed ?_
    exact get?_perform_of_not_rewrites routed spared tracked
  · intro remains
    have kept : ¬ operation.Permits manager answers .forget := fun allowed => by
      obtain ⟨now, off⟩ := Operation.of_permits_forget allowed
      exact remains now off
    obtain ⟨added, keys, enrolled⟩ := acts.keys_append kept
    refine ⟨added, keys, fun device member => ?_⟩
    obtain ⟨reading, allowed⟩ := enrolled device member
    exact Operation.adds_of_permits allowed
  · rintro now rfl
    rfl
  · intro changed
    refine Classical.byContradiction fun spared => changed ?_
    apply acts.sinks_of_not_writes
    intro act allowed writes
    exact spared (Operation.writes_of_permits allowed writes)
  · intro changed
    refine Classical.byContradiction fun spared => changed ?_
    apply acts.pending_of_not_reschedules
    intro pending allowed
    exact spared (Operation.reschedules_of_permits allowed)

section Sample

open Simulation

/-- A request to connect a sink that turns out to be connected already is refused, and
yet the sink is tracked from then on. -/
theorem perform_frames_of_refused :
    (Operation.request (.connect (sampleAddress 1))).isRouted = true ∧
    (Operation.request (.connect (sampleAddress 1))).Frames (oneSink "connected")
      (Manager.new {})
      ((Manager.new {}).perform (oneSink "connected")
        (.request (.connect (sampleAddress 1)))).state ∧
    ((Manager.new {}).perform (oneSink "connected")
      (.request (.connect (sampleAddress 1)))).state.sinks.entries =
        [(sampleAddress 1, .known .connected)] :=
  ⟨rfl, perform_frames rfl (Manager.new {}) (oneSink "connected"), by decide⟩

end Sample

end Manager

end AudioHost
