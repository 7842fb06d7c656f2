import AudioHost.Priority.Keeper
import AudioHost.Priority.Lemmas
import AudioHost.Proofs.Anatomy
import AudioHost.Simulation.Sample

/-!
# The last write wins

The priority of a device is the one of the last write to it that the store accepted. Only
two messages write: a change of bonding and the request to store a priority. A write that
comes to nothing changes nothing at all, and one that is accepted changes nothing but the
priority of its device.
-/

set_option autoImplicit false

namespace AudioHost

/-- The text and the priority that a message of the workers wants to be stored. -/
def Operation.write? : Operation → Option (String × Priority)
  | .event (.bondChanged address .bonded) _ => some (address.text, .auto)
  | .event (.bondChanged address .bonding) _ | .event (.bondChanged address .none) _ =>
      some (address.text, .off)
  | .request (.storePriority address priority) => some (address.text, priority)
  | _ => none

/-- What is heard of a write: a request is told the verdict, an event nothing of it. -/
def Operation.replyToWrite (operation : Operation) (verdict : Except Refusal Unit) : Reply :=
  match operation with
  | .request _ => .response (Manager.responseOf verdict)
  | _ => .scheduled false

/-! ## What the store hears of -/

namespace Act

open Manager

variable {answers : Collaborators} {act : Act} {before after : Manager}
  {written : List JournalEntry} {entry : JournalEntry} {device : Address} {priority : Priority}
  {accepted : Bool}

private theorem Step.of_storePriority (step : Step answers act before written after)
    (member : entry ∈ written) (stored : entry.effect = .storePriority device priority accepted) :
    act = .storePriority device priority := by
  cases step with
  | storePriority =>
      rw [List.mem_singleton] at member
      subst member
      cases stored
      rfl
  | connect _ _ _ | disconnect _ _ | tellAudio =>
      rw [List.mem_singleton] at member
      subst member
      cases stored
  | enroll _ _ | overwrite _ | report _ =>
      obtain ⟨_, _, ⟨noisy, _⟩ | told⟩ := mem_changeJournal member
      · cases noisy.symm.trans stored
      · cases told.symm.trans stored
  | forget _ | recount | reschedule => cases member

end Act

private theorem Operation.write?_of_permits {manager : Manager} {answers : Collaborators}
    {operation : Operation} {device : Address} {priority : Priority}
    (allowed : operation.Permits manager answers (.storePriority device priority)) :
    operation.write? ≠ none := by
  unfold Permits at allowed
  split at allowed
  case h_3 address state now => cases state <;> exact Option.some_ne_none _
  case h_8 => exact Option.some_ne_none _
  case h_9 =>
      obtain drained | connecting := allowed
      · cases drained
      · cases connecting
  all_goals cases allowed

namespace Keeper

variable {keeper : Keeper} {device : Address} {priority : Priority}

private theorem store_foldl_absorb {effects : List Effect}
    (unrelated : ∀ device priority accepted, .storePriority device priority accepted ∉ effects) :
    (effects.foldl World.absorb keeper).store = keeper.store := by
  induction effects generalizing keeper with
  | nil => rfl
  | cons effect rest ih =>
      have others : ∀ device priority accepted,
          Effect.storePriority device priority accepted ∉ rest := by
        intro device priority accepted member
        exact unrelated device priority accepted (List.mem_cons_of_mem effect member)
      rw [List.foldl_cons, ih others]
      cases effect with
      | storePriority device priority accepted =>
          exact absurd List.mem_cons_self (unrelated device priority accepted)
      | _ => rfl

private theorem get?_absorb_of_accepts (accepts : keeper.accepts device priority = true)
    (other : Address) :
    (keeper.absorb (.storePriority device priority true)).store.get? other =
      if other = device then some priority else keeper.store.get? other := by
  obtain ⟨_, room⟩ := Bool.and_eq_true_iff.mp accepts
  obtain ⟨kept, taken⟩ := Option.isSome_iff_exists.mp room
  simp only [absorb, taken, Option.getD_some]
  exact PriorityStore.get?_of_set?_eq_some taken other

end Keeper

/-! ## Turns -/

/-- An operation and the deployment that it finds. -/
structure StoreTurn where
  deployment : Deployment Manager Keeper
  operation : Operation

namespace StoreTurn

def outcome (turn : StoreTurn) : Outcome (Deployment Manager Keeper) Reply :=
  turn.deployment.perform turn.operation

/-- The priority that the store keeps for a device because of the turn. -/
def kept? (turn : StoreTurn) (device : Address) : Option Priority :=
  match turn.operation.write? with
  | some (text, priority) =>
      if Text.AgreeUpToCase text device.toText ∧
          turn.deployment.world.accepts device priority = true then
        some priority
      else none
  | none => none

/-- What comes of a turn, as far as priorities are concerned. -/
inductive ComesTo (turn : StoreTurn) : Prop where
  | unrelated (noWrite : turn.operation.write? = none)
      (same : turn.outcome.state.world.store = turn.deployment.world.store)
  | malformed {text : String} {priority : Priority}
      (writes : turn.operation.write? = some (text, priority))
      (nobody : ∀ device : Address, ¬ Text.AgreeUpToCase text device.toText)
      (ignored : turn.outcome =
        { result := turn.operation.replyToWrite (.error .invalidAddress)
          state := turn.deployment
          journal := [] })
  | rejected {text : String} {priority : Priority} {device : Address}
      (writes : turn.operation.write? = some (text, priority))
      (agrees : Text.AgreeUpToCase text device.toText)
      (rejects : turn.deployment.world.accepts device priority = false)
      (ignored : turn.outcome =
        { result := turn.operation.replyToWrite (.error .storeFailed)
          state := turn.deployment
          journal := [⟨.storePriority device priority false, turn.deployment.system.sinks⟩] })
  | accepted {text : String} {priority : Priority} {device : Address}
      (writes : turn.operation.write? = some (text, priority))
      (agrees : Text.AgreeUpToCase text device.toText)
      (accepts : turn.deployment.world.accepts device priority = true)
      (told : turn.outcome.result = turn.operation.replyToWrite (.ok ()))
      (untouched : turn.outcome.state.system = turn.deployment.system)
      (only : turn.outcome.journal =
        [⟨.storePriority device priority true, turn.deployment.system.sinks⟩])
      (stored : ∀ other, turn.outcome.state.world.store.get? other =
        if other = device then some priority else turn.deployment.world.store.get? other)

variable {turn : StoreTurn} {text : String} {priority : Priority} {device : Address}

private theorem store_outcome_of_no_write (routed : turn.operation.isRouted = true)
    (noWrite : turn.operation.write? = none) :
    turn.outcome.state.world.store = turn.deployment.world.store := by
  have acts := Manager.perform_byActs routed turn.deployment.system turn.deployment.world.answers
  apply Keeper.store_foldl_absorb
  intro device priority accepted member
  obtain ⟨entry, listed, stored⟩ := List.mem_map.mp member
  obtain ⟨act, before, written, after, allowed, step, entryWritten⟩ := acts.exists_step listed
  rw [step.of_storePriority entryWritten stored] at allowed
  exact Operation.write?_of_permits allowed noWrite

/-- Both doors lead to the same place. -/
private theorem outcome_of_write (writes : turn.operation.write? = some (text, priority)) :
    turn.outcome = turn.deployment.takeIn
      ((turn.deployment.system.storePriority turn.deployment.world.answers text priority).map
        turn.operation.replyToWrite) := by
  obtain ⟨deployment, operation⟩ := turn
  cases operation with
  | event event now =>
      cases event with
      | bondChanged address state =>
          cases state <;>
          · cases writes
            rfl
      | _ => cases writes
  | request request =>
      cases request with
      | storePriority address asked =>
          cases writes
          rfl
      | _ => cases writes
  | _ => cases writes

theorem comesTo (routed : turn.operation.isRouted = true) : turn.ComesTo := by
  cases writes : turn.operation.write? with
  | none => exact .unrelated writes (store_outcome_of_no_write routed writes)
  | some write =>
      obtain ⟨text, priority⟩ := write
      have comes := outcome_of_write writes
      cases denotes : Address.ofText? text with
      | none =>
          refine .malformed writes (Address.ofText?_eq_none_iff.mp denotes) ?_
          rw [comes, Manager.storePriority, denotes]
          rfl
      | some device =>
          have agrees := Address.ofText?_eq_some_iff.mp denotes
          -- The store is asked once, and its answer decides everything else.
          have asks : turn.outcome = turn.deployment.takeIn
              { result := turn.operation.replyToWrite
                  (if turn.deployment.world.accepts device priority then .ok ()
                    else .error .storeFailed)
                state := turn.deployment.system
                journal := [⟨.storePriority device priority
                  (turn.deployment.world.accepts device priority),
                  turn.deployment.system.sinks⟩] } := by
            rw [comes, Manager.storePriority, denotes]
            rfl
          cases accepts : turn.deployment.world.accepts device priority with
          | false =>
              rw [accepts] at asks
              exact .rejected writes agrees accepts asks
          | true =>
              rw [accepts] at asks
              refine .accepted writes agrees accepts ?_ ?_ ?_ fun other => ?_
              · rw [asks]
                rfl
              · rw [asks]
                rfl
              · rw [asks]
                rfl
              · rw [asks]
                exact Keeper.get?_absorb_of_accepts accepts other

/-- The case of a text does not make two devices of one. -/
private theorem device_unique {other : Address} (agrees : Text.AgreeUpToCase text device.toText)
    (otherAgrees : Text.AgreeUpToCase text other.toText) : other = device := by
  rw [← Address.ofText?_eq_some_iff] at agrees otherAgrees
  exact Option.some.inj (otherAgrees.symm.trans agrees)

theorem get?_outcome (routed : turn.operation.isRouted = true) (device : Address) :
    turn.outcome.state.world.store.get? device =
      (turn.kept? device).or (turn.deployment.world.store.get? device) := by
  unfold kept?
  cases comesTo routed with
  | unrelated noWrite same =>
      rw [noWrite, same]
      rfl
  | malformed writes nobody ignored =>
      rw [writes, ignored]
      simp [nobody device]
  | @rejected text priority asked writes agrees rejects ignored =>
      rw [writes, ignored]
      have notKept : ¬ (Text.AgreeUpToCase text device.toText ∧
          turn.deployment.world.accepts device priority = true) := by
        intro both
        obtain ⟨deviceAgrees, accepts⟩ := both
        rw [device_unique agrees deviceAgrees, rejects] at accepts
        cases accepts
      simp [notKept]
  | @accepted text priority asked writes agrees accepts _ _ _ stored =>
      rw [writes, stored]
      -- The written device and the one in question may be two, but then the text is of one only.
      by_cases same : device = asked
      · subst same
        simp [agrees, accepts]
      · have notMeant : ¬ Text.AgreeUpToCase text device.toText := fun deviceAgrees =>
          same (device_unique agrees deviceAgrees)
        simp [same, notMeant]

end StoreTurn

namespace Deployment

/-- The turns of a run. -/
def turns (deployment : Deployment Manager Keeper) :
    List (Collaborators × Operation) → List StoreTurn
  | [] => []
  | (others, operation) :: rest =>
      ⟨deployment.facing others, operation⟩ ::
        ((deployment.facing others).perform operation).state.turns rest

/-- The priorities that the store has kept for a device in some turns, in order. -/
def keptFor (device : Address) (turns : List StoreTurn) : List Priority :=
  turns.filterMap fun turn => turn.kept? device

variable {deployment : Deployment Manager Keeper} {steps : List (Collaborators × Operation)}

private theorem getLast?_keptFor_cons (device : Address) (turn : StoreTurn)
    (rest : List StoreTurn) :
    (keptFor device (turn :: rest)).getLast? =
      (keptFor device rest).getLast?.or (turn.kept? device) := by
  cases kept : turn.kept? device with
  | none => simp [keptFor, kept]
  | some priority =>
      simp only [keptFor, List.filterMap_cons, kept, List.getLast?_cons]
      cases (rest.filterMap fun turn => turn.kept? device).getLast? <;> rfl

theorem get?_run (routed : ∀ step ∈ steps, step.2.isRouted = true)
    (deployment : Deployment Manager Keeper) (device : Address) :
    (deployment.run steps).state.world.store.get? device =
      (keptFor device (deployment.turns steps)).getLast?.or
        (deployment.world.store.get? device) := by
  induction steps generalizing deployment with
  | nil => rfl
  | cons step rest ih =>
      obtain ⟨routedNow, routedLater⟩ := List.forall_mem_cons.mp routed
      obtain ⟨others, operation⟩ := step
      let turn : StoreTurn := ⟨deployment.facing others, operation⟩
      have now : turn.outcome.state.world.store.get? device =
          (turn.kept? device).or (deployment.world.store.get? device) :=
        StoreTurn.get?_outcome routedNow device
      have later : (deployment.run ((others, operation) :: rest)).state.world.store.get? device =
          (keptFor device (turn.outcome.state.turns rest)).getLast?.or
            (turn.outcome.state.world.store.get? device) := ih routedLater turn.outcome.state
      have split : deployment.turns ((others, operation) :: rest) =
          turn :: turn.outcome.state.turns rest := rfl
      rw [later, now, split, getLast?_keptFor_cons, Option.or_assoc]

private theorem comesTo_of_mem_turns (routed : ∀ step ∈ steps, step.2.isRouted = true) :
    ∀ turn ∈ deployment.turns steps, turn.ComesTo := by
  induction steps generalizing deployment with
  | nil => simp [turns]
  | cons step rest ih =>
      obtain ⟨routedNow, routedLater⟩ := List.forall_mem_cons.mp routed
      exact List.forall_mem_cons.mpr ⟨StoreTurn.comesTo routedNow, ih routedLater⟩

/-- After any run a device has the priority of the last write to it that was accepted, or
else the one that it had before, or else none at all. -/
theorem priority_run (routed : ∀ step ∈ steps, step.2.isRouted = true)
    (deployment : Deployment Manager Keeper) :
    (∀ turn ∈ deployment.turns steps, turn.ComesTo) ∧
      ∀ device, ((deployment.run steps).state.perform (.request (.priorityOf device))).result =
        .response (.priority (((keptFor device (deployment.turns steps)).getLast?.or
          (deployment.world.store.get? device)).getD .off)) := by
  refine ⟨comesTo_of_mem_turns routed, fun device => ?_⟩
  rw [← get?_run routed]
  rfl

section Sample

open Simulation

/-- The store turns down whatever it is asked to keep. -/
def unwilling : Collaborators :=
  { oneSink "disconnected" with acceptsPriority := fun _ _ => false }

/-- A device is bonded under its address in lower case and gets another priority. Then come
a text with a letter that is no digit, a write that is turned down, a connect and a write
for another device. -/
def writeInManyWays : List (Collaborators × Operation) :=
  [(oneSink "disconnected",
      .event (.bondChanged ⟨"00:00:00:00:00:ab", by decide⟩ .bonded) ⟨0⟩),
    (oneSink "disconnected",
      .request (.storePriority ⟨"00:00:00:00:00:AB", by decide⟩ ⟨42⟩)),
    (oneSink "disconnected",
      .request (.storePriority ⟨"00:00:00:00:00:aG", by decide⟩ ⟨7⟩)),
    (unwilling, .request (.storePriority ⟨"00:00:00:00:00:aB", by decide⟩ ⟨7⟩)),
    (oneSink "disconnected", .request (.connect (sampleAddress 1))),
    (oneSink "disconnected",
      .event (.bondChanged ⟨"00:00:00:00:00:01", by decide⟩ .bonding) ⟨0⟩)]

theorem priority_run_of_writeInManyWays :
    (∀ step ∈ writeInManyWays, step.2.isRouted = true) ∧
    let start : Deployment Manager Keeper := ⟨.new {}, ⟨.empty, oneSink "disconnected"⟩⟩
    keptFor (sampleAddress 171) (start.turns writeInManyWays) = [.auto, ⟨42⟩] ∧
      ((start.run writeInManyWays).state.perform
        (.request (.priorityOf (sampleAddress 171)))).result = .response (.priority ⟨42⟩) ∧
      ∀ turn ∈ start.turns writeInManyWays, turn.ComesTo := by
  have routed : ∀ step ∈ writeInManyWays, step.2.isRouted = true := by
    simp [writeInManyWays, Operation.isRouted]
  let start : Deployment Manager Keeper := ⟨.new {}, ⟨.empty, oneSink "disconnected"⟩⟩
  have kept : keptFor (sampleAddress 171) (start.turns writeInManyWays) = [.auto, ⟨42⟩] := by
    decide
  have run := priority_run routed start
  refine ⟨routed, kept, ?_, run.1⟩
  rw [run.2, kept]
  rfl

end Sample

end Deployment

end AudioHost
