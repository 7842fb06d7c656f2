import AudioHost.Proofs.Change

/-!
# Acts

Whatever the manager does is a sequence of acts. An act has a condition under which
the manager performs it, a journal and a new state. What no act can break, no
operation can break, so laws about runs are proved act by act.
-/

set_option autoImplicit false

namespace AudioHost

/-- The smallest pieces of the manager's work. -/
inductive Act where
  | connect (device : Address) (path : ObjectPath)
  | disconnect (device : Address) (path : ObjectPath)
  | storePriority (device : Address) (priority : Priority)
  | tellAudio (enabled : Bool)
  /-- A device that is not tracked enters the table. -/
  | enroll (device : Address) (reading : Reading)
  /-- A tracked device is entered once more, as if it were new. -/
  | overwrite (device : Address) (reading : Reading)
  /-- A tracked device gets a new reading. -/
  | report (device : Address) (reading : Reading)
  /-- The table is emptied. -/
  | forget
  /-- The count starts anew. -/
  | recount
  | reschedule (pending : PendingConnects)
  deriving DecidableEq

open Manager

/-- `Act.Step answers act manager journal next`: with these answers the manager
performs the act, writes the journal and goes on as `next`. -/
inductive Act.Step (answers : Collaborators) :
    Act → Manager → List JournalEntry → Manager → Prop where
  | connect {manager : Manager} {device : Address} {path : ObjectPath}
      (idle : manager.isBusy = false) (present : device ∈ manager.sinks.keys)
      (found : answers.pathOf device = some path) :
      Step answers (.connect device path) manager
        [⟨.connect device path (answers.acceptsConnect path), manager.sinks⟩] manager
  | disconnect {manager : Manager} {device : Address} {path : ObjectPath}
      (up : manager.stateOf device = .connecting ∨ manager.stateOf device = .connected ∨
        manager.stateOf device = .playing)
      (found : answers.pathOf device = some path) :
      Step answers (.disconnect device path) manager
        [⟨.disconnect device path (answers.acceptsDisconnect path), manager.sinks⟩] manager
  | storePriority {manager : Manager} {device : Address} {priority : Priority} :
      Step answers (.storePriority device priority) manager
        [⟨.storePriority device priority (answers.acceptsPriority device priority),
          manager.sinks⟩] manager
  | tellAudio {manager : Manager} {enabled : Bool} :
      Step answers (.tellAudio enabled) manager [⟨.audioEnabled enabled, manager.sinks⟩] manager
  | enroll {manager : Manager} {sinks : SinkTable} {device : Address} {reading : Reading}
      (untracked : manager.sinks.get? device = none)
      (taken : manager.sinks.insert? device reading = some sinks) :
      Step answers (.enroll device reading) manager
        (changeJournal sinks device .disconnected reading.state)
        (manager.afterChange sinks .disconnected reading.state)
  | overwrite {manager : Manager} {device : Address} {reading : Reading}
      (present : device ∈ manager.sinks.keys) :
      Step answers (.overwrite device reading) manager
        (changeJournal (manager.sinks.replace device reading) device .disconnected reading.state)
        (manager.afterChange (manager.sinks.replace device reading) .disconnected reading.state)
  | report {manager : Manager} {device : Address} {previous reading : Reading}
      (tracked : manager.sinks.get? device = some previous) :
      Step answers (.report device reading) manager
        (changeJournal (manager.sinks.replace device (.known reading.state)) device
          previous.state reading.state)
        (manager.afterChange (manager.sinks.replace device reading) previous.state reading.state)
  | forget {manager : Manager} (idle : manager.isBusy = false) :
      Step answers .forget manager [] { manager with sinks := .empty }
  | recount {manager : Manager} :
      Step answers .recount manager [] { manager with activeCount := 0 }
  | reschedule {manager : Manager} {pending : PendingConnects} :
      Step answers (.reschedule pending) manager [] { manager with pending }

/-! ## What single acts leave alone -/

namespace Act

variable {answers : Collaborators} {act : Act} {before after : Manager}
  {written : List JournalEntry} {device : Address} {reading : Reading}

/-- An act that may change what the table says about a tracked device. -/
def Rewrites (device : Address) : Act → Prop
  | overwrite rewritten _ | report rewritten _ => rewritten = device
  | forget => True
  | _ => False

theorem Step.get?_of_not_rewrites (step : Step answers act before written after)
    (spared : ¬ act.Rewrites device) (tracked : before.sinks.get? device = some reading) :
    after.sinks.get? device = some reading := by
  cases step with
  | connect _ _ _ | disconnect _ _ | storePriority | tellAudio | recount | reschedule =>
      exact tracked
  | enroll untracked taken =>
      rw [Manager.sinks_afterChange, BoundedMap.get?_of_insert?_eq_some taken, if_neg]
      · exact tracked
      · intro same
        subst same
        cases tracked.symm.trans untracked
  | overwrite present =>
      rw [Manager.sinks_afterChange, BoundedMap.get?_replace_of_mem present,
        if_neg (Ne.symm spared)]
      exact tracked
  | report reported =>
      rw [Manager.sinks_afterChange,
        BoundedMap.get?_replace_of_mem (BoundedMap.mem_keys_of_get? reported),
        if_neg (Ne.symm spared)]
      exact tracked
  | forget _ => exact absurd trivial spared

end Act

/-! ## Sequences of acts -/

/-- A state and a journal that come about by permitted acts. -/
inductive Act.Steps (answers : Collaborators) (permitted : Act → Prop) :
    Manager → List JournalEntry → Manager → Prop where
  | none (manager : Manager) : Steps answers permitted manager [] manager
  | next {act : Act} {manager middle final : Manager} {journal rest : List JournalEntry}
      (allowed : permitted act) (step : Act.Step answers act manager journal middle)
      (others : Steps answers permitted middle rest final) :
      Steps answers permitted manager (journal ++ rest) final

namespace Act.Steps

variable {answers : Collaborators} {permitted : Act → Prop}
  {manager middle final : Manager} {journal rest : List JournalEntry}

theorem one {act : Act} (allowed : permitted act)
    (step : Act.Step answers act manager journal final) :
    Steps answers permitted manager journal final := by
  simpa using Steps.next allowed step (.none final)

theorem silent {act : Act} (allowed : permitted act)
    (step : Act.Step answers act manager [] middle)
    (others : Steps answers permitted middle journal final) :
    Steps answers permitted manager journal final :=
  .next allowed step others

theorem append (first : Steps answers permitted manager journal middle)
    (second : Steps answers permitted middle rest final) :
    Steps answers permitted manager (journal ++ rest) final := by
  induction first with
  | none => simpa using second
  | next allowed step _ ih =>
      rw [List.append_assoc]
      exact .next allowed step (ih second)

theorem mono {wider : Act → Prop} (implied : ∀ act, permitted act → wider act)
    (steps : Steps answers permitted manager journal final) :
    Steps answers wider manager journal final := by
  induction steps with
  | none => exact .none _
  | next allowed step _ ih => exact .next (implied _ allowed) step ih

theorem exists_step (steps : Steps answers permitted manager journal final)
    {entry : JournalEntry} (member : entry ∈ journal) :
    ∃ act before written after, permitted act ∧
      Act.Step answers act before written after ∧ entry ∈ written := by
  induction steps with
  | none => cases member
  | next allowed step _ ih =>
      rcases List.mem_append.mp member with first | later
      · exact ⟨_, _, _, _, allowed, step, first⟩
      · exact ih later

/-- What every permitted act keeps, the acts together keep. -/
theorem invariant {Holds : Manager → Prop}
    (kept : ∀ {act before written after}, permitted act →
      Act.Step answers act before written after → Holds before → Holds after)
    (steps : Steps answers permitted manager journal final) (start : Holds manager) :
    Holds final := by
  induction steps with
  | none => exact start
  | next allowed step _ ih => exact ih (kept allowed step start)

end Act.Steps

end AudioHost
