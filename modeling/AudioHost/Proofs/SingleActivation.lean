import AudioHost.Proofs.Attempts
import AudioHost.Proofs.Frame
import AudioHost.Proofs.NativeCalls

/-!
# One activation at a time

After an accepted connect no other device should be connected until something is heard
of the first one. One operation keeps to that. A run does not: the table shows the
device as disconnected until the stack reports, so the next operation cannot know.
-/

set_option autoImplicit false

namespace AudioHost

open JournalEntry

namespace Turn

variable {turn : Turn} {device other : Address}

def Connects (turn : Turn) (device : Address) : Prop :=
  ∃ accepted, (device, accepted) ∈ connectsOf turn.outcome.journal

/-- The stack accepts to connect a device. -/
def Accepts (turn : Turn) (device : Address) : Prop :=
  (device, true) ∈ connectsOf turn.outcome.journal

/-- Something is heard of a device: its state is reported, or the adapter goes on or off
and every device is looked at. -/
def Resets (turn : Turn) (device : Address) : Prop :=
  match turn.operation with
  | .event (.adapterChanged .on) _ | .event (.adapterChanged .turningOff) _ => True
  | .event (.propertyChanged path property) _ =>
      property.tellsState = true ∧ turn.answers.deviceAt path.text = some device
  | _ => False

/-- A connect of a device gets as far as the stack, as the turn finds things. -/
def Reaches (turn : Turn) (device : Address) : Prop :=
  match turn.operation with
  | .request (.connect asked) =>
      device = asked ∧ ∃ path, turn.manager.Reaches turn.answers device path
  | .fireDue now =>
      Manager.ReachesInTurn { turn.manager with pending := (turn.manager.pending.drain now).2 }
        turn.answers (turn.manager.pending.due now) device
  | _ => False

theorem operation_of_connects (routed : turn.operation.isRouted = true)
    (connects : turn.Connects device) :
    turn.operation = .request (.connect device) ∨ ∃ now, turn.operation = .fireDue now := by
  obtain ⟨accepted, member⟩ := connects
  obtain ⟨entry, entryMember, path, called⟩ := mem_connectsOf_iff.mp member
  have acts := Manager.perform_byActs routed turn.manager turn.answers
  obtain ⟨act, _, _, _, allowed, step, written⟩ := acts.exists_step entryMember
  obtain ⟨rfl, _⟩ := step.of_connect written called
  rcases Operation.of_permits_connect allowed with request | ⟨now, batch, _⟩
  · exact .inl request
  · exact .inr ⟨now, batch⟩

/-- A turn asks the stack to connect exactly those devices that get that far. -/
theorem connects_iff_reaches (routed : turn.operation.isRouted = true) :
    turn.Connects device ↔ turn.Reaches device := by
  obtain ⟨manager, answers, operation⟩ := turn
  constructor
  · intro connects
    rcases operation_of_connects routed connects with request | ⟨now, batch⟩
    · obtain rfl : operation = _ := request
      exact Manager.mem_connectsOf_connect_iff.mp connects
    · obtain rfl : operation = _ := batch
      exact Manager.mem_connectsOf_attemptInTurn_iff.mp connects
  · intro reaches
    unfold Reaches at reaches
    split at reaches
    · next asked request =>
        obtain rfl : operation = _ := request
        obtain ⟨rfl, arrives⟩ := reaches
        exact Manager.mem_connectsOf_connect_iff.mpr ⟨rfl, arrives⟩
    · next now batch =>
        obtain rfl : operation = _ := batch
        exact Manager.mem_connectsOf_attemptInTurn_iff.mpr reaches
    · cases reaches

/-- Within a turn nothing is connected after an accepted connect, and the table goes on
to show the device as disconnected. -/
theorem last_of_accepted (routed : turn.operation.isRouted = true)
    {front back : List (Address × Bool)}
    (split : connectsOf turn.outcome.journal = front ++ (device, true) :: back) :
    back = [] ∧ turn.outcome.state.ShowsDown device := by
  have connects : turn.Connects device := ⟨true, by rw [split]; simp⟩
  obtain ⟨manager, answers, operation⟩ := turn
  rcases operation_of_connects routed connects with request | ⟨now, batch⟩
  · obtain rfl : operation = _ := request
    obtain ⟨_, path, arrives⟩ := Manager.mem_connectsOf_connect_iff.mp connects
    obtain ⟨asked, _, left⟩ := Manager.connect_of_reaches arrives
    have only : connectsOf (manager.connect answers device).journal = _ := split
    rw [asked, eq_comm, List.append_eq_singleton_iff] at only
    obtain ⟨_, last⟩ := only.resolve_right (by simp)
    exact ⟨(List.cons.inj last).2, left⟩
  · obtain rfl : operation = _ := batch
    exact Manager.attemptInTurn_of_accepted split

end Turn

/-! ## While nothing is heard -/

namespace Turn

variable {turn : Turn} {device : Address}

/-- An operation that brings nothing new about a device rewrites nothing about it. -/
private theorem not_rewrites_of_not_resets (silent : ¬ turn.Resets device) :
    ¬ turn.operation.Rewrites turn.answers device := by
  obtain ⟨manager, answers, operation⟩ := turn
  intro rewrites
  change operation.Rewrites answers device at rewrites
  unfold Operation.Rewrites at rewrites
  split at rewrites
  case h_1 | h_2 => exact silent trivial
  case h_3 => exact silent rewrites.2
  case h_4 => cases rewrites

private theorem showsDown_of_not_resets (routed : turn.operation.isRouted = true)
    (silent : ¬ turn.Resets device) (down : turn.manager.ShowsDown device) :
    turn.outcome.state.ShowsDown device := by
  obtain ⟨reading, tracked, state⟩ := down
  refine ⟨reading, ?_, state⟩
  exact Manager.get?_perform_of_not_rewrites routed (not_rewrites_of_not_resets silent) tracked

/-- A turn of a run comes after an accepted connect of a device of which nothing was
heard since. -/
def Awaits (turns : List Turn) (later : Turn) (device : Address) : Prop :=
  ∃ front first between back, turns = front ++ first :: (between ++ later :: back) ∧
    first.Accepts device ∧ ∀ turn ∈ between, ¬ turn.Resets device

end Turn

/-- One activation at a time: after an accepted connect of a device no other device is
connected, neither in the same turn nor in one that still awaits it. -/
structure SingleActivation (turns : List Turn) : Prop where
  within : ∀ turn ∈ turns, ∀ front back device other accepted,
    connectsOf turn.outcome.journal = front ++ (device, true) :: back →
      (other, accepted) ∈ back → other = device
  across : ∀ device other, ∀ later : Turn, later.Awaits turns device → later.Connects other →
    other = device

namespace Manager

variable {steps : List (Collaborators × Operation)} {manager : Manager}

private theorem mem_turns_of_awaits {later : Turn} {device : Address}
    (awaits : later.Awaits (manager.turns steps) device) : later ∈ manager.turns steps := by
  obtain ⟨front, first, between, back, split, _⟩ := awaits
  rw [split]
  simp

/-- A turn that awaits a device finds it disconnected in the table, as if it had never
been asked for. -/
theorem showsDown_of_awaits (routed : ∀ step ∈ steps, step.2.isRouted = true) {later : Turn}
    {device : Address} (awaits : later.Awaits (manager.turns steps) device) :
    later.manager.ShowsDown device := by
  obtain ⟨front, first, between, back, split, accepts, silent⟩ := awaits
  have firstMember : first ∈ manager.turns steps := by
    rw [split]
    simp
  have firstRouted := isRouted_of_mem_turns routed firstMember
  obtain ⟨rest, after, included⟩ := turns_eq_append_cons split
  have start : first.outcome.state.ShowsDown device := by
    obtain ⟨earlier, others, accepted⟩ := List.append_of_mem accepts
    exact (Turn.last_of_accepted firstRouted accepted).2
  refine holds_at_turn (ShowsDown · device) after.symm (fun turn member down => ?_) start
  have turnMember : turn ∈ manager.turns steps := by
    rw [split]
    simp [member]
  exact Turn.showsDown_of_not_resets (isRouted_of_mem_turns routed turnMember)
    (silent turn member) down

/-- A run keeps to one activation at a time exactly if no turn that awaits a device lets
a connect of another one get as far as the stack. The awaited device does not stand in
the way, because the table shows it as disconnected. Within a turn nothing is connected
after an accepted connect, and the turn leaves the device shown as disconnected. -/
theorem singleActivation_iff (routed : ∀ step ∈ steps, step.2.isRouted = true)
    (manager : Manager) :
    (SingleActivation (manager.turns steps) ↔
      ∀ device other, ∀ later : Turn, later.Awaits (manager.turns steps) device →
        later.Reaches other → other = device) ∧
    (∀ device, ∀ later : Turn, later.Awaits (manager.turns steps) device →
      later.manager.ShowsDown device) ∧
    ∀ turn ∈ manager.turns steps, ∀ front back device,
      connectsOf turn.outcome.journal = front ++ (device, true) :: back →
        back = [] ∧ turn.outcome.state.ShowsDown device := by
  have reached : ∀ device other, ∀ later : Turn, later.Awaits (manager.turns steps) device →
      (later.Connects other ↔ later.Reaches other) := fun device other later awaits =>
    Turn.connects_iff_reaches (isRouted_of_mem_turns routed (mem_turns_of_awaits awaits))
  have last : ∀ turn ∈ manager.turns steps, ∀ front back device,
      connectsOf turn.outcome.journal = front ++ (device, true) :: back →
        back = [] ∧ turn.outcome.state.ShowsDown device := fun turn member front back device split =>
    Turn.last_of_accepted (isRouted_of_mem_turns routed member) split
  refine ⟨⟨?_, ?_⟩, fun device later awaits => showsDown_of_awaits routed awaits, last⟩
  · intro single device other later awaits reaches
    exact single.across device other later awaits ((reached device other later awaits).mpr reaches)
  · intro alone
    constructor
    · intro turn member front back device other accepted split others
      rw [(last turn member front back device split).1] at others
      cases others
    · intro device other later awaits connects
      exact alone device other later awaits ((reached device other later awaits).mp connects)

section Sample

open Simulation

/-- The adapter goes on, and two callers want the same sink. -/
def requestTwice : List (Collaborators × Operation) :=
  [(twoSinks, .event (.adapterChanged .on) .zero),
    (twoSinks, .request (.connect (sampleAddress 1))),
    (twoSinks, .request (.connect (sampleAddress 1)))]

theorem singleActivation_of_requestTwice :
    (∀ step ∈ requestTwice, step.2.isRouted = true) ∧
    SingleActivation ((Manager.new {}).turns requestTwice) ∧
    ∃ later : Turn,
      later.Awaits ((Manager.new {}).turns requestTwice) (sampleAddress 1) ∧
        connectsOf later.outcome.journal = [(sampleAddress 1, true)] ∧
        later.Connects (sampleAddress 1) ∧ later.manager.ShowsDown (sampleAddress 1) ∧
        later.outcome.state.ShowsDown (sampleAddress 1) := by
  have routed : ∀ step ∈ requestTwice, step.2.isRouted = true := by
    simp [requestTwice, Operation.isRouted]
  obtain ⟨condition, down, last⟩ := singleActivation_iff routed (Manager.new {})
  have first : ∀ turn ∈ (Manager.new {}).turns requestTwice, ∀ device,
      turn.Reaches device → device = sampleAddress 1 := by
    intro turn member device reaches
    have step := mem_steps_of_mem_turns member
    simp only [requestTwice, List.mem_cons, Prod.mk.injEq, List.not_mem_nil, or_false] at step
    unfold Turn.Reaches at reaches
    rcases step with ⟨_, operation⟩ | ⟨_, operation⟩ | ⟨_, operation⟩
    · rw [operation] at reaches
      cases reaches
    · rw [operation] at reaches
      exact reaches.1
    · rw [operation] at reaches
      exact reaches.1
  refine ⟨routed, condition.mpr ?_, ((Manager.new {}).turns requestTwice)[2], ?_⟩
  · intro device other later awaits reaches
    obtain ⟨_, earlier, _, _, split, accepts, _⟩ := id awaits
    have member : earlier ∈ (Manager.new {}).turns requestTwice := by
      rw [split]
      simp
    have earlierReaches := (Turn.connects_iff_reaches
      (isRouted_of_mem_turns routed member)).mp ⟨true, accepts⟩
    rw [first later (mem_turns_of_awaits awaits) other reaches,
      first earlier member device earlierReaches]
  · have awaits : Turn.Awaits ((Manager.new {}).turns requestTwice)
        ((Manager.new {}).turns requestTwice)[2] (sampleAddress 1) := by
      refine ⟨[((Manager.new {}).turns requestTwice)[0]],
        ((Manager.new {}).turns requestTwice)[1], [], [], rfl, ?_, by simp⟩
      show (sampleAddress 1, true) ∈ connectsOf _
      decide
    have only : connectsOf ((Manager.new {}).turns requestTwice)[2].outcome.journal =
        [(sampleAddress 1, true)] := by decide
    exact ⟨awaits, only, ⟨true, by simp [only]⟩, down _ _ awaits,
      (last _ (List.getElem_mem _) [] [] (sampleAddress 1) only).2⟩

/-- The adapter goes on, and two callers want one sink each. -/
def requestBoth : List (Collaborators × Operation) :=
  [(twoSinks, .event (.adapterChanged .on) .zero),
    (twoSinks, .request (.connect (sampleAddress 1))),
    (twoSinks, .request (.connect (sampleAddress 2)))]

/-- Two requests in a row activate two sinks at once. -/
theorem not_singleActivation_of_requestBoth :
    ¬ SingleActivation ((Manager.new {}).turns requestBoth) := by
  intro single
  have awaits : Turn.Awaits ((Manager.new {}).turns requestBoth)
      ((Manager.new {}).turns requestBoth)[2] (sampleAddress 1) := by
    refine ⟨[((Manager.new {}).turns requestBoth)[0]], ((Manager.new {}).turns requestBoth)[1],
      [], [], rfl, ?_, by simp⟩
    show (sampleAddress 1, true) ∈ connectsOf _
    decide
  have same := single.across (sampleAddress 1) (sampleAddress 2) _ awaits ⟨true, by decide⟩
  exact absurd same (by decide)

end Sample

end Manager

end AudioHost
