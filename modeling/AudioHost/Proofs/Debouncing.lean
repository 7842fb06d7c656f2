import AudioHost.PendingConnects.Lemmas
import AudioHost.Simulation.Sample
import Mathlib.Data.List.Perm.Subperm

/-!
# Triggers and batches in any order

The pending connects by themselves, asked in any order and at any times. A device waits
exactly if its last accepted trigger set a deadline that no batch has reached since, whatever
places the entries were moved to meanwhile.
-/

set_option autoImplicit false

namespace AudioHost.PendingConnects

inductive Call where
  | trigger (device : Address) (now : Instant)
  | drain (now : Instant)

/-- A call with the answer to it. -/
inductive Use where
  | triggered (device : Address) (now : Instant) (answer : Except Refusal Instant)
  | drained (now : Instant) (devices : List Address)

/-- The clock can show the deadline that a trigger asks for. -/
def Call.InRange (delay : Duration) : Call → Prop
  | .trigger _ now => now.micros.toNat + delay.micros.toNat < UInt64.size
  | .drain _ => True

def Use.call : Use → Call
  | .triggered device now _ => .trigger device now
  | .drained now _ => .drain now

/-! ## The timers that callers see -/

/-- The last trigger that was accepted for a device set a deadline, and no batch has come at
the deadline or after it. -/
def Waits (delay : Duration) (history : List Use) (device : Address) (deadline : Instant) : Prop :=
  ∃ before now after, history = before ++ .triggered device now (.ok deadline) :: after ∧
    deadline.micros.toNat = now.micros.toNat + delay.micros.toNat ∧
    (∀ use ∈ after, ∀ again later, use ≠ .triggered device again (.ok later)) ∧
    ∀ use ∈ after, ∀ time devices, use = .drained time devices → time < deadline

def OthersFill (delay : Duration) (history : List Use) (device : Address) : Prop :=
  ∃ others : List Address, others.Nodup ∧ others.length = 8 ∧ device ∉ others ∧
    ∀ other ∈ others, ∃ deadline, Waits delay history other deadline

/-- What eight timers answer, call by call. -/
inductive Lawful (delay : Duration) : List Use → Prop where
  | nil : Lawful delay []
  | accepted {history : List Use} {device : Address} {now deadline : Instant}
      (lawful : Lawful delay history)
      (room : (∃ earlier, Waits delay history device earlier) ∨ ¬ OthersFill delay history device)
      (delayed : deadline.micros.toNat = now.micros.toNat + delay.micros.toNat) :
      Lawful delay (history ++ [.triggered device now (.ok deadline)])
  | refused {history : List Use} {device : Address} {now : Instant}
      (lawful : Lawful delay history)
      (new : ∀ earlier, ¬ Waits delay history device earlier)
      (full : OthersFill delay history device) :
      Lawful delay (history ++ [.triggered device now (.error .tableFull)])
  | drained {history : List Use} {devices : List Address} {now : Instant}
      (lawful : Lawful delay history) (once : devices.Nodup)
      (due : ∀ device, device ∈ devices ↔
        ∃ deadline, Waits delay history device deadline ∧ deadline ≤ now) :
      Lawful delay (history ++ [.drained now devices])

variable {delay : Duration} {history : List Use} {last : Use} {device other : Address}
  {now deadline later : Instant}

private theorem waits_concat_iff :
    Waits delay (history ++ [last]) device deadline ↔
      (∃ now, last = .triggered device now (.ok deadline) ∧
        deadline.micros.toNat = now.micros.toNat + delay.micros.toNat) ∨
      (Waits delay history device deadline ∧
        (∀ again later, last ≠ .triggered device again (.ok later)) ∧
        ∀ time devices, last = .drained time devices → time < deadline) := by
  constructor
  · intro waits
    obtain ⟨before, now, after, split, delayed, latest, unspent⟩ := waits
    obtain ⟨_, _, set⟩ | ⟨front, rfl, kept⟩ := concat_eq_append_cons_iff.mp split
    · exact .inl ⟨now, set, delayed⟩
    · rw [List.forall_mem_append] at latest unspent
      exact .inr ⟨⟨before, now, front, kept, delayed, latest.1, unspent.1⟩,
        latest.2 last (List.mem_singleton_self last), unspent.2 last (List.mem_singleton_self last)⟩
  · intro given
    cases given with
    | inl set =>
        obtain ⟨now, rfl, delayed⟩ := set
        exact ⟨history, now, [], rfl, delayed, by simp, by simp⟩
    | inr kept =>
        obtain ⟨⟨before, now, after, rfl, delayed, latest, unspent⟩, other, early⟩ := kept
        refine ⟨before, now, after ++ [last], by simp, delayed, ?_, ?_⟩
        · exact List.forall_mem_append.mpr ⟨latest, by simpa using other⟩
        · exact List.forall_mem_append.mpr ⟨unspent, by simpa using early⟩

private theorem waits_accepted_iff
    (delayed : later.micros.toNat = now.micros.toNat + delay.micros.toNat) :
    Waits delay (history ++ [.triggered other now (.ok later)]) device deadline ↔
      if device = other then deadline = later else Waits delay history device deadline := by
  rw [waits_concat_iff]
  by_cases same : device = other
  · subst same
    rw [if_pos rfl]
    constructor
    · intro given
      obtain ⟨_, same, _⟩ | ⟨_, latest, _⟩ := given
      · cases same
        rfl
      · exact absurd rfl (latest now later)
    · intro same
      subst same
      exact .inl ⟨now, rfl, delayed⟩
  · simp [same, Ne.symm same]

private theorem waits_refused_iff :
    Waits delay (history ++ [.triggered other now (.error .tableFull)]) device deadline ↔
      Waits delay history device deadline := by
  simp [waits_concat_iff]

private theorem waits_drained_iff {devices : List Address} :
    Waits delay (history ++ [.drained now devices]) device deadline ↔
      Waits delay history device deadline ∧ now < deadline := by
  simp [waits_concat_iff]

/-! ## The pending connects -/

/-- Answers a call. A trigger that is refused leaves the deadlines as they are. -/
def perform (pending : PendingConnects) : Call → Except ClockOverflow (Use × PendingConnects)
  | .drain now => .ok (.drained now (pending.drain now).1, (pending.drain now).2)
  | .trigger device now =>
      match pending.trigger device now with
      | .waiting deadline moved => .ok (.triggered device now (.ok deadline), moved)
      | .full => .ok (.triggered device now (.error .tableFull), pending)
      | .overflow cause => .error cause

def run (pending : PendingConnects) : List Call → Except ClockOverflow (List Use × PendingConnects)
  | [] => .ok ([], pending)
  | call :: rest =>
      match pending.perform call with
      | .error cause => .error cause
      | .ok (use, next) => (next.run rest).map fun later => (use :: later.1, later.2)

/-- The deadlines are those that a history has left. -/
structure Reflects (pending : PendingConnects) (delay : Duration) (history : List Use) : Prop where
  sameDelay : pending.delay = delay
  waits : ∀ device deadline,
    pending.deadlineOf? device = some deadline ↔ Waits delay history device deadline

variable {pending moved : PendingConnects}

namespace Reflects

private theorem mem_keys_iff (reflects : pending.Reflects delay history) :
    device ∈ pending.deadlines.keys ↔ ∃ deadline, Waits delay history device deadline := by
  simp only [← reflects.waits, BoundedMap.mem_keys_iff_get?]
  rfl

private theorem othersFill_iff (reflects : pending.Reflects delay history)
    (new : ∀ earlier, ¬ Waits delay history device earlier) :
    OthersFill delay history device ↔ pending.deadlines.size = 8 := by
  have absent : device ∉ pending.deadlines.keys := by
    rw [reflects.mem_keys_iff]
    exact not_exists.mpr new
  constructor
  · intro fill
    obtain ⟨others, distinct, eight, _, wait⟩ := fill
    have included : others ⊆ pending.deadlines.keys := fun other member =>
      reflects.mem_keys_iff.mpr (wait other member)
    have atLeast := (List.subperm_of_subset distinct included).length_le
    rw [eight, BoundedMap.length_keys] at atLeast
    exact Nat.le_antisymm pending.deadlines.size_le atLeast
  · intro full
    -- the eight others are the keys themselves
    refine ⟨pending.deadlines.keys, pending.deadlines.keys_nodup, ?_, absent, ?_⟩
    · rw [BoundedMap.length_keys, full]
    · exact fun other member => reflects.mem_keys_iff.mp member

private theorem exists_deadline (reflects : pending.Reflects delay history)
    (shown : now.micros.toNat + delay.micros.toNat < UInt64.size) :
    ∃ deadline, now.after? pending.delay = some deadline := by
  rw [← Option.ne_none_iff_exists', reflects.sameDelay, ne_eq, Instant.after?_eq_none_iff]
  exact Nat.not_le.mpr shown

private theorem full_iff (reflects : pending.Reflects delay history)
    (shown : now.micros.toNat + delay.micros.toNat < UInt64.size) :
    pending.trigger device now = .full ↔
      (∀ earlier, ¬ Waits delay history device earlier) ∧ OthersFill delay history device := by
  obtain ⟨deadline, after⟩ := reflects.exists_deadline shown
  have inserted : pending.trigger device now = .full ↔
      pending.deadlines.insert? device deadline = none := by
    simp only [trigger, after]
    cases pending.deadlines.insert? device deadline <;> simp
  rw [inserted, BoundedMap.insert?_eq_none_iff, reflects.mem_keys_iff, not_exists]
  exact and_congr_right fun new => (reflects.othersFill_iff new).symm

theorem trigger (reflects : pending.Reflects delay history)
    (triggered : pending.trigger device now = .waiting deadline moved) :
    deadline.micros.toNat = now.micros.toNat + delay.micros.toNat ∧
      moved.Reflects delay (history ++ [.triggered device now (.ok deadline)]) := by
  obtain ⟨shows, sameDelay, deadlines⟩ := of_trigger_eq_waiting triggered
  rw [reflects.sameDelay] at shows
  have delayed := Instant.toNat_of_after?_eq_some shows
  refine ⟨delayed, sameDelay.trans reflects.sameDelay, fun other later => ?_⟩
  rw [deadlines, waits_accepted_iff delayed, ← reflects.waits]
  by_cases same : other = device
  · simp [same, eq_comm]
  · simp [same]

theorem drain (reflects : pending.Reflects delay history) (now : Instant) (devices : List Address) :
    (pending.drain now).2.Reflects delay (history ++ [.drained now devices]) := by
  refine ⟨reflects.sameDelay, fun device deadline => ?_⟩
  rw [deadlineOf?_drain, Option.filter_eq_some_iff, reflects.waits, waits_drained_iff,
    decide_eq_true_iff]

end Reflects

theorem perform_lawful (lawful : Lawful delay history) (reflects : pending.Reflects delay history)
    (call : Call) (inRange : call.InRange delay) :
    ∃ use next, pending.perform call = .ok (use, next) ∧ use.call = call ∧
      Lawful delay (history ++ [use]) ∧ next.Reflects delay (history ++ [use]) := by
  cases call with
  | drain now =>
      refine ⟨_, _, rfl, rfl, lawful.drained (pending.due_nodup now) fun device => ?_,
        reflects.drain now _⟩
      refine mem_due_iff.trans ?_
      simp only [reflects.waits]
  | trigger device now =>
      cases triggered : pending.trigger device now with
      | waiting deadline moved =>
          obtain ⟨delayed, follows⟩ := reflects.trigger triggered
          refine ⟨.triggered device now (.ok deadline), moved, ?_, rfl, ?_, follows⟩
          · simp only [perform, triggered]
          · refine lawful.accepted ?_ delayed
            rw [or_iff_not_imp_left, not_exists]
            intro new full
            cases triggered.symm.trans ((reflects.full_iff inRange).mpr ⟨new, full⟩)
      | full =>
          obtain ⟨new, full⟩ := (reflects.full_iff inRange).mp triggered
          refine ⟨.triggered device now (.error .tableFull), pending, ?_, rfl,
            lawful.refused new full, reflects.sameDelay, fun other deadline => ?_⟩
          · simp only [perform, triggered]
          · rw [waits_refused_iff, reflects.waits]
      | overflow cause =>
          obtain ⟨deadline, after⟩ := reflects.exists_deadline inRange
          simp only [PendingConnects.trigger, after] at triggered
          split at triggered <;> cases triggered

theorem run_from (lawful : Lawful delay history) (reflects : pending.Reflects delay history)
    (calls : List Call) (inRange : ∀ call ∈ calls, call.InRange delay) :
    ∃ later last, pending.run calls = .ok (later, last) ∧ later.map Use.call = calls ∧
      Lawful delay (history ++ later) ∧ last.Reflects delay (history ++ later) := by
  induction calls generalizing pending history with
  | nil => exact ⟨[], pending, rfl, rfl, by simpa using lawful, by simpa using reflects⟩
  | cons call rest ih =>
      obtain ⟨now, afterwards⟩ := List.forall_mem_cons.mp inRange
      obtain ⟨use, next, performed, same, nextLawful, follows⟩ :=
        perform_lawful lawful reflects call now
      obtain ⟨later, last, ran, calls, lastLawful, lastFollows⟩ := ih nextLawful follows afterwards
      refine ⟨use :: later, last, ?_, by simp [same, calls], by simpa using lastLawful,
        by simpa using lastFollows⟩
      simp only [run, performed, ran]
      rfl

/-- What a history leaves, told by whom it leaves waiting, and what the next call would do. -/
structure KeepsDeadlines (pending : PendingConnects) (delay : Duration) (history : List Use) :
    Prop where
  deadlines : ∀ device deadline,
    pending.deadlineOf? device = some deadline ↔ Waits delay history device deadline
  contains : ∀ device,
    pending.contains device = true ↔ ∃ deadline, Waits delay history device deadline
  size : ∃ devices : List Address, devices.Nodup ∧ devices.length = pending.size ∧
    ∀ device, device ∈ devices ↔ ∃ deadline, Waits delay history device deadline
  atMost : pending.size ≤ 8
  earliest : ∀ deadline, pending.earliestDeadline? = some deadline ↔
    (∃ device, Waits delay history device deadline) ∧
      ∀ device other, Waits delay history device other → deadline ≤ other
  idle : pending.earliestDeadline? = none ↔ ∀ device deadline, ¬ Waits delay history device deadline
  refuses : ∀ device now, now.micros.toNat + delay.micros.toNat < UInt64.size →
    (pending.trigger device now = .full ↔
      (∀ earlier, ¬ Waits delay history device earlier) ∧ OthersFill delay history device)
  unchanged : ∀ device now, pending.trigger device now = .full →
    pending.perform (.trigger device now) = .ok (.triggered device now (.error .tableFull), pending)
  kept : ∀ now device deadline, (pending.drain now).2.deadlineOf? device = some deadline ↔
    Waits delay history device deadline ∧ now < deadline

private theorem Reflects.keepsDeadlines (reflects : pending.Reflects delay history) :
    pending.KeepsDeadlines delay history where
  deadlines := reflects.waits
  contains device := BoundedMap.contains_iff.trans reflects.mem_keys_iff
  size := ⟨pending.deadlines.keys, pending.deadlines.keys_nodup, pending.deadlines.length_keys,
    fun _ => reflects.mem_keys_iff⟩
  atMost := pending.deadlines.size_le
  earliest deadline := by simp only [earliestDeadline?_eq_some_iff, reflects.waits]
  idle := by
    rw [earliestDeadline?_eq_none_iff]
    simp only [Option.eq_none_iff_forall_ne_some, ne_eq, reflects.waits]
  refuses _ _ := reflects.full_iff
  unchanged device now full := by simp only [perform, full]
  kept now device deadline := by
    rw [(reflects.drain now []).waits, waits_drained_iff]

/-- Whatever is triggered and drained, at whatever times: every call is answered as eight
timers would, and what waits is what they would have left. -/
theorem run_debounces (delay : Duration) (calls : List Call)
    (inRange : ∀ call ∈ calls, call.InRange delay) :
    ∃ history last, (empty delay).run calls = .ok (history, last) ∧
      history.map Use.call = calls ∧ Lawful delay history ∧ last.KeepsDeadlines delay history := by
  have nobody : ∀ device deadline, ¬ Waits delay [] device deadline := by
    intro device deadline waits
    obtain ⟨before, now, after, split, _⟩ := waits
    simp at split
  have start : (empty delay).Reflects delay [] :=
    ⟨rfl, fun device deadline => iff_of_false nofun (nobody device deadline)⟩
  obtain ⟨later, last, ran, asked, lawful, reflects⟩ := run_from .nil start calls inRange
  exact ⟨later, last, ran, asked, lawful, reflects.keepsDeadlines⟩

section Sample

open Simulation

/-- Eight devices fill the map at falling times, a ninth is turned away, and the first one
moves its deadline. Of the others the first, the fourth and the last are due next. -/
def fillAndDrain : List Call :=
  [.trigger (sampleAddress 1) ⟨10⟩, .trigger (sampleAddress 2) ⟨90⟩,
    .trigger (sampleAddress 3) ⟨80⟩, .trigger (sampleAddress 4) ⟨20⟩,
    .trigger (sampleAddress 5) ⟨70⟩, .trigger (sampleAddress 6) ⟨60⟩,
    .trigger (sampleAddress 7) ⟨50⟩, .trigger (sampleAddress 8) ⟨0⟩,
    .trigger (sampleAddress 9) ⟨0⟩, .trigger (sampleAddress 1) ⟨15⟩,
    .drain ⟨70⟩, .trigger (sampleAddress 9) ⟨5⟩, .drain ⟨30⟩]

theorem run_debounces_of_fillAndDrain :
    (∀ call ∈ fillAndDrain, call.InRange ⟨50⟩) ∧
    ∃ history last, (empty ⟨50⟩).run fillAndDrain = .ok (history, last) ∧
      history.map Use.call = fillAndDrain ∧ Lawful ⟨50⟩ history ∧
      last.KeepsDeadlines ⟨50⟩ history ∧
      history[8]? = some (.triggered (sampleAddress 9) ⟨0⟩ (.error .tableFull)) ∧
      history[10]? =
        some (.drained ⟨70⟩ [sampleAddress 1, sampleAddress 4, sampleAddress 8]) ∧
      history[12]? = some (.drained ⟨30⟩ []) ∧ last.earliestDeadline? = some ⟨55⟩ := by
  have inRange : ∀ call ∈ fillAndDrain, call.InRange ⟨50⟩ := by
    simp [fillAndDrain, Call.InRange, UInt64.size]
  obtain ⟨history, last, ran, asked, lawful, keeps⟩ := run_debounces ⟨50⟩ fillAndDrain inRange
  have answers : ((empty ⟨50⟩).run fillAndDrain).map
      (fun both => (both.1[8]?, both.1[10]?, both.1[12]?, both.2.earliestDeadline?)) =
        .ok (some (.triggered (sampleAddress 9) ⟨0⟩ (.error .tableFull)),
          some (.drained ⟨70⟩ [sampleAddress 1, sampleAddress 4, sampleAddress 8]),
          some (.drained ⟨30⟩ []), some ⟨55⟩) := by
    rfl
  rw [ran] at answers
  simp only [Except.map, Except.ok.injEq, Prod.mk.injEq] at answers
  exact ⟨inRange, history, last, ran, asked, lawful, keeps, answers⟩

end Sample

end AudioHost.PendingConnects
