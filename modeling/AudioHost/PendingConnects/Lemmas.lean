import AudioHost.BoundedMap.Lemmas
import AudioHost.PendingConnects

/-!
# Laws of pending automatic connects

What a trigger and a batch do to the deadline of each device, and how the earliest
deadline tells whether anything is due.
-/

set_option autoImplicit false

namespace AudioHost

/-- A history is taken apart either at its last entry or before it. -/
theorem concat_eq_append_cons_iff {Entry : Type} {history before after : List Entry}
    {last pivot : Entry} :
    history ++ [last] = before ++ pivot :: after ↔
      (after = [] ∧ history = before ∧ last = pivot) ∨
        ∃ front, after = front ++ [last] ∧ history = before ++ pivot :: front := by
  constructor
  · intro split
    cases List.eq_nil_or_concat after with
    | inl empty =>
        subst empty
        obtain ⟨rfl, same⟩ := List.append_inj' split rfl
        exact .inl ⟨rfl, rfl, (List.cons.inj same).1⟩
    | inr nonempty =>
        obtain ⟨front, final, rfl⟩ := nonempty
        rw [List.concat_eq_append, ← List.cons_append, ← List.append_assoc] at split
        obtain ⟨rfl, same⟩ := List.append_inj' split rfl
        obtain ⟨rfl, _⟩ := List.cons.inj same
        exact .inr ⟨front, List.concat_eq_append, rfl⟩
  · intro parts
    obtain ⟨rfl, rfl, rfl⟩ | ⟨front, rfl, rfl⟩ := parts <;> simp

namespace PendingConnects

variable {pending moved : PendingConnects} {device other : Address} {now deadline : Instant}

/-! ## Triggers -/

theorem of_trigger_eq_waiting (triggered : pending.trigger device now = .waiting deadline moved) :
    now.after? pending.delay = some deadline ∧ moved.delay = pending.delay ∧
      ∀ other, moved.deadlineOf? other =
        if other = device then some deadline else pending.deadlineOf? other := by
  unfold trigger at triggered
  split at triggered
  · cases triggered
  · next reached shows =>
      split at triggered
      · cases triggered
      · next deadlines taken =>
          cases triggered
          exact ⟨shows, rfl, BoundedMap.get?_of_insert?_eq_some taken⟩

/-- The deadline is computed before the places are looked at, so it does not matter who
waits. -/
theorem trigger_eq_overflow_iff {cause : ClockOverflow} :
    pending.trigger device now = .overflow cause ↔ now.after? pending.delay = none := by
  unfold trigger
  cases now.after? pending.delay with
  | none => simp
  | some deadline =>
      simp only [reduceCtorEq, iff_false]
      cases pending.deadlines.insert? device deadline <;> simp

/-! ## Batches -/

theorem mem_due_iff :
    device ∈ pending.due now ↔
      ∃ deadline, pending.deadlineOf? device = some deadline ∧ deadline ≤ now := by
  unfold due deadlineOf?
  rw [List.mem_map]
  constructor
  · rintro ⟨entry, selected, rfl⟩
    obtain ⟨member, reached⟩ := List.mem_filter.mp selected
    exact ⟨entry.2, BoundedMap.get?_eq_some_iff.mpr member, of_decide_eq_true reached⟩
  · rintro ⟨deadline, found, reached⟩
    have member := BoundedMap.get?_eq_some_iff.mp found
    exact ⟨(device, deadline), List.mem_filter.mpr ⟨member, decide_eq_true reached⟩, rfl⟩

theorem due_nodup (pending : PendingConnects) (now : Instant) : (pending.due now).Nodup :=
  pending.deadlines.distinct.sublist (List.filter_sublist.map Prod.fst)

@[simp] theorem delay_drain (pending : PendingConnects) (now : Instant) :
    (pending.drain now).2.delay = pending.delay := rfl

theorem deadlineOf?_drain_eq_ite (pending : PendingConnects) (now : Instant) (device : Address) :
    (pending.drain now).2.deadlineOf? device =
      if device ∈ pending.due now then none else pending.deadlineOf? device :=
  BoundedMap.get?_foldl_erase pending.deadlines (pending.due now) device

theorem deadlineOf?_drain (pending : PendingConnects) (now : Instant) (device : Address) :
    (pending.drain now).2.deadlineOf? device =
      (pending.deadlineOf? device).filter fun deadline => decide (now < deadline) := by
  rw [deadlineOf?_drain_eq_ite]
  cases found : pending.deadlineOf? device with
  | none => simp
  | some deadline =>
      have due : device ∈ pending.due now ↔ deadline ≤ now := by simp [mem_due_iff, found]
      by_cases reached : deadline ≤ now
      · have notLater := Instant.not_lt.mpr reached
        simp [due, reached, Option.filter_some, notLater]
      · have later := Instant.not_le.mp reached
        simp [due, reached, Option.filter_some, later]

/-! ## The earliest deadline -/

private theorem of_earliestDeadline?_eq_some
    (earliest : pending.earliestDeadline? = some deadline) :
    (∃ device, pending.deadlineOf? device = some deadline) ∧
      ∀ device other, pending.deadlineOf? device = some other → deadline ≤ other := by
  obtain ⟨member, lowest⟩ := Instant.of_earliest?_eq_some earliest
  constructor
  · obtain ⟨device, entry⟩ := BoundedMap.mem_values_iff.mp member
    exact ⟨device, BoundedMap.get?_eq_some_iff.mpr entry⟩
  · intro device other found
    exact lowest other
      (BoundedMap.mem_values_iff.mpr ⟨device, BoundedMap.get?_eq_some_iff.mp found⟩)

/-- After a batch every deadline is ahead. -/
theorem lt_of_earliestDeadline?_drain
    (earliest : (pending.drain now).2.earliestDeadline? = some deadline) : now < deadline := by
  obtain ⟨⟨device, found⟩, _⟩ := of_earliestDeadline?_eq_some earliest
  rw [deadlineOf?_drain, Option.filter_eq_some_iff] at found
  exact of_decide_eq_true found.2

theorem earliestDeadline?_eq_none_iff :
    pending.earliestDeadline? = none ↔ ∀ device, pending.deadlineOf? device = none := by
  unfold earliestDeadline? deadlineOf?
  rw [Instant.earliest?_eq_none_iff, BoundedMap.values, List.map_eq_nil_iff]
  simp only [BoundedMap.get?_eq_none_iff, BoundedMap.keys]
  constructor
  · intro empty device
    simp [empty]
  · intro absent
    exact List.eq_nil_iff_forall_not_mem.mpr fun entry member =>
      absent entry.1 (List.mem_map_of_mem member)

theorem earliestDeadline?_eq_some_iff :
    pending.earliestDeadline? = some deadline ↔
      (∃ device, pending.deadlineOf? device = some deadline) ∧
        ∀ device other, pending.deadlineOf? device = some other → deadline ≤ other := by
  constructor
  · exact of_earliestDeadline?_eq_some
  · intro first
    obtain ⟨⟨device, found⟩, lowest⟩ := first
    cases earliest : pending.earliestDeadline? with
    | none => cases found.symm.trans (earliestDeadline?_eq_none_iff.mp earliest device)
    | some other =>
        obtain ⟨⟨holder, held⟩, otherLowest⟩ := of_earliestDeadline?_eq_some earliest
        have same := Instant.le_antisymm (otherLowest device deadline found) (lowest holder other held)
        rw [same]

end PendingConnects

end AudioHost
