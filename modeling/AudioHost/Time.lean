/-!
# Clock readings and delays

Both count microseconds in 64-bit words. Adding a delay to a clock reading is
checked: a sum beyond the last word has no reading.
-/

set_option autoImplicit false

namespace AudioHost

/-- A length of time in microseconds. -/
structure Duration where
  micros : UInt64
  deriving DecidableEq

/-- A reading of the clock, in microseconds since it started. -/
structure Instant where
  micros : UInt64
  deriving DecidableEq

/-- A delay given in milliseconds. -/
def Duration.ofMillis (millis : Nat) : Duration := ⟨UInt64.ofNat (1000 * millis)⟩

namespace Instant

/-- The reading with which the clock starts. -/
def zero : Instant := ⟨0⟩

instance : LE Instant := ⟨fun earlier later => earlier.micros ≤ later.micros⟩

instance (earlier later : Instant) : Decidable (earlier ≤ later) :=
  inferInstanceAs (Decidable (earlier.micros ≤ later.micros))

instance : LT Instant := ⟨fun earlier later => earlier.micros < later.micros⟩

instance (earlier later : Instant) : Decidable (earlier < later) :=
  inferInstanceAs (Decidable (earlier.micros < later.micros))

/-- The reading after a delay, unless the clock cannot show it. -/
def after? (start : Instant) (delay : Duration) : Option Instant :=
  if start.micros.toNat + delay.micros.toNat < UInt64.size then
    some ⟨start.micros + delay.micros⟩
  else none

/-- The earliest of some readings. -/
def earliest? : List Instant → Option Instant
  | [] => none
  | first :: rest =>
      match earliest? rest with
      | none => some first
      | some other => some (if first ≤ other then first else other)

theorem le_refl (reading : Instant) : reading ≤ reading := UInt64.le_refl _

theorem le_trans {first second third : Instant} (before : first ≤ second)
    (upTo : second ≤ third) : first ≤ third :=
  UInt64.le_trans before upTo

theorem le_antisymm {first second : Instant} (before : first ≤ second) (after : second ≤ first) :
    first = second :=
  congrArg Instant.mk (UInt64.le_antisymm before after)

theorem not_le {earlier later : Instant} : ¬ later ≤ earlier ↔ earlier < later :=
  UInt64.not_le

theorem not_lt {earlier later : Instant} : ¬ later < earlier ↔ earlier ≤ later :=
  UInt64.not_lt

theorem after?_eq_none_iff {start : Instant} {delay : Duration} :
    start.after? delay = none ↔ UInt64.size ≤ start.micros.toNat + delay.micros.toNat := by
  unfold after?
  split <;> simp <;> omega

theorem toNat_of_after?_eq_some {start stop : Instant} {delay : Duration}
    (reached : start.after? delay = some stop) :
    stop.micros.toNat = start.micros.toNat + delay.micros.toNat := by
  unfold after? at reached
  split at reached
  · next room =>
      cases reached
      rw [UInt64.toNat_add]
      exact Nat.mod_eq_of_lt room
  · cases reached

theorem earliest?_eq_none_iff {readings : List Instant} :
    earliest? readings = none ↔ readings = [] := by
  cases readings with
  | nil => simp [earliest?]
  | cons first rest =>
      simp only [earliest?]
      split <;> simp

/-- The earliest of some readings is one of them, and none of them comes before it. -/
theorem of_earliest?_eq_some {readings : List Instant} {first : Instant}
    (found : earliest? readings = some first) :
    first ∈ readings ∧ ∀ other ∈ readings, first ≤ other := by
  induction readings generalizing first with
  | nil => cases found
  | cons head rest ih =>
      simp only [earliest?] at found
      split at found
      · next none =>
          cases found
          rw [earliest?_eq_none_iff.mp none]
          exact ⟨List.mem_cons_self, by simpa using le_refl head⟩
      · next other restFound =>
          obtain ⟨member, lowest⟩ := ih restFound
          cases found
          split
          · next headFirst =>
              refine ⟨List.mem_cons_self, List.forall_mem_cons.mpr ⟨le_refl head, ?_⟩⟩
              intro later laterMember
              exact le_trans headFirst (lowest later laterMember)
          · next otherFirst =>
              refine ⟨List.mem_cons_of_mem head member, List.forall_mem_cons.mpr ⟨?_, lowest⟩⟩
              exact UInt64.le_of_lt (not_le.mp otherFirst)

end Instant

/-- A computation asked for a clock reading that the clock cannot show. -/
inductive ClockOverflow where
  | beyondLastReading
  deriving DecidableEq

/-- The text with which the host stops at a clock overflow. -/
def ClockOverflow.message : ClockOverflow → String
  | .beyondLastReading => "overflow when adding duration to instant"

end AudioHost
