import AudioHost.Address
import AudioHost.BoundedMap
import AudioHost.Limits
import AudioHost.Time

/-!
# Pending automatic connects

A preferred device that shows up is connected only after a delay. Each device has
at most one deadline: a new trigger moves it.
-/

set_option autoImplicit false

namespace AudioHost

/-- The devices that wait for their automatic connect, with their deadlines. -/
structure PendingConnects where
  /-- The time between a trigger and its deadline. -/
  delay : Duration
  deadlines : BoundedMap Address Instant Limits.sinkDevices
  deriving DecidableEq

namespace PendingConnects

/-- No device waits. -/
def empty (delay : Duration) : PendingConnects := ⟨delay, .empty⟩

/-- The number of waiting devices. -/
def size (pending : PendingConnects) : Nat := pending.deadlines.size

/-- Whether no device waits. -/
def isEmpty (pending : PendingConnects) : Bool := pending.deadlines.isEmpty

/-- Whether a device waits. -/
def contains (pending : PendingConnects) (device : Address) : Bool :=
  pending.deadlines.contains device

/-- The deadline of a device, if it waits. -/
def deadlineOf? (pending : PendingConnects) (device : Address) : Option Instant :=
  pending.deadlines.get? device

/-- The deadline that comes first. -/
def earliestDeadline? (pending : PendingConnects) : Option Instant :=
  Instant.earliest? pending.deadlines.values

/-- What becomes of a trigger. -/
inductive Triggered where
  /-- The device waits for a deadline. -/
  | waiting (deadline : Instant) (pending : PendingConnects)
  /-- The device is new and all places are taken. -/
  | full
  /-- The clock cannot show the deadline. -/
  | overflow (cause : ClockOverflow)

/-- Sets or moves the deadline of a device. The deadline is computed before
anything else is looked at. -/
def trigger (pending : PendingConnects) (device : Address) (now : Instant) : Triggered :=
  match now.after? pending.delay with
  | none => .overflow .beyondLastReading
  | some deadline =>
      match pending.deadlines.insert? device deadline with
      | none => .full
      | some deadlines => .waiting deadline { pending with deadlines }

/-- The devices whose deadline has come, in the order of the entries. -/
def due (pending : PendingConnects) (now : Instant) : List Address :=
  (pending.deadlines.entries.filter fun entry => decide (entry.2 ≤ now)).map Prod.fst

/-- Lists the due devices and then forgets them one by one. -/
def drain (pending : PendingConnects) (now : Instant) : List Address × PendingConnects :=
  (pending.due now,
    { pending with
      deadlines := (pending.due now).foldl BoundedMap.erase pending.deadlines })

end PendingConnects

end AudioHost
