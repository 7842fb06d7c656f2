import AudioHost.Address
import AudioHost.BoundedMap
import AudioHost.Sink.State
import AudioHost.Text.Bounded

/-!
# The sink table

Every tracked device with its last reading, in the order in which the devices
were first tracked.
-/

set_option autoImplicit false

namespace AudioHost

/-- The tracked devices and their readings. -/
abbrev SinkTable := BoundedMap Address Reading Limits.sinkDevices

namespace SinkTable

/-- The state of a device. A device that is not tracked is disconnected. -/
def stateOf (table : SinkTable) (device : Address) : SinkState :=
  match table.get? device with
  | some reading => reading.state
  | none => .disconnected

/-- Whether some tracked device stands in the way of another connection. -/
def isBusy (table : SinkTable) : Bool :=
  table.values.any fun reading => reading.state.isBusy

/-- The devices that audio reaches, in table order. -/
def connected (table : SinkTable) : List Address :=
  (table.entries.filter fun entry => entry.2.state.isUp).map Prod.fst

/-! ## The diagnostic listing -/

/-- One line per device: the address, a blank, the name of the reading. -/
def listingLine (entry : Address × Reading) : List String :=
  [entry.1.toText, " ", entry.2.name, "\n"]

/-- The pieces in which the listing is written: a heading and a line per device,
or nothing at all for an empty table. -/
def listingPieces (table : SinkTable) : List String :=
  if table.isEmpty then []
  else "Cached audio devices:\n" :: table.entries.flatMap listingLine

/-- The listing as one text. -/
def listing (table : SinkTable) : String := String.join table.listingPieces

/-- Writes the listing where `room` bytes are left. The answer says whether it was
written to the end. -/
def writeListing (table : SinkTable) (room : Nat) : BoundedText room × Bool :=
  BoundedText.empty.write table.listingPieces

end SinkTable

end AudioHost
