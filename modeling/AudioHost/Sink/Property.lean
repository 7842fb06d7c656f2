import AudioHost.Limits
import AudioHost.Sink.State
import AudioHost.Text.Bounded

/-!
# Sink properties

The stack describes a sink by named properties. Only the one called `State` says
how the sink is connected.
-/

set_option autoImplicit false

namespace AudioHost

/-- The path under which the stack knows a remote device. -/
abbrev ObjectPath := BoundedText Limits.objectPathBytes

/-- A property of a sink with its value. -/
structure SinkProperty where
  name : BoundedText Limits.propertyNameBytes
  value : BoundedText Limits.propertyValueBytes
  deriving DecidableEq

namespace SinkProperty

/-- The name of the property that tells the connection state. -/
def stateName : String := "State"

/-- The property of that name and value, provided both fit. -/
def ofTexts? (name value : String) : Option SinkProperty :=
  match BoundedText.ofString? name, BoundedText.ofString? value with
  | some name, some value => some ⟨name, value⟩
  | _, _ => none

/-- Whether the property tells the connection state. Letter case matters here. -/
def tellsState (property : SinkProperty) : Bool := property.name.text == stateName

/-- The reading of a sink: its first `State` property decides, and a sink without
one is read as invalid. -/
def reading (properties : List SinkProperty) : Reading :=
  match properties.find? tellsState with
  | some property => Reading.ofReport property.value.text
  | none => .invalid

end SinkProperty

end AudioHost
