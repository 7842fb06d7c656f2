/-!
# Priorities

How much the user wants a device to be connected without being asked.
-/

set_option autoImplicit false

namespace AudioHost

/-- The auto-connect preference of a device. -/
structure Priority where
  level : Int32
  deriving DecidableEq

namespace Priority

/-- Never connect on its own; what a device without a preference has. -/
def off : Priority := ⟨0⟩

/-- Connect when the device shows up; what a device gets when it is bonded. -/
def auto : Priority := ⟨100⟩

/-- Whether a device of this priority may be connected without being asked. -/
def isPreferred (priority : Priority) : Bool := decide (0 < priority.level.toInt)

/-- Priorities are ordered by their levels. -/
instance : Ord Priority := ⟨fun left right => compare left.level.toInt right.level.toInt⟩

/-- The higher of two priorities. -/
instance : Max Priority := ⟨fun left right => if (compare left right).isGT then left else right⟩

end Priority

end AudioHost
