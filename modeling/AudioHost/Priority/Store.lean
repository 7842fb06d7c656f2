import AudioHost.Address
import AudioHost.BoundedMap
import AudioHost.Limits
import AudioHost.Priority
import AudioHost.Text.Bounded

/-!
# The in-memory priority store

Priorities are kept as a settings database would keep them: under a key that is
built from the written address of the device.
-/

set_option autoImplicit false

namespace AudioHost

/-- The key of a setting. -/
abbrev SettingsKey := BoundedText Limits.settingsKeyBytes

/-- What the settings keys of all priorities begin with. -/
def settingsKeyStem : String := "bluetooth_a2dp_sink_priority_"

/-- The settings key of a device, as much of it as the key has room for. -/
def settingsKey (device : Address) : SettingsKey :=
  (BoundedText.empty.write [settingsKeyStem, device.toText]).1

/-- Priorities by settings key. -/
structure PriorityStore where
  settings : BoundedMap SettingsKey Priority Limits.storedPriorities
  deriving DecidableEq

namespace PriorityStore

/-- The store in which nothing was ever kept. -/
def empty : PriorityStore := ⟨.empty⟩

/-- The number of devices with a stored priority. -/
def size (store : PriorityStore) : Nat := store.settings.size

/-- Whether no device has a stored priority. -/
def isEmpty (store : PriorityStore) : Bool := store.settings.isEmpty

/-- The stored priority of a device. -/
def get? (store : PriorityStore) (device : Address) : Option Priority :=
  store.settings.get? (settingsKey device)

/-- Stores the priority of a device. A device that is new to a full store is refused. -/
def set? (store : PriorityStore) (device : Address) (priority : Priority) :
    Option PriorityStore :=
  (store.settings.insert? (settingsKey device) priority).map fun settings => ⟨settings⟩

end PriorityStore

end AudioHost
