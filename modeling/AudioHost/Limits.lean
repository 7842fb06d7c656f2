/-!
# Capacities

Every table, queue and text of the host has a fixed room. Texts are measured in
UTF-8 bytes, everything else in entries.
-/

set_option autoImplicit false

namespace AudioHost.Limits

/-- Room in each of the event, request and response channels. -/
abbrev channelSlots : Nat := 8

/-- Sinks tracked at once; as many automatic connects may be pending. -/
abbrev sinkDevices : Nat := 8

/-- Paths in one listing of the bonded devices. -/
abbrev bondedDevices : Nat := 16

/-- Service UUIDs reported for one remote device. -/
abbrev remoteUuids : Nat := 16

/-- Properties in one reading of a sink. -/
abbrev sinkProperties : Nat := 8

/-- Bytes of an object path. -/
abbrev objectPathBytes : Nat := 64

/-- Bytes of a property name. -/
abbrev propertyNameBytes : Nat := 32

/-- Bytes of a property value. -/
abbrev propertyValueBytes : Nat := 32

/-- Bytes of a written device address: six pairs of digits and five colons. -/
abbrev addressTextBytes : Nat := 17

/-- Bytes of a settings key. -/
abbrev settingsKeyBytes : Nat := 48

/-- Devices whose priority the in-memory store can hold. -/
abbrev storedPriorities : Nat := 16

/-- Milliseconds between a trigger and the automatic connect, unless configured otherwise. -/
abbrev autoConnectDelayMillis : Nat := 6000

/-- Bytes of a package name. -/
abbrev packageNameBytes : Nat := 64

/-- Bytes of a permission name. -/
abbrev permissionNameBytes : Nat := 64

/-- Permissions one package may request. -/
abbrev requestedPermissions : Nat := 32

/-- Packages in one listing. -/
abbrev packages : Nat := 32

/-- Handlers resolved for one intent. -/
abbrev handlers : Nat := 8

end AudioHost.Limits
