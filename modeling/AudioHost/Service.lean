import AudioHost.Text.HexDigit

/-!
# Service classes

A remote device advertises what it can do as a list of 128-bit service UUIDs. A
service class has a 16-bit number; its UUID is the base UUID with that number in
the low half of the first word.
-/

set_option autoImplicit false

namespace AudioHost

/-- A 128-bit service UUID. -/
structure Uuid where
  bits : BitVec 128
  deriving DecidableEq

/-- The audio service classes. -/
inductive ServiceClass where
  | headset
  | audioSource
  | audioSink
  | avRemoteControlTarget
  | advancedAudioDistribution
  | avRemoteControl
  | handsFree
  | handsFreeAudioGateway
  deriving DecidableEq

/-- The UUID whose number is zero. -/
def Uuid.base : Uuid := ⟨0x0000000000001000800000805F9B34FB⟩

namespace ServiceClass

/-- Every class, in the order of the numbers. -/
def all : List ServiceClass :=
  [.headset, .audioSource, .audioSink, .avRemoteControlTarget, .advancedAudioDistribution,
    .avRemoteControl, .handsFree, .handsFreeAudioGateway]

/-- The assigned number. -/
def number : ServiceClass → BitVec 16
  | headset => 0x1108
  | audioSource => 0x110A
  | audioSink => 0x110B
  | avRemoteControlTarget => 0x110C
  | advancedAudioDistribution => 0x110D
  | avRemoteControl => 0x110E
  | handsFree => 0x111E
  | handsFreeAudioGateway => 0x111F

/-- The UUID of the class. -/
def uuid (serviceClass : ServiceClass) : Uuid :=
  ⟨Uuid.base.bits ||| (serviceClass.number.setWidth 128 <<< 96)⟩

end ServiceClass

namespace Uuid

/-- Whether this is the UUID of a class. -/
def denotes (uuid : Uuid) (serviceClass : ServiceClass) : Bool :=
  decide (uuid = serviceClass.uuid)

/-- The device can play audio that is sent to it. -/
def playsAudio (uuid : Uuid) : Bool := uuid.denotes .audioSink

/-- The device can send audio. -/
def sendsAudio (uuid : Uuid) : Bool := uuid.denotes .audioSource

/-- The device takes part in audio distribution without naming a direction. -/
def distributesAudio (uuid : Uuid) : Bool := uuid.denotes .advancedAudioDistribution

/-- The device has some role in audio distribution. -/
def hasAudioRole (uuid : Uuid) : Bool :=
  uuid.playsAudio || uuid.sendsAudio || uuid.distributesAudio

/-- Reads up to 32 hexadecimal digits. -/
def ofText? (text : String) : Option Uuid :=
  if text.length ≤ 32 then (Text.hexNumber? text.toList).map fun number => ⟨BitVec.ofNat 128 number⟩
  else none

/-- Writes 32 lower-case hexadecimal digits. -/
def toText (uuid : Uuid) : String := uuid.bits.toHex

end Uuid

end AudioHost
