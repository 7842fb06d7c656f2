import AudioHost.Simulation.Registry
import AudioHost.Simulation.Stack

/-!
# Sample stacks and packages

Stacks whose devices are bonded audio sinks that accept whatever they are asked.
They differ in what the devices report. Packages of every standing, with a role for
some of them.
-/

set_option autoImplicit false

namespace AudioHost.Simulation

/-- Addresses that differ in the last octet. -/
def sampleAddress (last : UInt8) : Address := ⟨[0, 0, 0, 0, 0, last], rfl⟩

/-- An obliging sink under a path, with the state that it reports. -/
def sampleSink (path : String) (address : Address) (report : String) : Device where
  path
  address
  hasPath := true
  resolves := true
  serviceUuids := some [ServiceClass.audioSink.uuid]
  properties := (SinkProperty.ofTexts? SinkProperty.stateName report).map ([·])
  acceptsConnect := true
  acceptsDisconnect := true

/-- A stack that is on and has bonded with some devices. -/
def sampleStack (devices : List Device) : Stack := ⟨true, devices, none, .empty, false⟩

/-- The answers of a stack whose only sink reports a state. -/
def oneSink (report : String) : Collaborators :=
  (sampleStack [sampleSink "/a" (sampleAddress 1) report]).answers

/-- The answers of a stack whose only sink is preferred and not connected. -/
def preferredSink : Collaborators :=
  { oneSink "disconnected" with storedPriority := fun _ => some .auto }

/-- The answers of a stack with two sinks that are not connected. -/
def twoSinks : Collaborators :=
  (sampleStack
    [sampleSink "/a" (sampleAddress 1) "disconnected",
      sampleSink "/b" (sampleAddress 2) "disconnected"]).answers

/-- A device under a path reports a state. Both texts have to fit. -/
def sampleReport (path report : String) (pathFits : path.utf8ByteSize ≤ Limits.objectPathBytes)
    (reportFits : report.utf8ByteSize ≤ Limits.propertyValueBytes) : Event :=
  .propertyChanged ⟨path, pathFits⟩ ⟨⟨SinkProperty.stateName, by decide⟩, ⟨report, reportFits⟩⟩

/-- The first sink is on its way up. -/
def reportConnecting : Event := sampleReport "/a" "connecting" (by decide) (by decide)

/-- The first sink plays. -/
def reportPlaying : Event := sampleReport "/a" "playing" (by decide) (by decide)

/-- The first sink is gone. -/
def reportDisconnected : Event := sampleReport "/a" "disconnected" (by decide) (by decide)

/-- The first sink reports a text that names no state. -/
def reportNonsense : Event := sampleReport "/a" "sleeping" (by decide) (by decide)

/-- The first sink is connected, whatever the letter case. -/
def reportConnected : Event := sampleReport "/a" "CONNected" (by decide) (by decide)

/-- The first sink reports the state that only the host knows. -/
def reportDisconnecting : Event := sampleReport "/a" "disconnecting" (by decide) (by decide)

/-- The second sink is connected. -/
def reportSecondConnected : Event := sampleReport "/b" "Connected" (by decide) (by decide)

/-- The second sink is gone. -/
def reportSecondDisconnected : Event := sampleReport "/b" "disconnected" (by decide) (by decide)

/-- The second sink reports a property that does not matter. -/
def reportSecondVolume : Event :=
  .propertyChanged ⟨"/b", by decide⟩ ⟨⟨"Volume", by decide⟩, ⟨"connected", by decide⟩⟩

/-- A host that was just started while the adapter was off. -/
def freshHost : Shell := { Shell.boot with stage := .running (.new {}) ⟨none, .awake⟩ }

/-! ## Packages -/

def callPhone : String := "android.permission.CALL_PHONE"

def recordAudio : String := "android.permission.RECORD_AUDIO"

def killUid : String := "android.permission.KILL_UID"

/-- A part of the system that asks for the same permission twice. -/
def platform : Package where
  name := "android"
  uid := 1000
  targetSdk := 23
  system := true
  privileged := false
  persistent := false
  updatedSystem := false
  requested := [recordAudio, killUid, recordAudio]

/-- A dialer that came with the system and was updated since. -/
def dialer : Package where
  name := "com.android.dialer"
  uid := 10010
  targetSdk := 23
  system := true
  privileged := false
  persistent := false
  updatedSystem := true
  requested := [recordAudio, killUid]

/-- An installer in a privileged place. -/
def packageInstaller : Package where
  name := "com.android.packageinstaller"
  uid := 10030
  targetSdk := 23
  system := true
  privileged := true
  persistent := false
  updatedSystem := false
  requested := [killUid, callPhone]

/-- Somebody else's dialer. -/
def storeDialer : Package where
  name := "com.store.dialer"
  uid := 10020
  targetSdk := 23
  system := false
  privileged := false
  persistent := false
  updatedSystem := false
  requested := [callPhone]

/-- The user has decided about the dialer and recording. -/
def samplePackages : PackageTable where
  installed := [platform, dialer, packageInstaller, storeDialer]
  names := [platform.name, dialer.name, platform.name, storeDialer.name]
  factory := [{ dialer with requested := [recordAudio, callPhone] }]
  runtime := PackageTable.usualRuntime
  handlers :=
    [(.installer, [storeDialer.name, packageInstaller.name]),
      (.dial, [storeDialer.name, platform.name, dialer.name])]
  provided := [(.voiceInteraction, [dialer.name, storeDialer.name])]
  flags := [(⟨0, dialer.name, recordAudio⟩, .userFixed)]

end AudioHost.Simulation
