import AudioHost.Manager.Basic
import AudioHost.Message

/-!
# Stored priorities

A priority changes when a caller stores one or when bonding with a device changes.
-/

set_option autoImplicit false

namespace AudioHost.Manager

/-- Stores a priority for the device that a text denotes. -/
def storePriority (manager : Manager) (answers : Collaborators) (address : String)
    (priority : Priority) : Outcome Manager (Except Refusal Unit) :=
  match Address.ofText? address with
  | none => .quiet (.error .invalidAddress) manager
  | some device =>
      (manager.emit
          (.storePriority device priority (answers.acceptsPriority device priority))).map
        fun _ =>
          if answers.acceptsPriority device priority then .ok () else .error .storeFailed

/-- Bonding with a device changed: a bonded device becomes a candidate for automatic
connects, any other stops being one. A text that denotes no device and a rejected
write are passed over. -/
def bondChanged (manager : Manager) (answers : Collaborators) (address : String)
    (state : BondState) : Outcome Manager Unit :=
  (manager.storePriority answers address state.priority).map fun _ => ()

end AudioHost.Manager
