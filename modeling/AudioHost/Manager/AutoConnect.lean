import AudioHost.Manager.Connection

/-!
# Automatic connects

A preferred sink that connects on some other profile is connected for audio after
a delay. When the delay is over, everything that allowed the attempt is checked
again, and one batch of attempts leads to at most one accepted connect.
-/

set_option autoImplicit false

namespace AudioHost.Manager

/-- A remote device connected on some profile. The answer says whether a deadline
was set or moved. -/
def remoteConnected (manager : Manager) (answers : Collaborators) (device : Address)
    (now : Instant) : Outcome Manager (Except ClockOverflow Bool) :=
  if (answers.priorityOf device).isPreferred && answers.playsAudio device then
    match manager.pending.trigger device now with
    | .waiting _ pending => .quiet (.ok true) { manager with pending }
    | .full => .quiet (.ok false) manager
    | .overflow cause => .quiet (.error cause) manager
  else .quiet (.ok false) manager

/-- Whether a due device may be attempted now. -/
def mayAttempt (manager : Manager) (answers : Collaborators) (device : Address) : Bool :=
  answers.adapterEnabled && (answers.priorityOf device).isPreferred && !manager.isBusy

/-- Attempts devices in turn until one attempt succeeds, and returns its device. -/
def attemptInTurn (answers : Collaborators) :
    List Address → Manager → Outcome Manager (Option Address)
  | [], manager => .quiet none manager
  | device :: rest, manager =>
      if manager.mayAttempt answers device then
        (manager.connect answers device).andThen fun attempted next =>
          match attempted with
          | .ok () => .quiet (some device) next
          | .error _ => attemptInTurn answers rest next
      else attemptInTurn answers rest manager

/-- Fires the automatic connects that are due. Each of them is used up, whether or
not it is attempted. -/
def fireDue (manager : Manager) (answers : Collaborators) (now : Instant) :
    Outcome Manager (Option Address) :=
  attemptInTurn answers (manager.pending.drain now).1
    { manager with pending := (manager.pending.drain now).2 }

end AudioHost.Manager
