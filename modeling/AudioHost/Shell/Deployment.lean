import AudioHost.Shell.Call
import AudioHost.Shell.Worker

/-!
# Deployments

A deployment puts the host or the manager alone into a world that answers its
queries and takes in its effects. Between two operations the world may have changed;
during one operation it answers from one state.
-/

set_option autoImplicit false

namespace AudioHost

/-- A world around the host. -/
class World (Surroundings : Type) where
  /-- The answers that the world gives now. -/
  answers : Surroundings → Collaborators
  /-- The world after an effect. -/
  absorb : Surroundings → Effect → Surroundings

/-- A host or manager in its world. -/
structure Deployment (System Surroundings : Type) where
  system : System
  world : Surroundings
  deriving DecidableEq

namespace Deployment

variable {System Surroundings Result : Type} [World Surroundings]

/-- Takes an outcome of the system back into the deployment. -/
def takeIn (deployment : Deployment System Surroundings)
    (outcome : Outcome System Result) : Outcome (Deployment System Surroundings) Result :=
  { result := outcome.result
    state := ⟨outcome.state, outcome.effects.foldl World.absorb deployment.world⟩
    journal := outcome.journal }

/-- Performs an operation of the system with the answers of the world. -/
def operate (deployment : Deployment System Surroundings)
    (operation : Collaborators → System → Outcome System Result) :
    Outcome (Deployment System Surroundings) Result :=
  deployment.takeIn (operation (World.answers deployment.world) deployment.system)

/-! ## The host in its world -/

/-- Lets the workers take up to a number of steps, until all of them wait or one
of them stops the host by a clock overflow. -/
def runWorkers : Nat → Deployment Shell Surroundings →
    Outcome (Deployment Shell Surroundings) (Except ClockOverflow Unit)
  | 0, deployment => .quiet (.ok ()) deployment
  | steps + 1, deployment =>
      match deployment.system.nextStep? (World.answers deployment.world) with
      | none => .quiet (.ok ()) deployment
      | some progress =>
          (deployment.takeIn progress).andThen fun stepped next =>
            match stepped with
            | .ok () => runWorkers steps next
            | .error cause => .quiet (.error cause) next

/-- Lets the workers run until all of them wait. -/
def settle (deployment : Deployment Shell Surroundings) :
    Outcome (Deployment Shell Surroundings) (Except ClockOverflow Unit) :=
  deployment.runWorkers deployment.system.workload

/-- Settles and then returns a result, unless the clock overflows. -/
def settleWith (result : Result) (deployment : Deployment Shell Surroundings) :
    Outcome (Deployment Shell Surroundings) (Except ClockOverflow Result) :=
  deployment.settle.map fun settled => settled.map fun _ => result

/-- Takes a call as far as it goes while the workers rest. `none` says that it
would have to wait; what it queued stays queued. -/
def callAlone (deployment : Deployment Shell Surroundings) (call : Call) :
    Outcome (Deployment Shell Surroundings) (Except ClockOverflow (Option CallEnd)) :=
  let advanced := call.advance deployment.system
  .quiet (.ok advanced.1.toOption) { deployment with system := advanced.2 }

/-- Runs a call and the workers by turns. A call that has not ended after its
turns is given up. -/
def call : Nat → Deployment Shell Surroundings → Call →
    Outcome (Deployment Shell Surroundings) (Except ClockOverflow (Option CallEnd))
  | 0, deployment, _ => .quiet (.ok none) deployment
  | turns + 1, deployment, pending =>
      let advanced := pending.advance deployment.system
      let next : Deployment Shell Surroundings := { deployment with system := advanced.2 }
      match advanced.1 with
      | .ok reached => next.settleWith (some reached)
      | .error rest =>
          next.settle.andThen fun settled rested =>
            match settled with
            | .ok () => call turns rested rest
            | .error cause => .quiet (.error cause) rested

/-! ## What callers do -/

/-- Asks a query and reads the answer. What is no query is refused before anything is
queued. -/
def ask {Answer : Type} (turns : Nat) (deployment : Deployment Shell Surroundings) :
    Except Refusal (Query Answer) →
      Outcome (Deployment Shell Surroundings)
        (Except ClockOverflow (Option (Except Refusal Answer)))
  | .error cause => deployment.settleWith (some (.error cause))
  | .ok query =>
      (deployment.call turns (.ask query.request)).map fun ended =>
        ended.map fun reached => reached.map query.readEnd

/-- Posts an event. What is no event is refused before anything is queued. -/
def post (turns : Nat) (deployment : Deployment Shell Surroundings) :
    Except Refusal Event →
      Outcome (Deployment Shell Surroundings)
        (Except ClockOverflow (Option (Except Refusal Unit)))
  | .error cause => deployment.settleWith (some (.error cause))
  | .ok event =>
      (deployment.call turns (.post event)).map fun ended =>
        ended.map fun reached => reached.map fun _ => .ok ()

end Deployment

end AudioHost
