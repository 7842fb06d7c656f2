import AudioHost.Manager.Operation
import AudioHost.Priority.Store
import AudioHost.Shell.Deployment

/-!
# A manager with an in-memory priority store

The store is part of the world. It may turn down any write; what it accepts, it keeps.
The other collaborators answer as they like, and differently from one operation to the
next.
-/

set_option autoImplicit false

namespace AudioHost

/-- The in-memory store among other collaborators. What these say about stored priorities
does not count; whether they accept a write says whether the store is willing. -/
structure Keeper where
  store : PriorityStore
  others : Collaborators

namespace Keeper

/-- Whether the store takes a write: it has to be willing and to have room. -/
def accepts (keeper : Keeper) (device : Address) (priority : Priority) : Bool :=
  keeper.others.acceptsPriority device priority && (keeper.store.set? device priority).isSome

def answers (keeper : Keeper) : Collaborators :=
  { keeper.others with
    storedPriority := keeper.store.get?
    acceptsPriority := keeper.accepts }

/-- The store keeps an accepted priority. Nothing else concerns it. -/
def absorb (keeper : Keeper) : Effect → Keeper
  | .storePriority device priority true =>
      { keeper with store := (keeper.store.set? device priority).getD keeper.store }
  | .storePriority _ _ false | .connect .. | .disconnect .. | .stateChanged ..
  | .becomingNoisy | .audioEnabled _ => keeper

instance : World Keeper := ⟨answers, absorb⟩

end Keeper

namespace Deployment

/-- From now on the other collaborators answer like this. -/
def facing (deployment : Deployment Manager Keeper) (others : Collaborators) :
    Deployment Manager Keeper :=
  { deployment with world := { deployment.world with others } }

/-- Performs an operation of the manager in its world. -/
def perform {Surroundings : Type} [World Surroundings]
    (deployment : Deployment Manager Surroundings) (operation : Operation) :
    Outcome (Deployment Manager Surroundings) Reply :=
  deployment.operate fun answers manager => manager.perform answers operation

/-- Performs operations in turn, each among the collaborators of its time. -/
def run (deployment : Deployment Manager Keeper) :
    List (Collaborators × Operation) → Outcome (Deployment Manager Keeper) (List Reply)
  | [] => .quiet [] deployment
  | (others, operation) :: rest =>
      ((deployment.facing others).perform operation).andThen fun reply next =>
        (next.run rest).map (reply :: ·)

end Deployment

end AudioHost
