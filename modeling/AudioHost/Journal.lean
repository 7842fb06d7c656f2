import AudioHost.Priority
import AudioHost.Sink.Property
import AudioHost.Sink.Table

/-!
# Effects and the journal

What the host does to others, in the order in which it does it. Each journal entry
also keeps the sink table as it stood when the effect took place, so that the
journal alone tells what the host knew when it acted.
-/

set_option autoImplicit false

namespace AudioHost

/-- One act upon the collaborators. -/
inductive Effect where
  /-- The stack is asked to connect a device at its path. -/
  | connect (device : Address) (path : ObjectPath) (accepted : Bool)
  /-- The stack is asked to disconnect a device at its path. -/
  | disconnect (device : Address) (path : ObjectPath) (accepted : Bool)
  /-- The store is asked to keep a priority. -/
  | storePriority (device : Address) (priority : Priority) (accepted : Bool)
  /-- Listeners learn that a sink changed state. -/
  | stateChanged (device : Address) (previous current : SinkState)
  /-- Listeners learn that a connected sink is going away. -/
  | becomingNoisy
  /-- The audio system learns whether the adapter carries audio. -/
  | audioEnabled (enabled : Bool)
  deriving DecidableEq

/-- An effect together with the sink table at that moment. -/
structure JournalEntry where
  effect : Effect
  table : SinkTable
  deriving DecidableEq

/-- What an operation comes to: its result, the state it leaves and its journal. -/
structure Outcome (State Result : Type) where
  result : Result
  state : State
  journal : List JournalEntry

namespace Outcome

variable {State Result Next Item : Type}

/-- The effects in order. -/
def effects (outcome : Outcome State Result) : List Effect :=
  outcome.journal.map JournalEntry.effect

/-- A result that leaves the state alone and does nothing. -/
def quiet (result : Result) (state : State) : Outcome State Result := ⟨result, state, []⟩

/-- The same outcome with another result. -/
def map (change : Result → Next) (outcome : Outcome State Result) : Outcome State Next :=
  ⟨change outcome.result, outcome.state, outcome.journal⟩

/-- Goes on from the result and the state of a first operation. -/
def andThen (first : Outcome State Result) (next : Result → State → Outcome State Next) :
    Outcome State Next :=
  let second := next first.result first.state
  ⟨second.result, second.state, first.journal ++ second.journal⟩

/-- Performs an operation for each item in turn. -/
def forEach (operation : State → Item → Outcome State Unit) :
    List Item → State → Outcome State Unit
  | [], state => quiet () state
  | item :: rest, state =>
      (operation state item).andThen fun _ next => forEach operation rest next

@[simp] theorem effects_quiet (result : Result) (state : State) :
    (quiet result state).effects = [] := rfl

@[simp] theorem effects_map (change : Result → Next) (outcome : Outcome State Result) :
    (outcome.map change).effects = outcome.effects := rfl

@[simp] theorem effects_andThen (first : Outcome State Result)
    (next : Result → State → Outcome State Next) :
    (first.andThen next).effects =
      first.effects ++ (next first.result first.state).effects :=
  List.map_append

end Outcome

end AudioHost
