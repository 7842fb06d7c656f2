import AudioHost.Proofs.LockStep
import Mathlib.Data.List.Nodup

/-!
# What a commit comes to

A commit takes the previous reading on trust: it may be another one than the table holds.
Still it either does nothing at all or moves the one device, and what it tells is judged by
the reading that it was given.
-/

set_option autoImplicit false

namespace AudioHost

/-! ## One key of a map -/

namespace BoundedMap

variable {Key Value : Type} {capacity : Nat} {map after : BoundedMap Key Value capacity}
  {key : Key} {value : Value}

/-- A key has a value now, in its old place or else behind all others. -/
inductive Places (map : BoundedMap Key Value capacity) (key : Key) (value : Value) :
    BoundedMap Key Value capacity → Prop where
  | inPlace {front back : List (Key × Value)} {old : Value}
      {after : BoundedMap Key Value capacity}
      (found : map.entries = front ++ (key, old) :: back)
      (placed : after.entries = front ++ (key, value) :: back) : Places map key value after
  | atEnd {after : BoundedMap Key Value capacity} (absent : key ∉ map.keys)
      (placed : after.entries = map.entries ++ [(key, value)]) : Places map key value after

private theorem entries_replace_of_split [DecidableEq Key] {front back : List (Key × Value)}
    {old : Value} (found : map.entries = front ++ (key, old) :: back) (value : Value) :
    (map.replace key value).entries = front ++ (key, value) :: back := by
  have distinct := map.distinct
  rw [found, List.map_append, List.map_cons, List.nodup_middle, List.nodup_cons,
    List.mem_append, not_or] at distinct
  show map.entries.map _ = _
  rw [found, List.map_append, List.map_cons, if_pos rfl, map_update_of_not_mem value distinct.1.1,
    map_update_of_not_mem value distinct.1.2]

theorem insert?_eq_some_iff_places [DecidableEq Key] :
    map.insert? key value = some after ↔ map.Places key value after := by
  constructor
  · intro taken
    obtain ⟨present, rfl⟩ | ⟨absent, appended⟩ := entries_of_insert?_eq_some taken
    · obtain ⟨old, member⟩ := mem_keys_iff.mp present
      obtain ⟨front, back, found⟩ := List.append_of_mem member
      exact .inPlace found (entries_replace_of_split found value)
    · exact .atEnd absent appended
  · intro places
    cases places with
    | inPlace found placed =>
        have present : key ∈ map.keys := by simp [keys, found]
        rw [insert?_of_mem value present]
        exact congrArg some (ext_entries ((entries_replace_of_split found value).trans placed.symm))
    | atEnd absent placed =>
        have room := after.within
        rw [placed, List.length_append] at room
        exact (insert?_eq_some_iff_of_not_mem absent).mpr ⟨room, placed⟩

end BoundedMap

/-! ## Commits -/

/-- What listeners hear of a change: nothing if it is none, and a warning first if the sink
goes away. -/
def Effect.heard (device : Address) (previous current : SinkState) : List Effect :=
  if previous = current then []
  else if previous.GoesAway current then
    [.becomingNoisy, .stateChanged device previous current]
  else [.stateChanged device previous current]

private theorem Effect.heard_eq (device : Address) (previous current : SinkState) :
    heard device previous current =
      if previous = current then [] else Manager.announcement device previous current := by
  simp only [heard, Manager.announcement, Manager.losesAudio_iff]

namespace Manager

variable {manager : Manager} {device : Address} {previous : Reading} {current : SinkState}
  {sinks : SinkTable}

/-- The manager and the journal after a commit that was taken. -/
def committed (manager : Manager) (device : Address) (previous : Reading) (current : SinkState)
    (sinks : SinkTable) : Outcome Manager (Except Refusal Unit) where
  result := .ok ()
  state :=
    { manager with
      sinks
      activeCount :=
        (Effect.heard device previous.state current).foldl Effect.recount manager.activeCount }
  journal := (Effect.heard device previous.state current).map fun effect => ⟨effect, sinks⟩

theorem commit_of_taken (news : previous ≠ .known current)
    (taken : manager.sinks.insert? device (.known current) = some sinks) :
    manager.commit device previous current = manager.committed device previous current sinks := by
  have entered : manager.enter? device (.known current) = some { manager with sinks } := by
    rw [enter?, taken]
    rfl
  simp only [commit, if_neg news, entered, committed, Effect.heard_eq]
  by_cases still : previous.state = current
  · simp only [if_pos still]
    rfl
  · simp only [if_neg still, announce, announcement, Outcome.map]
    split <;> rfl

theorem commit_of_full (news : previous ≠ .known current)
    (full : manager.sinks.insert? device (.known current) = none) :
    manager.commit device previous current = .quiet (.error .tableFull) manager := by
  have refused : manager.enter? device (.known current) = none := by
    rw [enter?, full]
    rfl
  simp only [commit, if_neg news, refused]

private theorem ne_known_iff :
    previous ≠ .known current ↔ previous = .invalid ∨ previous.state ≠ current := by
  cases previous with
  | known state => simp
  | invalid => simp

/-- A commit is refused for want of room alone and then does nothing. Otherwise it does
nothing for a device that is said to be there already, or moves it, whatever else the table
says of it. -/
structure CommitsOne (manager : Manager) (device : Address) (previous : Reading)
    (current : SinkState) : Prop where
  refused_iff : (manager.commit device previous current).result = .error .tableFull ↔
    device ∉ manager.sinks.keys ∧ manager.sinks.size = Limits.sinkDevices ∧
      (previous = .invalid ∨ previous.state ≠ current)
  refused : ∀ cause, (manager.commit device previous current).result = .error cause →
    manager.commit device previous current = .quiet (.error .tableFull) manager
  accepted : (manager.commit device previous current).result = .ok () →
    (previous = .known current ∧
      manager.commit device previous current = .quiet (.ok ()) manager) ∨
    (previous ≠ .known current ∧ ∃ sinks, manager.sinks.Places device (.known current) sinks ∧
      manager.commit device previous current =
        manager.committed device previous current sinks)

theorem commit_moves_one (manager : Manager) (device : Address) (previous : Reading)
    (current : SinkState) : manager.CommitsOne device previous current := by
  by_cases same : previous = .known current
  · have nothing : manager.commit device previous current = .quiet (.ok ()) manager := if_pos same
    constructor
    · rw [nothing]
      simp [same]
    · simp [nothing]
    · exact fun _ => .inl ⟨same, nothing⟩
  · cases taken : manager.sinks.insert? device (.known current) with
    | none =>
        have refusal := commit_of_full same taken
        obtain ⟨absent, full⟩ := BoundedMap.insert?_eq_none_iff.mp taken
        constructor
        · simp [refusal, absent, full, ne_known_iff.mp same]
        · exact fun _ _ => refusal
        · simp [refusal]
    | some sinks =>
        have places := BoundedMap.insert?_eq_some_iff_places.mp taken
        have moves := commit_of_taken same taken
        have room : ¬ (device ∉ manager.sinks.keys ∧ manager.sinks.size = Limits.sinkDevices) :=
          fun full => by cases (BoundedMap.insert?_eq_none_iff.mpr full).symm.trans taken
        constructor
        · rw [moves, ← and_assoc]
          simp [committed, room]
        · simp [moves, committed]
        · exact fun _ => .inr ⟨same, sinks, places, moves⟩

end Manager

end AudioHost
