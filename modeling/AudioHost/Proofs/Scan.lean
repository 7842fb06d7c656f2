import AudioHost.Proofs.Replay

/-!
# What a scan tells

A scan of the bonded devices enters each device as if it had been disconnected until
then. So it tells the truth about a device that was, and only if the device is met once.
-/

set_option autoImplicit false

namespace AudioHost

/-- What a bonded path contributes to a scan: the audio device that it leads to and the
reading that the stack gives of it. -/
def Collaborators.candidate? (answers : Collaborators) (path : ObjectPath) :
    Option (Address × Reading) :=
  match answers.deviceAt path.text with
  | none => none
  | some device =>
      if answers.hasAudioRole device then
        (answers.readSink device).toOption.map fun reading => (device, reading)
      else none

def Collaborators.candidates (answers : Collaborators) : List (Address × Reading) :=
  answers.bondedPaths.filterMap answers.candidate?

theorem Collaborators.readSink_of_candidate? {answers : Collaborators} {path : ObjectPath}
    {device : Address} {reading : Reading}
    (candidate : answers.candidate? path = some (device, reading)) :
    answers.readSink device = .ok reading := by
  unfold candidate? at candidate
  cases leads : answers.deviceAt path.text with
  | none => simp [leads] at candidate
  | some found =>
      by_cases audible : answers.hasAudioRole found = true
      · simp only [leads, if_pos audible] at candidate
        cases read : answers.readSink found with
        | error cause => simp [read, Except.toOption] at candidate
        | ok other =>
            simp only [read, Except.toOption, Option.map_some, Option.some.injEq,
              Prod.mk.injEq] at candidate
            obtain ⟨rfl, rfl⟩ := candidate
            exact read
      · simp [leads, audible] at candidate

theorem Collaborators.reading_unique {answers : Collaborators} {device : Address}
    {left right : Reading} (leftMember : (device, left) ∈ answers.candidates)
    (rightMember : (device, right) ∈ answers.candidates) : left = right := by
  obtain ⟨_, _, leftCandidate⟩ := List.mem_filterMap.mp leftMember
  obtain ⟨_, _, rightCandidate⟩ := List.mem_filterMap.mp rightMember
  have leftRead := readSink_of_candidate? leftCandidate
  rw [readSink_of_candidate? rightCandidate] at leftRead
  exact (Except.ok.inj leftRead).symm

/-! ## Entering one after another -/

namespace SinkTable

/-- The table after candidates were entered one after another. -/
def enterAll (table : SinkTable) : List (Address × Reading) → SinkTable
  | [] => table
  | (device, reading) :: rest =>
      match table.insert? device reading with
      | none => enterAll table rest
      | some entered => enterAll entered rest

/-- The candidates that find a place when they are entered one after another. -/
def seated (table : SinkTable) : List (Address × Reading) → List (Address × Reading)
  | [] => []
  | (device, reading) :: rest =>
      match table.insert? device reading with
      | none => seated table rest
      | some entered => (device, reading) :: seated entered rest

variable {table : SinkTable} {candidates : List (Address × Reading)} {device : Address}

theorem mem_of_mem_seated {candidate : Address × Reading}
    (member : candidate ∈ table.seated candidates) : candidate ∈ candidates := by
  induction candidates generalizing table with
  | nil => cases member
  | cons head rest ih =>
      unfold seated at member
      split at member
      · exact List.mem_cons_of_mem head (ih member)
      · rcases List.mem_cons.mp member with rfl | later
        · exact List.mem_cons_self
        · exact List.mem_cons_of_mem head (ih later)

private theorem get?_enterAll_of_not_seated
    (absent : device ∉ (table.seated candidates).map Prod.fst) :
    (table.enterAll candidates).get? device = table.get? device := by
  induction candidates generalizing table with
  | nil => rfl
  | cons head rest ih =>
      unfold enterAll
      unfold seated at absent
      split
      · next full =>
          simp only [full] at absent
          exact ih absent
      · next entered taken =>
          simp only [taken, List.map_cons, List.mem_cons, not_or] at absent
          rw [ih absent.2, BoundedMap.get?_of_insert?_eq_some taken, if_neg absent.1]

private theorem get?_enterAll_of_seated {reading : Reading}
    (only : ∀ other, (device, other) ∈ candidates → other = reading)
    (present : device ∈ (table.seated candidates).map Prod.fst) :
    (table.enterAll candidates).get? device = some reading := by
  induction candidates generalizing table with
  | nil => cases present
  | cons head rest ih =>
      have restOnly := fun other member => only other (List.mem_cons_of_mem head member)
      unfold enterAll
      unfold seated at present
      split
      · next full =>
          simp only [full] at present
          exact ih restOnly present
      · next entered taken =>
          simp only [taken] at present
          by_cases later : device ∈ (SinkTable.seated entered rest).map Prod.fst
          · exact ih restOnly later
          · have same : device = head.1 := by
              rcases List.mem_cons.mp present with now | after
              · exact now
              · exact absurd after later
            rw [get?_enterAll_of_not_seated later, BoundedMap.get?_of_insert?_eq_some taken,
              if_pos same, only head.2 (by rw [same]; exact List.mem_cons_self)]

end SinkTable

/-! ## The scan -/

/-- What listeners are told when a candidate is seated. -/
def Effect.found (candidate : Address × Reading) : List Effect :=
  if candidate.2.state = .disconnected then []
  else [.stateChanged candidate.1 .disconnected candidate.2.state]

namespace Manager

open JournalEntry

variable {manager : Manager} {answers : Collaborators} {device : Address} {path : ObjectPath}

private theorem trackBonded_of_none (noCandidate : answers.candidate? path = none) :
    trackBonded answers manager path = .quiet () manager := by
  unfold trackBonded
  cases leads : answers.deviceAt path.text with
  | none => rfl
  | some found =>
      by_cases audible : answers.hasAudioRole found = true
      · cases read : answers.readSink found with
        | error cause =>
            simp only [if_pos audible, track_of_unread read]
            rfl
        | ok reading =>
            simp [Collaborators.candidate?, leads, audible, read, Except.toOption] at noCandidate
      · simp only [if_neg audible]

private theorem trackBonded_of_some {reading : Reading}
    (candidate : answers.candidate? path = some (device, reading)) :
    trackBonded answers manager path = (manager.track answers device).map fun _ => () := by
  unfold trackBonded
  cases leads : answers.deviceAt path.text with
  | none => simp [Collaborators.candidate?, leads] at candidate
  | some found =>
      by_cases audible : answers.hasAudioRole found = true
      · simp only [Collaborators.candidate?, leads, if_pos audible] at candidate
        obtain ⟨_, _, same⟩ := Option.map_eq_some_iff.mp candidate
        cases same
        simp only [if_pos audible]
      · simp [Collaborators.candidate?, leads, audible] at candidate

private theorem effects_changeJournal (sinks : SinkTable) (device : Address) (reading : Reading) :
    (changeJournal sinks device .disconnected reading.state).map JournalEntry.effect =
      Effect.found (device, reading) := by
  rw [map_effect_changeJournal]
  unfold Effect.found announcement losesAudio
  by_cases down : reading.state = .disconnected
  · simp [down]
  · simp [down, Ne.symm down, SinkState.isUp]

/-- A scan enters its candidates one after another and tells of those that it seats. -/
theorem forEach_trackBonded (answers : Collaborators) (paths : List ObjectPath)
    (manager : Manager) :
    (Outcome.forEach (trackBonded answers) paths manager).state.sinks =
        manager.sinks.enterAll (paths.filterMap answers.candidate?) ∧
      (Outcome.forEach (trackBonded answers) paths manager).effects =
        (manager.sinks.seated (paths.filterMap answers.candidate?)).flatMap Effect.found := by
  induction paths generalizing manager with
  | nil => exact ⟨rfl, rfl⟩
  | cons path rest ih =>
      unfold Outcome.forEach
      rw [Outcome.state_andThen, Outcome.effects_andThen, List.filterMap_cons]
      cases candidate : answers.candidate? path with
      | none =>
          rw [trackBonded_of_none candidate]
          exact ih manager
      | some found =>
          obtain ⟨device, reading⟩ := found
          have read := Collaborators.readSink_of_candidate? candidate
          rw [trackBonded_of_some candidate]
          simp only [SinkTable.enterAll, SinkTable.seated]
          cases taken : manager.sinks.insert? device reading with
          | none =>
              rw [track_of_full read taken]
              exact ih manager
          | some sinks =>
              rw [track_of_taken read taken]
              obtain ⟨table, told⟩ := ih (manager.afterChange sinks .disconnected reading.state)
              refine ⟨table, ?_⟩
              rw [List.flatMap_cons, ← effects_changeJournal sinks]
              exact congrArg _ told

theorem sinks_scanBonded (manager : Manager) (answers : Collaborators) :
    (manager.scanBonded answers).state.sinks = manager.sinks.enterAll answers.candidates :=
  (forEach_trackBonded answers answers.bondedPaths _).1

theorem effects_scanBonded (manager : Manager) (answers : Collaborators) :
    (manager.scanBonded answers).effects =
      (manager.sinks.seated answers.candidates).flatMap Effect.found ++ [.audioEnabled true] := by
  unfold scanBonded
  rw [Outcome.effects_andThen, (forEach_trackBonded answers answers.bondedPaths _).2]
  rfl

/-! ## When the scan tells the truth -/

private theorem changeOf?_flatMap_found {places : List (Address × Reading)} {reading : Reading}
    (only : ∀ other, (device, other) ∈ places → other = reading) :
    (places.flatMap Effect.found).filterMap (Effect.changeOf? device) =
      if reading.state = .disconnected then []
      else List.replicate ((places.map Prod.fst).count device) (.disconnected, reading.state) := by
  induction places with
  | nil => simp
  | cons place rest ih =>
      obtain ⟨placed, found⟩ := place
      have restOnly := fun other member => only other (List.mem_cons_of_mem _ member)
      rw [List.flatMap_cons, List.filterMap_append, ih restOnly, List.map_cons,
        List.count_cons]
      by_cases same : placed = device
      · subst same
        obtain rfl := only found List.mem_cons_self
        by_cases down : found.state = .disconnected
        · simp [Effect.found, down]
        · simp [Effect.found, down, Effect.changeOf?, List.replicate_succ]
      · by_cases down : found.state = .disconnected
        · simp [Effect.found, down, same]
        · simp [Effect.found, down, Effect.changeOf?, same]

theorem changesOf_scanBonded (manager : Manager) {reading : Reading}
    (only : ∀ other, (device, other) ∈ manager.sinks.seated answers.candidates →
      other = reading) :
    changesOf device (manager.scanBonded answers).journal =
      if reading.state = .disconnected then []
      else
        List.replicate (((manager.sinks.seated answers.candidates).map Prod.fst).count device)
          (.disconnected, reading.state) := by
  have effects : changesOf device (manager.scanBonded answers).journal =
      (manager.scanBonded answers).effects.filterMap (Effect.changeOf? device) := by
    unfold changesOf Outcome.effects
    rw [List.filterMap_map]
    rfl
  rw [effects, effects_scanBonded, List.filterMap_append, changeOf?_flatMap_found only]
  simp [Effect.changeOf?]

/-- A device that gets no place stays as it was, and nothing is told about it. -/
theorem scanBonded_of_not_seated
    (absent : device ∉ (manager.sinks.seated answers.candidates).map Prod.fst) :
    (manager.scanBonded answers).state.stateOf device = manager.stateOf device ∧
      changesOf device (manager.scanBonded answers).journal = [] := by
  constructor
  · apply SinkTable.stateOf_congr
    rw [sinks_scanBonded]
    exact SinkTable.get?_enterAll_of_not_seated absent
  · have only : ∀ other, (device, other) ∈ manager.sinks.seated answers.candidates →
        other = .invalid := fun other member => absurd (List.mem_map_of_mem member) absent
    rw [changesOf_scanBonded manager only]
    rfl

/-- A device that gets a place takes over its reading, and every place is told. -/
theorem scanBonded_of_seated {reading : Reading}
    (place : (device, reading) ∈ manager.sinks.seated answers.candidates) :
    (manager.scanBonded answers).state.stateOf device = reading.state ∧
      changesOf device (manager.scanBonded answers).journal =
        if reading.state = .disconnected then []
        else
          List.replicate (((manager.sinks.seated answers.candidates).map Prod.fst).count device)
            (.disconnected, reading.state) := by
  have candidate := SinkTable.mem_of_mem_seated place
  have only : ∀ other, (device, other) ∈ answers.candidates → other = reading :=
    fun other member => Collaborators.reading_unique member candidate
  constructor
  · apply SinkTable.stateOf_of_get?
    rw [sinks_scanBonded]
    exact SinkTable.get?_enterAll_of_seated only (List.mem_map_of_mem place)
  · exact changesOf_scanBonded manager fun other member =>
      only other (SinkTable.mem_of_mem_seated member)

/-- A scan never announces that a device left another state than disconnected. -/
private theorem previous_of_mem_scanBonded {entry : JournalEntry}
    (member : entry ∈ (manager.scanBonded answers).journal) {previous current : SinkState}
    (told : entry.effect = .stateChanged device previous current) :
    previous = .disconnected := by
  have effectMember : entry.effect ∈ (manager.scanBonded answers).effects :=
    List.mem_map_of_mem member
  rw [effects_scanBonded, told, List.mem_append, List.mem_flatMap] at effectMember
  rcases effectMember with ⟨place, _, announced⟩ | told
  · unfold Effect.found at announced
    split at announced
    · cases announced
    · cases List.mem_singleton.mp announced
      rfl
  · cases List.mem_singleton.mp told

end Manager

/-- One change told over and over leads on only if it is told once. -/
private theorem SinkState.leads_replicate_iff {start previous current : SinkState} {count : Nat}
    (moves : previous ≠ current) (told : count ≠ 0) :
    start.Leads (List.replicate count (previous, current)) current ↔
      start = previous ∧ count = 1 := by
  match count with
  | 0 => exact absurd rfl told
  | 1 => simp [Leads, moves, eq_comm]
  | more + 2 => simp [List.replicate_succ, Leads, moves]

/-- What a journal has to tell about a device that went from one state to another: the
changes lead there, none is told without need, and audio is never lost unwarned. -/
structure JournalEntry.Faithful (device : Address) (before : SinkState)
    (journal : List JournalEntry) (after : SinkState) : Prop where
  leads : before.Leads (changesOf device journal) after
  needed : before = after → changesOf device journal = []
  warns : ∀ front entry back previous, journal = front ++ entry :: back →
    entry.effect = .stateChanged device previous .disconnected → previous.isUp = true →
      front.getLast?.map JournalEntry.effect = some .becomingNoisy

namespace Manager

open JournalEntry

variable {manager : Manager} {answers : Collaborators} {device : Address}

/-- A scan has no loss to warn of, because it takes every device to have been disconnected. -/
private theorem faithful_scanBonded_iff :
    Faithful device (manager.stateOf device) (manager.scanBonded answers).journal
        ((manager.scanBonded answers).state.stateOf device) ↔
      (manager.stateOf device).Leads (changesOf device (manager.scanBonded answers).journal)
          ((manager.scanBonded answers).state.stateOf device) ∧
        (manager.stateOf device = (manager.scanBonded answers).state.stateOf device →
          changesOf device (manager.scanBonded answers).journal = []) := by
  constructor
  · intro faithful
    exact ⟨faithful.leads, faithful.needed⟩
  · rintro ⟨leads, needed⟩
    refine ⟨leads, needed, fun front entry back previous split told up => ?_⟩
    have member : entry ∈ (manager.scanBonded answers).journal := by
      rw [split]
      exact List.mem_append_right front List.mem_cons_self
    rw [previous_of_mem_scanBonded member told] at up
    cases up

private theorem faithful_scanBonded_iff_of_seated {reading : Reading}
    (place : (device, reading) ∈ manager.sinks.seated answers.candidates) :
    Faithful device (manager.stateOf device) (manager.scanBonded answers).journal
        ((manager.scanBonded answers).state.stateOf device) ↔
      manager.stateOf device = .disconnected ∧
        (reading.state = .disconnected ∨
          ((manager.sinks.seated answers.candidates).map Prod.fst).count device = 1) := by
  obtain ⟨after, changes⟩ := scanBonded_of_seated place
  have told : ((manager.sinks.seated answers.candidates).map Prod.fst).count device ≠ 0 :=
    fun none => List.count_eq_zero.mp none (List.mem_map_of_mem place)
  rw [faithful_scanBonded_iff, after, changes]
  by_cases down : reading.state = .disconnected
  · simp [down, SinkState.Leads]
  · rw [if_neg down, SinkState.leads_replicate_iff (Ne.symm down) told]
    constructor
    · rintro ⟨⟨before, once⟩, _⟩
      exact ⟨before, .inr once⟩
    · rintro ⟨before, once⟩
      exact ⟨⟨before, once.resolve_left down⟩,
        fun still => absurd (still.symm.trans before) down⟩

end Manager

/-- A scan tells the truth about a device exactly if every place that it gives to the
device goes to one that was disconnected, and goes to it once or keeps it so. -/
theorem Manager.scanBonded_faithful_iff (manager : Manager) (answers : Collaborators)
    (device : Address) :
    JournalEntry.Faithful device (manager.stateOf device) (manager.scanBonded answers).journal
        ((manager.scanBonded answers).state.stateOf device) ↔
      ∀ reading, (device, reading) ∈ manager.sinks.seated answers.candidates →
        manager.stateOf device = .disconnected ∧
          (reading.state = .disconnected ∨
            ((manager.sinks.seated answers.candidates).map Prod.fst).count device = 1) := by
  by_cases present : device ∈ (manager.sinks.seated answers.candidates).map Prod.fst
  · obtain ⟨⟨found, reading⟩, place, same⟩ := List.mem_map.mp present
    obtain rfl : found = device := same
    rw [faithful_scanBonded_iff_of_seated place]
    constructor
    · intro holds other member
      obtain rfl := Collaborators.reading_unique (SinkTable.mem_of_mem_seated member)
        (SinkTable.mem_of_mem_seated place)
      exact holds
    · exact fun holds => holds reading place
  · obtain ⟨after, changes⟩ := scanBonded_of_not_seated present
    rw [faithful_scanBonded_iff, after, changes]
    constructor
    · intro _ reading place
      exact absurd (List.mem_map_of_mem place) present
    · exact fun _ => ⟨rfl, fun _ => rfl⟩

section Sample

open Simulation

/-- A sink is found connected when the adapter goes on. -/
def foundConnected : List (Collaborators × Operation) :=
  [(oneSink "connected", .event (.adapterChanged .on) .zero)]

/-- When the adapter goes on once more and the sink is gone by then, the scan says
nothing about it. -/
theorem Manager.not_faithful_of_foundConnected :
    ¬ ∀ answers device,
      JournalEntry.Faithful device
        (((Manager.new {}).run foundConnected).state.stateOf device)
        (((Manager.new {}).run foundConnected).state.scanBonded answers).journal
        ((((Manager.new {}).run foundConnected).state.scanBonded answers).state.stateOf
          device) := by
  intro faithful
  have leads := (faithful (oneSink "disconnected") (sampleAddress 1)).leads
  have silent : JournalEntry.changesOf (sampleAddress 1)
      (((Manager.new {}).run foundConnected).state.scanBonded (oneSink "disconnected")).journal =
      [] := by decide
  rw [silent] at leads
  have still : ((Manager.new {}).run foundConnected).state.stateOf (sampleAddress 1) =
      (((Manager.new {}).run foundConnected).state.scanBonded
        (oneSink "disconnected")).state.stateOf (sampleAddress 1) := leads
  exact absurd still (by decide)

end Sample

end AudioHost
