import AudioHost.Proofs.Connects
import AudioHost.Proofs.Frame
import AudioHost.Proofs.LockStep
import AudioHost.Proofs.Scan

/-!
# What a scan comes to

Which of the bonded devices a scan records, and how the table, the announcements and the
count follow from these alone. A candidate is turned away only if it is new and the table
is full when its turn comes.
-/

set_option autoImplicit false

namespace AudioHost

namespace Collaborators

variable {answers : Collaborators} {path : ObjectPath} {device : Address} {reading : Reading}

/-- A path leads to a device with a role in audio distribution, and the properties at the
path of that device describe this reading. -/
structure Offers (answers : Collaborators) (path : ObjectPath) (device : Address)
    (reading : Reading) : Prop where
  leads : answers.deviceAt path.text = some device
  audible : ∃ uuids, answers.serviceUuids device = some uuids ∧ ∃ uuid ∈ uuids,
    uuid = ServiceClass.audioSink.uuid ∨ uuid = ServiceClass.audioSource.uuid ∨
      uuid = ServiceClass.advancedAudioDistribution.uuid
  described : ∃ back properties, answers.pathOf device = some back ∧
    answers.sinkProperties back = some properties ∧ SinkProperty.Describes properties reading

theorem hasAudioRole_iff :
    answers.hasAudioRole device = true ↔
      ∃ uuids, answers.serviceUuids device = some uuids ∧ ∃ uuid ∈ uuids,
        uuid = ServiceClass.audioSink.uuid ∨ uuid = ServiceClass.audioSource.uuid ∨
          uuid = ServiceClass.advancedAudioDistribution.uuid := by
  unfold hasAudioRole advertises
  cases answers.serviceUuids device with
  | none => simp
  | some uuids =>
      simp [Uuid.hasAudioRole, Uuid.playsAudio, Uuid.sendsAudio, Uuid.distributesAudio,
        Uuid.denotes, or_assoc]

theorem candidate?_eq_some_iff :
    answers.candidate? path = some (device, reading) ↔ answers.Offers path device reading := by
  constructor
  · intro candidate
    have read := readSink_eq_ok_iff.mp (readSink_of_candidate? candidate)
    unfold candidate? at candidate
    split at candidate
    · cases candidate
    · next found leads =>
        split at candidate
        · next audible =>
            obtain ⟨_, _, same⟩ := Option.map_eq_some_iff.mp candidate
            cases same
            exact ⟨leads, hasAudioRole_iff.mp audible, read⟩
        · cases candidate
  · intro offers
    have read := readSink_eq_ok_iff.mpr offers.described
    have audible := hasAudioRole_iff.mpr offers.audible
    simp only [candidate?, offers.leads, audible, read, if_true, Except.toOption, Option.map_some]

theorem candidate?_eq_none_iff :
    answers.candidate? path = none ↔ ∀ device reading, ¬ answers.Offers path device reading := by
  simp only [Option.eq_none_iff_forall_ne_some, Prod.forall, ne_eq, candidate?_eq_some_iff]

/-- `answers.Records tracked paths recorded`: a scan that goes through these paths while
these devices are tracked records these candidates, in this order. -/
inductive Records (answers : Collaborators) :
    List Address → List ObjectPath → List (Address × Reading) → Prop where
  | done {tracked : List Address} : Records answers tracked [] []
  | passed {tracked : List Address} {path : ObjectPath} {rest : List ObjectPath}
      {recorded : List (Address × Reading)}
      (noCandidate : ∀ device reading, ¬ answers.Offers path device reading)
      (others : Records answers tracked rest recorded) :
      Records answers tracked (path :: rest) recorded
  | known {tracked : List Address} {path : ObjectPath} {rest : List ObjectPath}
      {recorded : List (Address × Reading)} {device : Address} {reading : Reading}
      (offers : answers.Offers path device reading) (present : device ∈ tracked)
      (others : Records answers tracked rest recorded) :
      Records answers tracked (path :: rest) ((device, reading) :: recorded)
  | added {tracked : List Address} {path : ObjectPath} {rest : List ObjectPath}
      {recorded : List (Address × Reading)} {device : Address} {reading : Reading}
      (offers : answers.Offers path device reading) (absent : device ∉ tracked)
      (room : tracked.length < Limits.sinkDevices)
      (others : Records answers (tracked ++ [device]) rest recorded) :
      Records answers tracked (path :: rest) ((device, reading) :: recorded)
  | turnedAway {tracked : List Address} {path : ObjectPath} {rest : List ObjectPath}
      {recorded : List (Address × Reading)} {device : Address} {reading : Reading}
      (offers : answers.Offers path device reading) (absent : device ∉ tracked)
      (full : tracked.length = Limits.sinkDevices)
      (others : Records answers tracked rest recorded) :
      Records answers tracked (path :: rest) recorded

private theorem Records.length_le {tracked : List Address} {paths : List ObjectPath}
    {recorded : List (Address × Reading)} (records : answers.Records tracked paths recorded) :
    recorded.length ≤ paths.length := by
  induction records with
  | done => exact Nat.le_refl 0
  | passed _ _ ih | turnedAway _ _ _ _ ih => exact Nat.le_succ_of_le ih
  | known _ _ _ ih | added _ _ _ _ ih => exact Nat.succ_le_succ ih

/-- The candidates that find a place are the ones to be recorded. -/
theorem records_seated (answers : Collaborators) (paths : List ObjectPath) (table : SinkTable) :
    answers.Records table.keys paths (table.seated (paths.filterMap answers.candidate?)) := by
  induction paths generalizing table with
  | nil => exact .done
  | cons path rest ih =>
      rw [List.filterMap_cons]
      cases candidate : answers.candidate? path with
      | none => exact .passed (candidate?_eq_none_iff.mp candidate) (ih table)
      | some found =>
          obtain ⟨device, reading⟩ := found
          have offers := candidate?_eq_some_iff.mp candidate
          simp only [SinkTable.seated]
          cases taken : table.insert? device reading with
          | none =>
              obtain ⟨absent, full⟩ := BoundedMap.insert?_eq_none_iff.mp taken
              exact .turnedAway offers absent (table.length_keys.trans full) (ih table)
          | some entered =>
              have keys := BoundedMap.keys_of_insert?_eq_some taken
              have others := ih entered
              by_cases present : device ∈ table.keys
              · rw [if_pos present] at keys
                exact .known offers present (keys ▸ others)
              · rw [if_neg present] at keys
                have room := ((BoundedMap.insert?_eq_some_iff_of_not_mem present).mp taken).1
                exact .added offers present (table.length_keys ▸ room) (keys ▸ others)

end Collaborators

/-! ## The table -/

namespace SinkTable

variable {table : SinkTable} {candidates recorded : List (Address × Reading)} {device : Address}
  {reading : Reading}

/-- An entry after candidates were recorded. -/
def reread (recorded : List (Address × Reading)) (entry : Address × Reading) :
    Address × Reading :=
  (entry.1, (recorded.lookup entry.1).getD entry.2)

/-- The candidates of devices that were not tracked, each where it first occurs. -/
def newcomers (table : SinkTable) (recorded : List (Address × Reading)) :
    List (Address × Reading) :=
  (recorded.filter fun candidate => decide (candidate.1 ∉ table.keys)).eraseDups

private theorem reread_cons_of_eq {entry : Address × Reading} (same : entry.1 = device) :
    reread ((device, reading) :: recorded) entry = (device, reading) := by
  subst same
  simp [reread]

private theorem reread_cons_of_ne {entry : Address × Reading} (different : entry.1 ≠ device) :
    reread ((device, reading) :: recorded) entry = reread recorded entry := by
  have unlike : (entry.1 == device) = false := by simpa using different
  simp only [reread, List.lookup_cons, unlike]

private theorem reread_eq_self (only : ∀ other, (device, other) ∈ recorded → other = reading) :
    reread recorded (device, reading) = (device, reading) := by
  unfold reread
  cases found : recorded.lookup device with
  | none => rfl
  | some other =>
      obtain ⟨before, after, split, _⟩ := List.lookup_eq_some_iff.mp found
      have member : (device, other) ∈ recorded := by
        rw [split]
        exact List.mem_append_right before List.mem_cons_self
      rw [only other member]
      rfl

private theorem map_reread_cons_of_absent (absent : device ∉ table.keys) :
    table.entries.map (reread ((device, reading) :: recorded)) =
      table.entries.map (reread recorded) := by
  refine List.map_congr_left fun entry member => reread_cons_of_ne ?_
  rintro rfl
  exact absent (BoundedMap.mem_keys_of_mem_entries member)

private theorem map_reread_replace (only : ∀ other, (device, other) ∈ recorded → other = reading) :
    (table.replace device reading).entries.map (reread recorded) =
      table.entries.map (reread ((device, reading) :: recorded)) := by
  show (table.entries.map _).map _ = _
  rw [List.map_map]
  refine List.map_congr_left fun entry _ => ?_
  by_cases same : entry.1 = device
  · simp only [Function.comp_apply, if_pos same, reread_eq_self only, reread_cons_of_eq same]
  · simp only [Function.comp_apply, if_neg same, reread_cons_of_ne same]

private theorem newcomers_cons_of_present (present : device ∈ table.keys) :
    table.newcomers ((device, reading) :: recorded) = table.newcomers recorded := by
  simp [newcomers, present]

/-- The first new device goes ahead of the others and does not come again. -/
private theorem newcomers_cons_of_absent {entered : SinkTable} (absent : device ∉ table.keys)
    (keys : entered.keys = table.keys ++ [device])
    (only : ∀ other, (device, other) ∈ recorded → other = reading) :
    table.newcomers ((device, reading) :: recorded) =
      (device, reading) :: entered.newcomers recorded := by
  unfold newcomers
  rw [List.filter_cons_of_pos (by simpa using absent), List.eraseDups_cons, List.filter_filter]
  refine congrArg (_ :: List.eraseDups ·) (List.filter_congr fun candidate member => ?_)
  have same : candidate = (device, reading) ↔ candidate.1 = device := by
    obtain ⟨found, other⟩ := candidate
    constructor
    · rintro ⟨⟩
      rfl
    · rintro rfl
      rw [only other member]
  rw [Bool.eq_iff_iff]
  simp [keys, same, and_comm]

/-- Candidates that agree on their devices overwrite the entries that they meet, and the
new ones follow in the order in which they first occur. -/
theorem entries_enterAll
    (agree : ∀ device left right, (device, left) ∈ candidates → (device, right) ∈ candidates →
      left = right) :
    (table.enterAll candidates).entries =
      table.entries.map (reread (table.seated candidates)) ++
        table.newcomers (table.seated candidates) := by
  induction candidates generalizing table with
  | nil =>
      have still : reread [] = id := rfl
      simp [enterAll, seated, newcomers, still]
  | cons head rest ih =>
      obtain ⟨device, reading⟩ := head
      have restAgree := fun other left right leftMember rightMember =>
        agree other left right (List.mem_cons_of_mem _ leftMember)
          (List.mem_cons_of_mem _ rightMember)
      simp only [enterAll, seated]
      cases taken : table.insert? device reading with
      | none => exact ih restAgree
      | some entered =>
          have only : ∀ other, (device, other) ∈ SinkTable.seated entered rest → other = reading :=
            fun other member => agree device other reading
              (List.mem_cons_of_mem _ (mem_of_mem_seated member)) List.mem_cons_self
          rw [ih restAgree]
          rcases BoundedMap.entries_of_insert?_eq_some taken with
            ⟨present, rfl⟩ | ⟨absent, appended⟩
          · have keys := BoundedMap.keys_replace table device reading
            rw [map_reread_replace only, newcomers_cons_of_present present, newcomers, keys]
            rfl
          · have keys := BoundedMap.keys_of_insert?_eq_some taken
            rw [if_neg absent] at keys
            rw [appended, List.map_append, map_reread_cons_of_absent absent,
              newcomers_cons_of_absent absent keys only, List.append_assoc]
            simp only [List.map_cons, List.map_nil, reread_eq_self only, List.singleton_append]

end SinkTable

/-! ## The count -/

namespace Manager

variable {manager : Manager} {answers : Collaborators}

def readConnected (candidate : Address × Reading) : Bool :=
  decide (candidate.2 = .known .connected)

private theorem recount_found (candidate : Address × Reading) (count : UInt32) :
    (Effect.found candidate).foldl Effect.recount count =
      count + .ofNat ([candidate].countP readConnected) := by
  obtain ⟨device, reading⟩ := candidate
  cases reading with
  | invalid => simp [Effect.found, readConnected]
  | known state =>
      cases state <;>
        simp [Effect.found, Effect.recount, countAfter, losesAudio, SinkState.isUp, readConnected]

private theorem foldl_recount_found (recorded : List (Address × Reading)) (count : UInt32) :
    (recorded.flatMap Effect.found).foldl Effect.recount count =
      count + .ofNat (recorded.countP readConnected) := by
  induction recorded generalizing count with
  | nil => exact (UInt32.add_zero count).symm
  | cons candidate rest ih =>
      rw [List.flatMap_cons, List.foldl_append, recount_found, ih, UInt32.add_assoc,
        ← UInt32.ofNat_add, ← List.countP_append, List.singleton_append]

/-- The count is what the log of the scan adds up to. -/
theorem activeCount_scanBonded (manager : Manager) (answers : Collaborators) :
    (manager.scanBonded answers).state.activeCount =
      .ofNat ((manager.sinks.seated answers.candidates).countP readConnected) := by
  rw [(scanBonded_tallies manager answers).count, effects_scanBonded, List.foldl_append,
    foldl_recount_found]
  exact UInt32.zero_add _

theorem pending_scanBonded (manager : Manager) (answers : Collaborators) :
    (manager.scanBonded answers).state.pending = manager.pending :=
  Act.Steps.pending_of_not_reschedules (fun _ allowed => allowed)
    (scanBonded_byActs manager answers)

/-! ## The scan -/

/-- What a scan comes to that records these candidates. -/
structure ScanComesTo (manager : Manager) (answers : Collaborators)
    (recorded : List (Address × Reading)) (outcome : Outcome Manager Unit) : Prop where
  /-- Tracked devices keep their places, and new ones follow. -/
  table : outcome.state.sinks.entries =
    manager.sinks.entries.map (SinkTable.reread recorded) ++ manager.sinks.newcomers recorded
  told : outcome.effects = recorded.flatMap Effect.found ++ [.audioEnabled true]
  counted : outcome.state.activeCount = .ofNat (recorded.countP readConnected)
  /-- The count cannot wrap with a listing that has a length within reason. -/
  countedExactly : answers.bondedPaths.length < UInt32.size →
    outcome.state.activeCount.toNat = recorded.countP readConnected
  uncalled : ∀ effect ∈ outcome.effects, ∀ device path accepted,
    effect ≠ .connect device path accepted ∧ effect ≠ .disconnect device path accepted
  waiting : outcome.state.pending = manager.pending

theorem scanBonded_comesTo (manager : Manager) (answers : Collaborators) :
    ∃ recorded, answers.Records manager.sinks.keys answers.bondedPaths recorded ∧
      manager.ScanComesTo answers recorded (manager.scanBonded answers) := by
  have records := answers.records_seated answers.bondedPaths manager.sinks
  refine ⟨manager.sinks.seated answers.candidates, records, ?_⟩
  constructor
  case table =>
      rw [sinks_scanBonded]
      exact SinkTable.entries_enterAll fun _ _ _ => Collaborators.reading_unique
  case told => exact effects_scanBonded manager answers
  case counted => exact activeCount_scanBonded manager answers
  case countedExactly =>
      intro short
      have few : (manager.sinks.seated answers.candidates).countP readConnected < UInt32.size :=
        Nat.lt_of_le_of_lt (Nat.le_trans List.countP_le_length records.length_le) short
      rw [activeCount_scanBonded]
      exact UInt32.toNat_ofNat_of_lt' few
  case uncalled =>
      intro effect member device path accepted
      rw [effects_scanBonded, List.mem_append, List.mem_flatMap] at member
      rcases member with ⟨place, _, found⟩ | told
      · unfold Effect.found at found
        split at found
        · cases found
        · cases List.mem_singleton.mp found
          exact ⟨Effect.noConfusion, Effect.noConfusion⟩
      · cases List.mem_singleton.mp told
        exact ⟨Effect.noConfusion, Effect.noConfusion⟩
  case waiting => exact pending_scanBonded manager answers

section Sample

open Simulation

/-- A connected sink that is bonded under one path, which is listed twice. -/
def listedTwice : Collaborators :=
  { oneSink "connected" with
    bondedPaths := (oneSink "connected").bondedPaths ++ (oneSink "connected").bondedPaths }

-- Every record of a connected sink counts, also when it is the second one of the sink.
example :
    let scan := (new {}).scanBonded listedTwice
    scan.state.sinks.entries = [(sampleAddress 1, .known .connected)] ∧
      scan.state.activeCount = 2 := by
  decide

end Sample

end Manager

end AudioHost
