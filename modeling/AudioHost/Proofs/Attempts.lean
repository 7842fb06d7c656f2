import AudioHost.Proofs.Anatomy

/-!
# Attempts to connect

How far an attempt to connect a device gets, said by what the attempt finds, and what
an accepted connect leaves behind. The table does not remember that it was accepted.
-/

set_option autoImplicit false

namespace AudioHost

/-! ## Connects in a journal -/

namespace JournalEntry

def connectOf? (entry : JournalEntry) : Option (Address × Bool) :=
  match entry.effect with
  | .connect device _ accepted => some (device, accepted)
  | _ => none

/-- The native connects of a journal in order, each with its answer. -/
def connectsOf (journal : List JournalEntry) : List (Address × Bool) :=
  journal.filterMap connectOf?

@[simp] theorem connectsOf_nil : connectsOf [] = [] := rfl

@[simp] theorem connectsOf_append (front back : List JournalEntry) :
    connectsOf (front ++ back) = connectsOf front ++ connectsOf back :=
  List.filterMap_append

@[simp] theorem connectsOf_changeJournal (table : SinkTable) (device : Address)
    (previous current : SinkState) :
    connectsOf (Manager.changeJournal table device previous current) = [] := by
  unfold Manager.changeJournal Manager.announcement
  by_cases still : previous = current
  · simp [still]
  · by_cases loses : Manager.losesAudio previous current = true <;>
      simp [still, loses, connectsOf, connectOf?]

theorem mem_connectsOf_iff {journal : List JournalEntry} {device : Address} {accepted : Bool} :
    (device, accepted) ∈ connectsOf journal ↔
      ∃ entry ∈ journal, ∃ path, entry.effect = .connect device path accepted := by
  unfold connectsOf
  rw [List.mem_filterMap]
  constructor
  · intro listed
    obtain ⟨entry, member, noted⟩ := listed
    unfold connectOf? at noted
    split at noted
    · next found path answer called =>
        cases noted
        exact ⟨entry, member, path, called⟩
    · cases noted
  · intro written
    obtain ⟨entry, member, path, called⟩ := written
    refine ⟨entry, member, ?_⟩
    unfold connectOf?
    rw [called]

end JournalEntry

namespace Manager

open JournalEntry

/-- A connect gets as far as the stack: no sink is active, the device has a path, and it
is tracked or can be tracked and is read as disconnected. -/
structure Reaches (manager : Manager) (answers : Collaborators) (device : Address)
    (path : ObjectPath) : Prop where
  idle : manager.isBusy = false
  found : answers.pathOf device = some path
  known : device ∈ manager.sinks.keys ∨
    ∃ reading sinks, answers.readSink device = .ok reading ∧ reading.state = .disconnected ∧
      manager.sinks.insert? device reading = some sinks

/-- The table shows a device, and shows it as disconnected. -/
def ShowsDown (manager : Manager) (device : Address) : Prop :=
  ∃ reading, manager.sinks.get? device = some reading ∧ reading.state = .disconnected

variable {manager : Manager} {answers : Collaborators} {device : Address} {path : ObjectPath}

/-! ## Single attempts -/

private theorem connectFrom_of_down {reading : Reading} (down : reading.state = .disconnected)
    (found : answers.pathOf device = some path) :
    manager.connectFrom answers device reading =
      { result := if answers.acceptsConnect path then .ok () else .error .nativeCallFailed
        state := manager
        journal := [⟨.connect device path (answers.acceptsConnect path), manager.sinks⟩] } := by
  unfold connectFrom requestConnect
  simp only [down, found]
  rfl

private theorem connectsOf_connectFrom_eq_nil {reading : Reading}
    (stuck : reading.state = .disconnected → answers.pathOf device = none) :
    connectsOf (manager.connectFrom answers device reading).journal = [] := by
  unfold connectFrom requestConnect
  split
  case h_5 down =>
      rw [stuck down]
      rfl
  all_goals rfl

/-- An attempt that gets as far as the stack asks for the one device, succeeds if the
stack accepts, and leaves the device tracked as disconnected either way. -/
theorem connect_of_reaches (reaches : manager.Reaches answers device path) :
    connectsOf (manager.connect answers device).journal =
        [(device, answers.acceptsConnect path)] ∧
      (manager.connect answers device).result =
        (if answers.acceptsConnect path then .ok () else .error .nativeCallFailed) ∧
      (manager.connect answers device).state.ShowsDown device := by
  obtain ⟨idle, found, known⟩ := reaches
  have notBusy : ¬ manager.isBusy = true := by simp [idle]
  unfold connect
  rw [if_neg notBusy]
  cases tracked : manager.sinks.get? device with
  | some reading =>
      have down : reading.state = .disconnected := by
        rw [← SinkTable.stateOf_of_get? tracked]
        exact SinkTable.isBusy_eq_false_iff.mp idle device
      dsimp only
      rw [connectFrom_of_down down found]
      exact ⟨rfl, rfl, reading, tracked, down⟩
  | none =>
      obtain ⟨reading, sinks, read, down, taken⟩ :=
        known.resolve_left (BoundedMap.get?_eq_none_iff.mp tracked)
      have entered : sinks.get? device = some reading := by
        rw [BoundedMap.get?_of_insert?_eq_some taken, if_pos rfl]
      simp only [track_of_taken read taken, Outcome.andThen, connectFrom_of_down down found]
      refine ⟨?_, trivial, reading, entered, down⟩
      rw [connectsOf_append, connectsOf_changeJournal]
      rfl

private theorem connectsOf_connect_eq_nil (short : ∀ path, ¬ manager.Reaches answers device path) :
    connectsOf (manager.connect answers device).journal = [] := by
  unfold connect
  by_cases busy : manager.isBusy = true
  · rw [if_pos busy]
    rfl
  rw [if_neg busy]
  have idle : manager.isBusy = false := by simpa using busy
  cases tracked : manager.sinks.get? device with
  | some reading =>
      apply connectsOf_connectFrom_eq_nil
      intro _
      apply Option.eq_none_iff_forall_ne_some.mpr
      intro path found
      exact short path ⟨idle, found, .inl (BoundedMap.mem_keys_of_get? tracked)⟩
  | none =>
      cases read : answers.readSink device with
      | error cause =>
          simp only [track_of_unread read]
          rfl
      | ok reading =>
          cases taken : manager.sinks.insert? device reading with
          | none =>
              simp only [track_of_full read taken]
              rfl
          | some sinks =>
              simp only [track_of_taken read taken, Outcome.andThen, connectsOf_append,
                connectsOf_changeJournal, List.nil_append]
              apply connectsOf_connectFrom_eq_nil
              intro down
              apply Option.eq_none_iff_forall_ne_some.mpr
              intro path found
              exact short path ⟨idle, found, .inr ⟨reading, sinks, read, down, taken⟩⟩

/-- Whether the stack is asked to connect some device is decided before it is asked. -/
theorem mem_connectsOf_connect_iff {other : Address} :
    (∃ accepted, (other, accepted) ∈ connectsOf (manager.connect answers device).journal) ↔
      other = device ∧ ∃ path, manager.Reaches answers device path := by
  by_cases reaches : ∃ path, manager.Reaches answers device path
  · obtain ⟨path, arrives⟩ := reaches
    rw [(connect_of_reaches arrives).1]
    simp only [List.mem_singleton, Prod.mk.injEq, exists_and_left, exists_eq, and_true]
    exact ⟨fun same => ⟨same, path, arrives⟩, fun both => both.1⟩
  · rw [connectsOf_connect_eq_nil (not_exists.mp reaches)]
    simp [reaches]

/-! ## Attempts in turn -/

variable {devices rest : List Address}

theorem attemptInTurn_of_barred (barred : ¬ manager.mayAttempt answers device = true) :
    attemptInTurn answers (device :: rest) manager = attemptInTurn answers rest manager := by
  rw [attemptInTurn, if_neg barred]

theorem attemptInTurn_of_ok (may : manager.mayAttempt answers device = true)
    (succeeds : (manager.connect answers device).result = .ok ()) :
    attemptInTurn answers (device :: rest) manager =
      (manager.connect answers device).map fun _ => some device := by
  rw [attemptInTurn, if_pos may]
  simp [Outcome.andThen, succeeds, Outcome.quiet, Outcome.map]

theorem attemptInTurn_of_error {cause : Refusal}
    (may : manager.mayAttempt answers device = true)
    (fails : (manager.connect answers device).result = .error cause) :
    attemptInTurn answers (device :: rest) manager =
      (manager.connect answers device).andThen fun _ next => attemptInTurn answers rest next := by
  rw [attemptInTurn, if_pos may]
  simp [Outcome.andThen, fails]

/-- An accepted connect is the last one of a batch, and its device is left tracked as
disconnected. -/
theorem attemptInTurn_of_accepted {front back : List (Address × Bool)} {accepted : Address}
    (split : connectsOf (attemptInTurn answers devices manager).journal =
      front ++ (accepted, true) :: back) :
    back = [] ∧ (attemptInTurn answers devices manager).state.ShowsDown accepted := by
  induction devices generalizing manager front with
  | nil => simp [attemptInTurn] at split
  | cons device rest ih =>
      by_cases may : manager.mayAttempt answers device = true
      case neg =>
          rw [attemptInTurn_of_barred may] at split ⊢
          exact ih split
      by_cases reaches : ∃ path, manager.Reaches answers device path
      · obtain ⟨path, arrives⟩ := reaches
        obtain ⟨asked, answer, left⟩ := connect_of_reaches arrives
        by_cases accepts : answers.acceptsConnect path = true
        · rw [if_pos accepts] at answer
          rw [attemptInTurn_of_ok may answer] at split ⊢
          rw [Outcome.journal_map, asked, accepts] at split
          obtain ⟨rfl, last⟩ := List.append_eq_singleton_iff.mp split.symm |>.resolve_right
            (by simp)
          cases last
          exact ⟨rfl, left⟩
        · rw [if_neg accepts] at answer
          rw [attemptInTurn_of_error may answer] at split ⊢
          rw [Outcome.journal_andThen, connectsOf_append, asked] at split
          -- The rejected connect comes first, so the accepted one is among the others.
          cases front with
          | nil => simp [accepts] at split
          | cons first others => exact ih (List.cons.inj split).2
      · have asked := connectsOf_connect_eq_nil (not_exists.mp reaches)
        cases answer : (manager.connect answers device).result with
        | ok =>
            rw [attemptInTurn_of_ok may answer, Outcome.journal_map, asked] at split
            simp at split
        | error cause =>
            rw [attemptInTurn_of_error may answer] at split ⊢
            rw [Outcome.journal_andThen, connectsOf_append, asked] at split
            exact ih split

/-- A batch asks for its devices in order, and for none of them twice. -/
theorem connectsOf_attemptInTurn_sublist (answers : Collaborators) (devices : List Address)
    (manager : Manager) :
    List.Sublist
      ((connectsOf (attemptInTurn answers devices manager).journal).map Prod.fst) devices := by
  induction devices generalizing manager with
  | nil => exact .slnil
  | cons device rest ih =>
      by_cases may : manager.mayAttempt answers device = true
      case neg =>
          rw [attemptInTurn_of_barred may]
          exact (ih manager).cons device
      have first : List.Sublist
          ((connectsOf (manager.connect answers device).journal).map Prod.fst) [device] := by
        by_cases reaches : ∃ path, manager.Reaches answers device path
        · obtain ⟨path, arrives⟩ := reaches
          rw [(connect_of_reaches arrives).1]
          exact .refl [device]
        · rw [connectsOf_connect_eq_nil (not_exists.mp reaches)]
          exact List.nil_sublist [device]
      cases answer : (manager.connect answers device).result with
      | ok =>
          rw [attemptInTurn_of_ok may answer, Outcome.journal_map]
          exact first.trans (List.singleton_sublist.mpr List.mem_cons_self)
      | error cause =>
          rw [attemptInTurn_of_error may answer, Outcome.journal_andThen, connectsOf_append,
            List.map_append]
          exact first.append (ih _)

/-- The attempts get as far as the stack with a device: nothing came of those before it,
and what they left still lets the device through. -/
def ReachesInTurn (manager : Manager) (answers : Collaborators) (devices : List Address)
    (device : Address) : Prop :=
  ∃ front back path, devices = front ++ device :: back ∧
    (attemptInTurn answers front manager).result = none ∧
    (attemptInTurn answers front manager).state.mayAttempt answers device = true ∧
    (attemptInTurn answers front manager).state.Reaches answers device path

theorem attemptInTurn_append_of_none {front back : List Address}
    (nothing : (attemptInTurn answers front manager).result = none) :
    attemptInTurn answers (front ++ back) manager =
      (attemptInTurn answers front manager).andThen fun _ next =>
        attemptInTurn answers back next := by
  induction front generalizing manager with
  | nil => simp [attemptInTurn]
  | cons device rest ih =>
      rw [List.cons_append]
      by_cases may : manager.mayAttempt answers device = true
      case neg =>
          rw [attemptInTurn_of_barred may] at nothing ⊢
          rw [attemptInTurn_of_barred may]
          exact ih nothing
      cases answer : (manager.connect answers device).result with
      | ok =>
          rw [attemptInTurn_of_ok may answer] at nothing
          cases nothing
      | error cause =>
          rw [attemptInTurn_of_error may answer] at nothing ⊢
          rw [attemptInTurn_of_error may answer]
          simp only [Outcome.andThen, ih nothing, List.append_assoc]

theorem mem_connectsOf_attemptInTurn_iff {wanted : Address} :
    (∃ accepted, (wanted, accepted) ∈
        connectsOf (attemptInTurn answers devices manager).journal) ↔
      manager.ReachesInTurn answers devices wanted := by
  constructor
  · intro listed
    obtain ⟨accepted, member⟩ := listed
    induction devices generalizing manager with
    | nil => cases member
    | cons device rest ih =>
        by_cases may : manager.mayAttempt answers device = true
        case neg =>
            rw [attemptInTurn_of_barred may] at member
            obtain ⟨front, back, path, rfl, nothing, lets⟩ := ih member
            refine ⟨device :: front, back, path, rfl, ?_⟩
            rw [attemptInTurn_of_barred may]
            exact ⟨nothing, lets⟩
        -- Either the first device is meant, or the first attempt fails and the rest counts.
        have here : (wanted, accepted) ∈ connectsOf (manager.connect answers device).journal →
            manager.ReachesInTurn answers (device :: rest) wanted := by
          intro asked
          obtain ⟨rfl, path, arrives⟩ := mem_connectsOf_connect_iff.mp ⟨accepted, asked⟩
          exact ⟨[], rest, path, rfl, rfl, may, arrives⟩
        cases answer : (manager.connect answers device).result with
        | ok =>
            rw [attemptInTurn_of_ok may answer] at member
            exact here member
        | error cause =>
            rw [attemptInTurn_of_error may answer, Outcome.journal_andThen, connectsOf_append,
              List.mem_append] at member
            rcases member with asked | later
            · exact here asked
            · obtain ⟨front, back, path, rfl, nothing, lets⟩ := ih later
              refine ⟨device :: front, back, path, rfl, ?_⟩
              rw [attemptInTurn_of_error may answer]
              exact ⟨nothing, lets⟩
  · intro reaches
    obtain ⟨front, back, path, rfl, nothing, may, arrives⟩ := reaches
    obtain ⟨asked, answer, _⟩ := connect_of_reaches arrives
    refine ⟨answers.acceptsConnect path, ?_⟩
    rw [attemptInTurn_append_of_none nothing, Outcome.journal_andThen, connectsOf_append]
    apply List.mem_append_right
    by_cases accepts : answers.acceptsConnect path = true
    · rw [if_pos accepts] at answer
      rw [attemptInTurn_of_ok may answer, Outcome.journal_map, asked]
      exact List.mem_singleton_self _
    · rw [if_neg accepts] at answer
      rw [attemptInTurn_of_error may answer, Outcome.journal_andThen, connectsOf_append, asked]
      exact List.mem_append_left _ (List.mem_singleton_self _)

end Manager

end AudioHost
