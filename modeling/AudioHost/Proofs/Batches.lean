import AudioHost.Proofs.Connects
import AudioHost.Proofs.Punctuality

/-!
# Batches of automatic connects

A batch uses up every deadline that has come. Its attempts end in one of three ways:
all of them failed, a native connect was accepted, or a device that was not tracked
before turned out to be on its way up without being asked.
-/

set_option autoImplicit false

namespace AudioHost

namespace JournalEntry

/-- Whatever native connects a journal has, the stack rejected them. -/
def AllRejected (journal : List JournalEntry) : Prop :=
  ∀ call ∈ connectsOf journal, call.2 = false

variable {journal front back : List JournalEntry} {device : Address}

private theorem AllRejected.append (first : AllRejected front) (second : AllRejected back) :
    AllRejected (front ++ back) := by
  rw [AllRejected, connectsOf_append]
  exact List.forall_mem_append.mpr ⟨first, second⟩

private theorem AllRejected.not_mem (rejected : AllRejected journal) :
    (device, true) ∉ connectsOf journal :=
  fun member => Bool.noConfusion (rejected (device, true) member)

private theorem AllRejected.countP_eq_zero (rejected : AllRejected journal) :
    (connectsOf journal).countP Prod.snd = 0 :=
  List.countP_eq_zero.mpr fun call member => by simp [rejected call member]

end JournalEntry

namespace Manager

open JournalEntry

variable {manager : Manager} {answers : Collaborators} {device other : Address}
  {devices rest : List Address} {now : Instant}

/-- How attempts to connect the devices of a list end. Every native connect but an
accepted last one was rejected. -/
inductive AttemptsEnd (manager : Manager) (devices : List Address)
    (outcome : Outcome Manager (Option Address)) : Prop where
  | exhausted (nothing : outcome.result = none) (rejected : AllRejected outcome.journal)
  | accepted {device : Address} (path : ObjectPath) (earlier : List JournalEntry)
      (returned : outcome.result = some device) (listed : device ∈ devices)
      (last : outcome.journal = earlier ++ [⟨.connect device path true, outcome.state.sinks⟩])
      (rejected : AllRejected earlier)
  | underway {device : Address} (earlier : List JournalEntry)
      (returned : outcome.result = some device) (listed : device ∈ devices)
      (untracked : device ∉ manager.sinks.keys)
      (recorded : outcome.state.sinks.get? device = some (.known .connecting))
      (last : outcome.journal =
        earlier ++ [⟨.stateChanged device .disconnected .connecting, outcome.state.sinks⟩])
      (rejected : AllRejected earlier)
      (unasked : device ∉ (connectsOf earlier).map Prod.fst)

namespace AttemptsEnd

variable {outcome : Outcome Manager (Option Address)}

private theorem mem_of_returned (ends : manager.AttemptsEnd devices outcome)
    (returned : outcome.result = some device) : device ∈ devices := by
  cases ends with
  | exhausted nothing _ => cases nothing.symm.trans returned
  | accepted _ _ came listed _ _ | underway _ came listed _ _ _ _ _ =>
      cases came.symm.trans returned
      exact listed

private theorem of_accepted (ends : manager.AttemptsEnd devices outcome)
    (member : (device, true) ∈ connectsOf outcome.journal) :
    outcome.result = some device ∧ ∃ earlier path,
      outcome.journal = earlier ++ [⟨.connect device path true, outcome.state.sinks⟩] := by
  cases ends with
  | exhausted _ rejected => exact absurd member rejected.not_mem
  | accepted path earlier returned _ last rejected =>
      rw [last, connectsOf_append, List.mem_append] at member
      cases List.mem_singleton.mp (member.resolve_left rejected.not_mem)
      exact ⟨returned, earlier, path, last⟩
  | underway earlier _ _ _ _ last rejected _ =>
      rw [last, connectsOf_append, List.mem_append] at member
      cases member.resolve_left rejected.not_mem

private theorem countP_accepted_le (ends : manager.AttemptsEnd devices outcome) :
    (connectsOf outcome.journal).countP Prod.snd ≤ 1 := by
  cases ends with
  | exhausted _ rejected =>
      rw [rejected.countP_eq_zero]
      exact Nat.zero_le 1
  | accepted _ _ _ _ last rejected =>
      rw [last, connectsOf_append, List.countP_append, rejected.countP_eq_zero]
      exact Nat.le_refl 1
  | underway _ _ _ _ _ last rejected _ =>
      rw [last, connectsOf_append, List.countP_append, rejected.countP_eq_zero]
      exact Nat.zero_le 1

private theorem of_none (ends : manager.AttemptsEnd devices outcome)
    (nothing : outcome.result = none) : AllRejected outcome.journal := by
  cases ends with
  | exhausted _ rejected => exact rejected
  | accepted _ _ returned _ _ _ | underway _ returned _ _ _ _ _ _ =>
      cases nothing.symm.trans returned

private theorem of_returned (ends : manager.AttemptsEnd devices outcome)
    (returned : outcome.result = some device) :
    (device, true) ∈ connectsOf outcome.journal ∨
      (∀ accepted, (device, accepted) ∉ connectsOf outcome.journal) ∧
        device ∉ manager.sinks.keys ∧
        outcome.state.sinks.get? device = some (.known .connecting) ∧
        ∃ earlier, outcome.journal =
          earlier ++ [⟨.stateChanged device .disconnected .connecting, outcome.state.sinks⟩] := by
  cases ends with
  | exhausted nothing _ => cases nothing.symm.trans returned
  | accepted path earlier came _ last _ =>
      cases came.symm.trans returned
      rw [last, connectsOf_append]
      exact .inl (List.mem_append_right _ (List.mem_singleton_self _))
  | underway earlier came _ untracked recorded last _ unasked =>
      cases came.symm.trans returned
      refine .inr ⟨fun accepted asked => ?_, untracked, recorded, earlier, last⟩
      rw [last, connectsOf_append, List.mem_append] at asked
      exact unasked (List.mem_map_of_mem (asked.resolve_right List.not_mem_nil))

end AttemptsEnd

/-! ## One attempt -/

private theorem attemptInTurn_singleton (may : manager.mayAttempt answers device = true) :
    attemptInTurn answers [device] manager =
      (manager.connect answers device).map fun verdict => verdict.toOption.map fun _ => device := by
  cases judged : (manager.connect answers device).result with
  | ok =>
      rw [attemptInTurn_of_ok may judged]
      simp only [Outcome.map, judged]
      rfl
  | error cause =>
      rw [attemptInTurn_of_error may judged]
      simp only [Outcome.map, judged, Outcome.andThen, attemptInTurn, Outcome.quiet,
        List.append_nil]
      rfl

private theorem attemptInTurn_singleton_ends (manager : Manager) (answers : Collaborators)
    (device : Address) :
    manager.AttemptsEnd [device] (attemptInTurn answers [device] manager) := by
  by_cases may : manager.mayAttempt answers device = true
  case neg =>
      rw [attemptInTurn_of_barred may]
      exact .exhausted rfl (by simp [AllRejected, attemptInTurn])
  rw [attemptInTurn_singleton may]
  obtain ⟨outcome, connects⟩ := exists_connectsTo manager answers device
  rw [connect_eq_of_connectsTo connects]
  -- Whether the device was tracked or has just been entered, one native connect decides.
  have asked : ∀ (sinks : SinkTable) (path : ObjectPath), manager.AttemptsEnd [device]
      { result := (verdict (answers.acceptsConnect path)).toOption.map fun _ => device
        state := { manager with sinks }
        journal := [⟨.connect device path (answers.acceptsConnect path), sinks⟩] } := by
    intro sinks path
    cases answers.acceptsConnect path with
    | true => exact .accepted path [] rfl List.mem_cons_self rfl (by simp [AllRejected])
    | false => exact .exhausted rfl (by simp [AllRejected, connectsOf, connectOf?])
  cases connects with
  | busy _ _ | unknown _ _ | unreadable _ _ _ _ | full _ _ _ _ _ =>
      exact .exhausted rfl (by simp [AllRejected, Outcome.quiet, Outcome.map])
  | tracked _ _ _ => exact asked manager.sinks _
  | entered _ _ => exact asked _ _
  | underway enrolls =>
      have recorded := BoundedMap.get?_eq_some_iff.mpr
        (enrolls.appended ▸ List.mem_append_right _ (List.mem_singleton_self _))
      exact .underway [] rfl List.mem_cons_self enrolls.absent recorded rfl
        (by simp [AllRejected]) (by simp)
  | terminal _ _ =>
      exact .exhausted rfl (by simp [AllRejected, connectsOf, connectOf?, Outcome.map])

/-! ## Attempts in turn -/

private theorem attemptInTurn_cons_of_some
    (succeeds : (attemptInTurn answers [device] manager).result = some other) :
    attemptInTurn answers (device :: rest) manager = attemptInTurn answers [device] manager := by
  by_cases may : manager.mayAttempt answers device = true
  case neg =>
      rw [attemptInTurn_of_barred may] at succeeds
      cases succeeds
  cases judged : (manager.connect answers device).result with
  | ok => rw [attemptInTurn_of_ok may judged, attemptInTurn_of_ok may judged]
  | error cause =>
      rw [attemptInTurn_of_error may judged] at succeeds
      cases succeeds

private theorem mem_keys_attemptInTurn (tracked : device ∈ manager.sinks.keys) :
    device ∈ (attemptInTurn answers devices manager).state.sinks.keys := by
  obtain ⟨reading, found⟩ := BoundedMap.mem_keys_iff_get?.mp tracked
  have attempts : (attemptInTurn answers devices manager).ByActs answers
      (Act.InConnecting answers fun _ => True) manager :=
    attemptInTurn_byActs (fun _ _ _ _ => trivial) manager
  have spared : ∀ act, Act.InConnecting answers (fun _ => True) act → ¬ act.Rewrites device := by
    intro act allowed
    cases act with
    | connect _ _ | enroll _ _ => exact id
    | _ => exact allowed.elim
  exact BoundedMap.mem_keys_of_get? (attempts.get?_of_not_rewrites spared found)

private theorem AttemptsEnd.after_exhausted {first : Outcome Manager (Option Address)}
    {next : Option Address → Manager → Outcome Manager (Option Address)}
    (ends : first.state.AttemptsEnd rest (next first.result first.state))
    (rejected : AllRejected first.journal)
    (kept : ∀ device ∈ manager.sinks.keys, device ∈ first.state.sinks.keys)
    (others : ∀ device ∈ rest, device ∉ (connectsOf first.journal).map Prod.fst)
    (included : ∀ device ∈ rest, device ∈ devices) :
    manager.AttemptsEnd devices (first.andThen next) := by
  cases ends with
  | exhausted nothing rejectedToo => exact .exhausted nothing (rejected.append rejectedToo)
  | accepted path earlier returned listed last rejectedToo =>
      refine .accepted path (first.journal ++ earlier) returned (included _ listed) ?_
        (rejected.append rejectedToo)
      rw [Outcome.journal_andThen, last, List.append_assoc]
      rfl
  | underway earlier returned listed untracked recorded last rejectedToo unasked =>
      refine .underway (first.journal ++ earlier) returned (included _ listed)
        (fun tracked => untracked (kept _ tracked)) recorded ?_ (rejected.append rejectedToo) ?_
      · rw [Outcome.journal_andThen, last, List.append_assoc]
        rfl
      · rw [connectsOf_append, List.map_append, List.mem_append, not_or]
        exact ⟨others _ listed, unasked⟩

/-- However many devices are attempted, the attempts end in one of the ways of a single one. -/
theorem attemptInTurn_ends (distinct : devices.Nodup) (manager : Manager) :
    manager.AttemptsEnd devices (attemptInTurn answers devices manager) := by
  induction devices generalizing manager with
  | nil => exact .exhausted rfl (by simp [AllRejected, attemptInTurn])
  | cons device rest ih =>
      obtain ⟨fresh, restDistinct⟩ := List.nodup_cons.mp distinct
      have first := attemptInTurn_singleton_ends manager answers device
      cases first with
      | exhausted nothing rejected =>
          rw [← List.singleton_append, attemptInTurn_append_of_none nothing]
          refine (ih restDistinct _).after_exhausted rejected
            (fun _ => mem_keys_attemptInTurn) (fun other listed asked => ?_)
            (fun _ => List.mem_append_right _)
          -- The first attempt can only have asked for its own device, which does not come again.
          have only := (connectsOf_attemptInTurn_sublist answers [device] manager).subset asked
          exact fresh (List.mem_singleton.mp only ▸ listed)
      | accepted path earlier returned listed last rejected =>
          rw [attemptInTurn_cons_of_some returned]
          exact .accepted path earlier returned (List.mem_append_left rest listed) last rejected
      | underway earlier returned listed untracked recorded last rejected unasked =>
          rw [attemptInTurn_cons_of_some returned]
          exact .underway earlier returned (List.mem_append_left rest listed) untracked recorded
            last rejected unasked

/-- The devices behind the one that is returned make no difference. -/
theorem attemptInTurn_stops
    (returned : (attemptInTurn answers devices manager).result = some device) :
    ∃ front back, devices = front ++ device :: back ∧
      attemptInTurn answers (front ++ [device]) manager =
        attemptInTurn answers devices manager := by
  induction devices generalizing manager with
  | nil => cases returned
  | cons first rest ih =>
      have ends := attemptInTurn_singleton_ends manager answers first
      cases came : (attemptInTurn answers [first] manager).result with
      | none =>
          rw [← List.singleton_append, attemptInTurn_append_of_none came] at returned ⊢
          obtain ⟨front, back, rfl, same⟩ := ih returned
          refine ⟨first :: front, back, rfl, ?_⟩
          rw [List.cons_append, ← List.singleton_append, attemptInTurn_append_of_none came]
          simp only [Outcome.andThen, same]
      | some other =>
          rw [attemptInTurn_cons_of_some came] at returned ⊢
          obtain rfl := List.mem_singleton.mp (ends.mem_of_returned returned)
          exact ⟨[], rest, rfl, rfl⟩

private theorem attemptInTurn_of_no_may
    (barred : ∀ device, ¬ manager.mayAttempt answers device = true) :
    attemptInTurn answers devices manager = .quiet none manager := by
  induction devices with
  | nil => rfl
  | cons device rest ih => rw [attemptInTurn_of_barred (barred device), ih]

/-! ## Batches -/

/-- The manager whose due deadlines are used up. -/
def drained (manager : Manager) (now : Instant) : Manager :=
  { manager with pending := (manager.pending.drain now).2 }

/-- What a batch comes to. -/
structure BatchComesTo (manager : Manager) (answers : Collaborators) (now : Instant)
    (outcome : Outcome Manager (Option Address)) : Prop where
  /-- Of the pending connects exactly those are removed whose deadline has come. -/
  usedUp : ∀ device deadline, outcome.state.pending.deadlineOf? device = some deadline ↔
    manager.pending.deadlineOf? device = some deadline ∧ now < deadline
  inOrder : List.Sublist ((connectsOf outcome.journal).map Prod.fst) (manager.pending.due now)
  distinct : ((connectsOf outcome.journal).map Prod.fst).Nodup
  /-- A device is asked for if its turn comes: nothing came of those before it. -/
  asked : ∀ device, (∃ accepted, (device, accepted) ∈ connectsOf outcome.journal) ↔
    (manager.drained now).ReachesInTurn answers (manager.pending.due now) device
  rejectedButLast : ∀ front call back, connectsOf outcome.journal = front ++ call :: back →
    back ≠ [] → call.2 = false
  atMostOneAccepted : (connectsOf outcome.journal).countP Prod.snd ≤ 1
  ofAccepted : ∀ device, (device, true) ∈ connectsOf outcome.journal →
    outcome.result = some device ∧
      ∃ earlier path, outcome.journal =
        earlier ++ [⟨.connect device path true, outcome.state.sinks⟩]
  ofNone : outcome.result = none → ∀ call ∈ connectsOf outcome.journal, call.2 = false
  ofReturned : ∀ device, outcome.result = some device →
    (device, true) ∈ connectsOf outcome.journal ∨
      (∀ accepted, (device, accepted) ∉ connectsOf outcome.journal) ∧
        device ∉ manager.sinks.keys ∧
        outcome.state.sinks.get? device = some (.known .connecting) ∧
        ∃ earlier, outcome.journal =
          earlier ++ [⟨.stateChanged device .disconnected .connecting, outcome.state.sinks⟩]
  /-- The due devices behind the returned one make no difference. -/
  stops : ∀ device, outcome.result = some device →
    ∃ front back, manager.pending.due now = front ++ device :: back ∧
      outcome = attemptInTurn answers (front ++ [device]) (manager.drained now)
  barred : (answers.adapterEnabled = false ∨ ∃ device, manager.stateOf device ≠ .disconnected) →
    outcome = .quiet none (manager.drained now)

/-- A batch, from whatever state it starts. -/
theorem fireDue_comesTo (manager : Manager) (answers : Collaborators) (now : Instant) :
    manager.BatchComesTo answers now (manager.fireDue answers now) := by
  have distinct := manager.pending.due_nodup now
  have inOrder := connectsOf_attemptInTurn_sublist answers (manager.pending.due now)
    (manager.drained now)
  have ends : (manager.drained now).AttemptsEnd (manager.pending.due now)
      (manager.fireDue answers now) := attemptInTurn_ends distinct _
  constructor
  case usedUp =>
      intro device deadline
      rw [pending_fireDue, PendingConnects.deadlineOf?_drain, Option.filter_eq_some_iff,
        decide_eq_true_iff]
  case inOrder => exact inOrder
  case distinct => exact inOrder.nodup distinct
  case asked =>
      intro device
      exact mem_connectsOf_attemptInTurn_iff
  case rejectedButLast =>
      intro front call back split others
      obtain ⟨device, accepted⟩ := call
      cases accepted with
      | false => rfl
      | true => exact absurd (attemptInTurn_of_accepted split).1 others
  case atMostOneAccepted => exact ends.countP_accepted_le
  case ofAccepted =>
      intro device member
      exact ends.of_accepted member
  case ofNone => exact ends.of_none
  case ofReturned =>
      intro device returned
      exact ends.of_returned returned
  case stops =>
      intro device returned
      obtain ⟨front, back, split, same⟩ := attemptInTurn_stops returned
      exact ⟨front, back, split, same.symm⟩
  case barred =>
      intro bars
      refine attemptInTurn_of_no_may fun device may => ?_
      simp only [mayAttempt, Bool.and_eq_true, Bool.not_eq_true'] at may
      obtain ⟨⟨enabled, _⟩, idle⟩ := may
      cases bars with
      | inl disabled => cases disabled.symm.trans enabled
      | inr active =>
          obtain ⟨other, up⟩ := active
          exact up (SinkTable.isBusy_eq_false_iff.mp idle other)

section Sample

open Simulation

/-- Three preferred sinks of which the first rejects its connect and the second is on its
way up already. -/
def reluctantAndRising : Collaborators :=
  { (sampleStack
      [{ sampleSink "/a" (sampleAddress 1) "disconnected" with acceptsConnect := false },
        sampleSink "/b" (sampleAddress 2) "connecting",
        sampleSink "/c" (sampleAddress 3) "disconnected"]).answers with
    storedPriority := fun _ => some .auto }

/-- The sinks show up at the same time, and their batch comes on time. -/
def allShowUp : List (Collaborators × Operation) :=
  [(reluctantAndRising, .event (.remoteConnected (sampleAddress 1)) ⟨0⟩),
    (reluctantAndRising, .event (.remoteConnected (sampleAddress 2)) ⟨0⟩),
    (reluctantAndRising, .event (.remoteConnected (sampleAddress 3)) ⟨0⟩)]

example :
    let waiting := ((new ⟨⟨50⟩⟩).run allShowUp).state
    let batch := waiting.fireDue reluctantAndRising ⟨50⟩
    batch.result = some (sampleAddress 2) ∧
      connectsOf batch.journal = [(sampleAddress 1, false)] ∧
      batch.state.pending.isEmpty = true := by
  decide

end Sample

end Manager

end AudioHost
