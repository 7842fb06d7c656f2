import AudioHost.Manager.Connection
import AudioHost.Proofs.Change

/-!
# Causes of refusals

For what causes the steps of a connect and the connect itself are refused. Being busy is
the one cause that only the connect as a whole gives, and only for a busy table.
-/

set_option autoImplicit false

namespace AudioHost

variable {manager : Manager} {answers : Collaborators} {device : Address} {cause : Refusal}

private theorem Collaborators.of_readSink_eq_error
    (unread : answers.readSink device = .error cause) :
    cause = .unknownDevice ∨ cause = .nativeCallFailed := by
  unfold readSink at unread
  split at unread
  · cases unread
    exact .inl rfl
  · split at unread
    · cases unread
      exact .inr rfl
    · cases unread

namespace Manager

private theorem of_requestConnect_eq_error
    (refused : (manager.requestConnect answers device).result = .error cause) :
    cause = .unknownDevice ∨ cause = .nativeCallFailed := by
  unfold requestConnect at refused
  split at refused
  · cases refused
    exact .inl rfl
  · next path _ =>
      rw [Outcome.result_map] at refused
      split at refused
      · cases refused
      · cases refused
        exact .inr rfl

private theorem of_connectFrom_eq_error {reading : Reading}
    (refused : (manager.connectFrom answers device reading).result = .error cause) :
    cause = .alreadyTerminal ∨ cause = .unknownDevice ∨ cause = .nativeCallFailed := by
  unfold connectFrom at refused
  split at refused
  case h_4 => cases refused
  case h_5 => exact .inr (of_requestConnect_eq_error refused)
  all_goals
    cases refused
    exact .inl rfl

private theorem of_track_eq_error (refused : (manager.track answers device).result = .error cause) :
    cause = .tableFull ∨ cause = .unknownDevice ∨ cause = .nativeCallFailed := by
  cases read : answers.readSink device with
  | error unreadCause =>
      rw [track_of_unread read] at refused
      cases refused
      exact .inr (Collaborators.of_readSink_eq_error read)
  | ok reading =>
      cases taken : manager.sinks.insert? device reading with
      | none =>
          rw [track_of_full read taken] at refused
          cases refused
          exact .inl rfl
      | some sinks =>
          rw [track_of_taken read taken] at refused
          cases refused

/-- A connect is refused because the table is busy or because one of its steps is refused. -/
theorem of_connect_eq_error (refused : (manager.connect answers device).result = .error cause) :
    (cause = .alreadyBusy ∧ manager.isBusy = true) ∨ cause = .tableFull ∨
      cause = .alreadyTerminal ∨ cause = .unknownDevice ∨ cause = .nativeCallFailed := by
  unfold connect at refused
  split at refused
  · next busy =>
      cases refused
      exact .inl ⟨rfl, busy⟩
  · refine .inr ?_
    split at refused
    · exact .inr (of_connectFrom_eq_error refused)
    · rw [Outcome.result_andThen] at refused
      split at refused
      · next trackCause untracked =>
          cases refused
          rcases of_track_eq_error untracked with full | unread
          · exact .inl full
          · exact .inr (.inr unread)
      · exact .inr (of_connectFrom_eq_error refused)

theorem result_connect_eq_alreadyBusy_iff :
    (manager.connect answers device).result = .error .alreadyBusy ↔ manager.isBusy = true := by
  constructor
  · intro refused
    have causes := of_connect_eq_error refused
    simpa using causes
  · intro busy
    rw [connect, if_pos busy]
    rfl

end Manager

end AudioHost
