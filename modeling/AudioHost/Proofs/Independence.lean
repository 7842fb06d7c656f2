import AudioHost.Proofs.Reports
import AudioHost.Proofs.Turn
import AudioHost.Simulation.Sample

/-!
# Reports of different devices

As long as only tracked devices are reported on, a device lives through a run as if it
were reported on alone. So the order in which the reports of different devices come in
makes no difference to any of them.
-/

set_option autoImplicit false

namespace AudioHost

/-! ## What listeners hear of a device -/

namespace Effect

/-- The changes of a device in a log, each with whether a warning stands directly before
it. `warned` tells this of the first effect. -/
def noticesAfter (device : Address) (warned : Bool) :
    List Effect → List (Bool × SinkState × SinkState)
  | [] => []
  | .becomingNoisy :: rest => noticesAfter device true rest
  | .stateChanged changed previous current :: rest =>
      if changed = device then (warned, previous, current) :: noticesAfter device false rest
      else noticesAfter device false rest
  | .connect .. :: rest | .disconnect .. :: rest | .storePriority .. :: rest
  | .audioEnabled _ :: rest => noticesAfter device false rest

def noticesOf (device : Address) (log : List Effect) : List (Bool × SinkState × SinkState) :=
  noticesAfter device false log

variable {device changed : Address} {previous current : SinkState}

private theorem moved_self (device : Address) (state : SinkState) : moved device state state = [] :=
  if_pos rfl

/-- No warning is left hanging in the air, so what comes after it is heard as ever. -/
private theorem noticesOf_moved_append (device changed : Address) (previous current : SinkState)
    (rest : List Effect) :
    noticesOf device (moved changed previous current ++ rest) =
      noticesOf device (moved changed previous current) ++ noticesOf device rest := by
  unfold moved
  split
  · rfl
  · split <;> by_cases same : changed = device <;> simp [noticesOf, noticesAfter, same]

private theorem noticesOf_moved_of_ne (different : changed ≠ device) :
    noticesOf device (moved changed previous current) = [] := by
  unfold moved
  split
  · rfl
  · split <;> simp [noticesOf, noticesAfter, different]

end Effect

/-! ## Reports among the operations -/

namespace Operation

variable {operation : Operation} {answers : Collaborators} {path : String}
  {property : SinkProperty} {device : Address}

/-- The property that an operation reports, and the path at which it changed. -/
def report? : Operation → Option (String × SinkProperty)
  | .event (.propertyChanged path property) _ => some (path.text, property)
  | .propertyChanged path property => some (path, property)
  | _ => none

/-- The device that an operation reports on. -/
def subject? (answers : Collaborators) (operation : Operation) : Option Address :=
  operation.report?.bind fun report => answers.deviceAt report.1

def concerns (answers : Collaborators) (device : Address) (operation : Operation) : Bool :=
  decide (operation.subject? answers = some device)

/-- The reading of its device after a report. -/
def rereading (answers : Collaborators) (previous : Reading) (operation : Operation) : Reading :=
  match operation.report? with
  | some (_, property) =>
      if answers.adapterEnabled && property.tellsState then .ofReport property.value.text
      else previous
  | none => previous

private theorem subject?_eq_some_iff :
    operation.subject? answers = some device ↔
      ∃ path property, operation.report? = some (path, property) ∧
        answers.deviceAt path = some device := by
  simp [subject?, Option.bind_eq_some_iff]

private theorem perform_of_report (answers : Collaborators)
    (reports : operation.report? = some (path, property)) (manager : Manager) :
    (manager.perform answers operation).state =
        (manager.propertyChanged answers path property).state ∧
      (manager.perform answers operation).effects =
        (manager.propertyChanged answers path property).effects := by
  unfold report? at reports
  split at reports <;> cases reports <;> exact ⟨rfl, rfl⟩

/-- A list of operations in another order, in which those that report on one device keep
their order. -/
structure Reorders (answers : Collaborators) (operations reordered : List Operation) :
    Prop where
  same : reordered.Perm operations
  inOrder : ∀ device, reordered.filter (concerns answers device) =
    operations.filter (concerns answers device)

end Operation

namespace Manager

open Operation

variable {manager left right : Manager} {answers : Collaborators} {operation : Operation}
  {operations reordered : List Operation} {device : Address} {previous : Reading}

/-! ## One report -/

/-- What a report of a tracked device does, and what listeners hear of it, depends on the
reading of that device alone. -/
theorem perform_of_subject (reports : operation.subject? answers = some device)
    (tracked : manager.sinks.get? device = some previous) :
    (manager.perform answers operation).state.sinks =
        manager.sinks.replace device (operation.rereading answers previous) ∧
      (manager.perform answers operation).effects =
        Effect.moved device previous.state (operation.rereading answers previous).state ∧
      (manager.perform answers operation).state.pending = manager.pending := by
  obtain ⟨path, property, told, leads⟩ := subject?_eq_some_iff.mp reports
  obtain ⟨state, effects⟩ := perform_of_report answers told manager
  rw [state, effects]
  by_cases heard : answers.adapterEnabled = true ∧ property.tellsState = true
  · have hears : answers.Hears path property device :=
      ⟨heard.1, leads, SinkProperty.tellsState_iff.mp heard.2⟩
    have reading : operation.rereading answers previous = .ofReport property.value.text := by
      simp only [rereading, told, heard.1, heard.2, Bool.and_self, if_true]
    rw [reading, propertyChanged_of_tracked hears tracked]
    refine ⟨?_, effects_applyReport tracked _, ?_⟩
    · rw [applyReport_of_tracked tracked]
      rfl
    · rw [applyReport_of_tracked tracked]
      rfl
  · have reading : operation.rereading answers previous = previous := by
      simp [rereading, told, heard]
    have unheard : ¬ ∃ device, answers.Hears path property device := fun ⟨_, hears⟩ =>
      heard ⟨hears.enabled, SinkProperty.tellsState_iff.mpr hears.named⟩
    rw [reading, propertyChanged_of_unheard (unheard_of_not_hears unheard), Effect.moved_self,
      BoundedMap.replace_of_get?_eq_some tracked]
    exact ⟨rfl, rfl, rfl⟩

/-! ## Runs of reports -/

/-- Every operation reports on a tracked device. -/
def OnTracked (manager : Manager) (answers : Collaborators) (operations : List Operation) :
    Prop :=
  ∀ operation ∈ operations, ∃ device ∈ manager.sinks.keys,
    operation.subject? answers = some device

private theorem OnTracked.exists_reading
    (onTracked : manager.OnTracked answers (operation :: operations)) :
    ∃ device previous, operation.subject? answers = some device ∧
      manager.sinks.get? device = some previous := by
  obtain ⟨device, present, reports⟩ := onTracked operation List.mem_cons_self
  obtain ⟨previous, tracked⟩ := BoundedMap.mem_keys_iff_get?.mp present
  exact ⟨device, previous, reports, tracked⟩

private theorem OnTracked.tail (onTracked : manager.OnTracked answers (operation :: operations)) :
    (manager.perform answers operation).state.OnTracked answers operations := by
  obtain ⟨device, previous, reports, tracked⟩ := onTracked.exists_reading
  intro later member
  rw [(perform_of_subject reports tracked).1, BoundedMap.keys_replace]
  exact onTracked later (List.mem_cons_of_mem operation member)

private theorem run_of_onTracked (onTracked : manager.OnTracked answers operations) :
    (manager.run (operations.map (answers, ·))).state.sinks.keys = manager.sinks.keys ∧
      (manager.run (operations.map (answers, ·))).state.pending = manager.pending ∧
      ∀ effect ∈ (manager.run (operations.map (answers, ·))).effects, effect.IsNotice := by
  induction operations generalizing manager with
  | nil => exact ⟨rfl, rfl, fun _ member => by cases member⟩
  | cons operation rest ih =>
      obtain ⟨device, previous, reports, tracked⟩ := onTracked.exists_reading
      obtain ⟨sinks, _, pending⟩ := perform_of_subject reports tracked
      obtain ⟨restKeys, restPending, restTold⟩ := ih onTracked.tail
      refine ⟨?_, restPending.trans pending, fun effect member => ?_⟩
      · exact restKeys.trans (sinks ▸ BoundedMap.keys_replace _ device _)
      · rw [List.map_cons, effects_run_cons, List.mem_append] at member
        rcases member with now | later
        · obtain ⟨path, property, told, _⟩ := subject?_eq_some_iff.mp reports
          rw [(perform_of_report answers told manager).2] at now
          exact isNotice_of_propertyChanged now
        · exact restTold effect later

/-- In a run of reports a device lives as in a run of its own reports alone. -/
theorem run_of_own (right : Manager) (device : Address)
    (onTracked : left.OnTracked answers operations)
    (same : left.sinks.get? device = right.sinks.get? device) :
    (left.run (operations.map (answers, ·))).state.sinks.get? device =
        (right.run ((operations.filter (concerns answers device)).map
          (answers, ·))).state.sinks.get? device ∧
      Effect.noticesOf device (left.run (operations.map (answers, ·))).effects =
        Effect.noticesOf device (right.run ((operations.filter (concerns answers device)).map
          (answers, ·))).effects := by
  induction operations generalizing left right with
  | nil => exact ⟨same, rfl⟩
  | cons operation rest ih =>
      obtain ⟨subject, previous, reports, tracked⟩ := onTracked.exists_reading
      obtain ⟨sinks, told, _⟩ := perform_of_subject reports tracked
      have present := BoundedMap.mem_keys_of_get? tracked
      rw [List.map_cons, effects_run_cons, told, Effect.noticesOf_moved_append]
      by_cases own : subject = device
      · subst own
        have trackedToo := same.symm.trans tracked
        obtain ⟨sinksToo, toldToo, _⟩ := perform_of_subject reports trackedToo
        have still : (left.perform answers operation).state.sinks.get? subject =
            (right.perform answers operation).state.sinks.get? subject := by
          rw [sinks, sinksToo, BoundedMap.get?_replace_of_mem present,
            BoundedMap.get?_replace_of_mem (BoundedMap.mem_keys_of_get? trackedToo),
            if_pos rfl, if_pos rfl]
        obtain ⟨found, notices⟩ := ih _ onTracked.tail still
        rw [List.filter_cons_of_pos (by simpa [concerns] using reports), List.map_cons,
          effects_run_cons, toldToo, Effect.noticesOf_moved_append, notices]
        exact ⟨found, rfl⟩
      · have still : (left.perform answers operation).state.sinks.get? device =
            right.sinks.get? device := by
          rw [sinks, BoundedMap.get?_replace_of_mem present, if_neg (Ne.symm own), same]
        rw [List.filter_cons_of_neg (by simpa [concerns, reports] using own),
          Effect.noticesOf_moved_of_ne own, List.nil_append]
        exact ih right onTracked.tail still

/-- Reports in another order: every device ends up as before and is spoken of as before,
and nothing else is touched. -/
structure ComesToTheSame (manager : Manager) (answers : Collaborators)
    (operations reordered : List Operation) : Prop where
  sinks : (manager.run (reordered.map (answers, ·))).state.sinks =
    (manager.run (operations.map (answers, ·))).state.sinks
  notices : ∀ device,
    Effect.noticesOf device (manager.run (reordered.map (answers, ·))).effects =
      Effect.noticesOf device (manager.run (operations.map (answers, ·))).effects
  waiting : (manager.run (reordered.map (answers, ·))).state.pending = manager.pending
  unstored : ∀ effect ∈ (manager.run (reordered.map (answers, ·))).effects,
    ∀ device priority accepted, effect ≠ .storePriority device priority accepted

theorem run_of_reorders (onTracked : manager.OnTracked answers operations)
    (reorders : Reorders answers operations reordered) :
    manager.ComesToTheSame answers operations reordered := by
  have onTrackedToo : manager.OnTracked answers reordered := fun operation member =>
    onTracked operation (reorders.same.mem_iff.mp member)
  obtain ⟨keys, pending, notices⟩ := run_of_onTracked onTrackedToo
  -- Either run is to a device what the run of its own reports is.
  have own := fun device => run_of_own manager device onTracked rfl
  have ownToo := fun device => run_of_own manager device onTrackedToo rfl
  simp only [reorders.inOrder] at ownToo
  constructor
  case sinks =>
      apply BoundedMap.eq_of_keys_of_get?
      · exact keys.trans (run_of_onTracked onTracked).1.symm
      · intro device
        exact (ownToo device).1.trans (own device).1.symm
  case notices =>
      intro device
      exact (ownToo device).2.trans (own device).2.symm
  case waiting => exact pending
  case unstored =>
      rintro effect member device priority accepted rfl
      exact notices _ member

section Sample

open Simulation

/-- Two sinks are found when the adapter goes on. -/
def bothFound : Manager := ((new {}).scanBonded twoSinks).state

/-- The first sink plays and then tells nothing of use, the second one comes and goes. -/
def reportsInTurn : List Operation :=
  [.event reportPlaying .zero, .event reportSecondConnected .zero, .event reportNonsense .zero,
    .event reportSecondVolume .zero, .event reportSecondDisconnected .zero]

/-- The second sink is heard of first. -/
def reportsApart : List Operation :=
  [.event reportSecondConnected .zero, .event reportSecondVolume .zero,
    .event reportSecondDisconnected .zero, .event reportPlaying .zero,
    .event reportNonsense .zero]

theorem run_of_reorders_of_reportsApart :
    bothFound.OnTracked twoSinks reportsInTurn ∧
    Reorders twoSinks reportsInTurn reportsApart ∧
    bothFound.ComesToTheSame twoSinks reportsInTurn reportsApart ∧
    Effect.noticesOf (sampleAddress 2)
        (bothFound.run (reportsApart.map (twoSinks, ·))).effects =
      [(false, .disconnected, .connected), (true, .connected, .disconnected)] := by
  have onTracked : bothFound.OnTracked twoSinks reportsInTurn := by
    unfold OnTracked
    decide
  have reorders : Reorders twoSinks reportsInTurn reportsApart := by
    constructor
    case same => decide
    case inOrder =>
        intro device
        by_cases first : device = sampleAddress 1
        · subst first
          decide
        by_cases second : device = sampleAddress 2
        · subst second
          decide
        -- Nothing is reported of any other device.
        have silent : ∀ operation ∈ reportsApart ++ reportsInTurn,
            ¬ concerns twoSinks device operation = true := by
          have subjects : ∀ operation ∈ reportsApart ++ reportsInTurn,
              operation.subject? twoSinks = some (sampleAddress 1) ∨
                operation.subject? twoSinks = some (sampleAddress 2) := by decide
          intro operation member concerned
          have subject := of_decide_eq_true concerned
          rcases subjects operation member with one | two
          · exact first (Option.some.inj (subject.symm.trans one))
          · exact second (Option.some.inj (subject.symm.trans two))
        have none := List.filter_eq_nil_iff.mpr silent
        rw [List.filter_append, List.append_eq_nil_iff] at none
        exact none.1.trans none.2.symm
  exact ⟨onTracked, reorders, run_of_reorders onTracked reorders, by decide⟩

end Sample

end Manager

end AudioHost
