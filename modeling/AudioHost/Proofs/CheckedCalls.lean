import AudioHost.Proofs.AddressCodec
import AudioHost.Proofs.Calls
import AudioHost.Shell.Deployment
import AudioHost.Simulation.Sample

/-!
# Calls with texts of any length

A caller hands over any text, but a message carries only so many bytes. What does not fit is
nothing that the manager would take either, and what fits comes to the manager as it is. So a
call to a host at rest does what the manager alone would have done.
-/

set_option autoImplicit false

namespace AudioHost

/-! ## Texts that fit and texts that do not -/

section Addresses

variable {address : String}

private theorem WrittenAddress.exists_of_not_long (fits : ¬ 17 < address.utf8ByteSize) :
    ∃ carried : WrittenAddress, carried.text = address :=
  ⟨⟨address, Nat.not_lt.mp fits⟩, rfl⟩

private theorem WrittenAddress.ofString?_of_long (long : 17 < address.utf8ByteSize) :
    (BoundedText.ofString? address : Option WrittenAddress) = none :=
  BoundedText.ofString?_eq_none_iff.mpr long

private theorem Query.storePriority?_of_long (long : 17 < address.utf8ByteSize)
    (priority : Priority) : storePriority? address priority = .error .invalidAddress := by
  rw [storePriority?, Request.storePriority?, WrittenAddress.ofString?_of_long long]

private theorem Event.bondChanged?_of_long (long : 17 < address.utf8ByteSize) (state : BondState) :
    bondChanged? address state = .error .invalidAddress := by
  rw [bondChanged?, WrittenAddress.ofString?_of_long long]

/-- The manager does not take an address of another length either. -/
private theorem Address.ofText?_of_size (size : address.utf8ByteSize ≠ 17) :
    ofText? address = none := by
  rw [← address?_judge, judge, if_neg size]
  rfl

namespace Manager

private theorem storePriority_of_long (long : 17 < address.utf8ByteSize) (manager : Manager)
    (answers : Collaborators) (priority : Priority) :
    manager.storePriority answers address priority = .quiet (.error .invalidAddress) manager := by
  rw [storePriority, Address.ofText?_of_size (Nat.ne_of_gt long)]

private theorem bondChanged_of_long (long : 17 < address.utf8ByteSize) (manager : Manager)
    (answers : Collaborators) (state : BondState) :
    manager.bondChanged answers address state = .quiet () manager := by
  rw [bondChanged, storePriority_of_long long]
  rfl

end Manager

end Addresses

private theorem SinkProperty.ofTexts?_of_long {name value : String}
    (long : 32 < name.utf8ByteSize ∨ 32 < value.utf8ByteSize) : ofTexts? name value = none := by
  unfold ofTexts?
  split
  · next name value nameFits valueFits =>
      obtain rfl := BoundedText.ofString?_eq_some_iff.mp nameFits
      obtain rfl := BoundedText.ofString?_eq_some_iff.mp valueFits
      obtain long | long := long
      · exact absurd name.fits (Nat.not_le.mpr long)
      · exact absurd value.fits (Nat.not_le.mpr long)
  · rfl

namespace Event

variable {path name value : String}

private theorem propertyChanged?_of_long
    (long : 64 < path.utf8ByteSize ∨ 32 < name.utf8ByteSize ∨ 32 < value.utf8ByteSize) :
    propertyChanged? path name value = .error .tooLong := by
  unfold propertyChanged?
  split
  · next path property pathFits propertyFits =>
      obtain rfl := BoundedText.ofString?_eq_some_iff.mp pathFits
      obtain long | long := long
      · exact absurd path.fits (Nat.not_le.mpr long)
      · cases (SinkProperty.ofTexts?_of_long long).symm.trans propertyFits
  · rfl

private theorem propertyChanged?_of_fits (pathFits : path.utf8ByteSize ≤ 64)
    (nameFits : name.utf8ByteSize ≤ 32) (valueFits : value.utf8ByteSize ≤ 32) :
    propertyChanged? path name value =
      .ok (.propertyChanged ⟨path, pathFits⟩ ⟨⟨name, nameFits⟩, ⟨value, valueFits⟩⟩) := by
  unfold propertyChanged? SinkProperty.ofTexts?
  rw [BoundedText.ofString?_eq_some_iff.mpr (rfl : BoundedText.text ⟨path, pathFits⟩ = path),
    BoundedText.ofString?_eq_some_iff.mpr (rfl : BoundedText.text ⟨name, nameFits⟩ = name),
    BoundedText.ofString?_eq_some_iff.mpr (rfl : BoundedText.text ⟨value, valueFits⟩ = value)]

end Event

/-! ## Waiting workers -/

/-- No response is held, and the sleeper has no reason to wake. -/
structure Workers.Dozing (workers : Workers) (clock : Instant) (signal : Bool) : Prop where
  free : workers.held = none
  asleep : ∃ deadline, workers.sleeper = .asleep deadline ∧
    Shell.deadlineReached deadline clock = false
  quiet : signal = false

namespace Shell

variable {shell : Shell} {manager : Manager} {workers : Workers} {answers : Collaborators}
  {kind : WorkerStep} {progress : Progress}

private theorem applyEvent_waits_iff (running : shell.stage = .running manager workers) :
    shell.step? answers .applyEvent = none ↔ shell.events.queued = [] := by
  simp [step?, running, applyEvent?, Channel.receive?_eq_none_iff]

/-- Workers that doze do nothing but hand a message to the manager. -/
private theorem step?_of_dozing (running : shell.stage = .running manager workers)
    (dozing : workers.Dozing shell.clock shell.signal)
    (noEvent : kind = .applyEvent → shell.events.queued = [])
    (noRequest : kind = .serveRequest → shell.requests.queued = []) :
    shell.step? answers kind = none := by
  obtain ⟨free, ⟨deadline, asleep, early⟩, quiet⟩ := dozing
  cases kind with
  | applyEvent => exact (applyEvent_waits_iff running).mpr (noEvent rfl)
  | sendHeld => simp [step?, running, sendHeld?, free]
  | serveRequest => exact (serveRequest_waits_iff running free).mpr (noRequest rfl)
  | fallAsleep => exact (fallAsleep_waits_iff running).mpr ⟨deadline, asleep⟩
  | wake => exact (wake_waits_iff running asleep).mpr ⟨early, quiet⟩

private theorem dozing_of_nextStep?_eq_none (running : shell.stage = .running manager workers)
    (responses : shell.responses.queued = []) (waits : shell.nextStep? answers = none) :
    workers.Dozing shell.clock shell.signal := by
  have all := nextStep?_eq_none_iff.mp waits
  obtain ⟨deadline, asleep⟩ := (fallAsleep_waits_iff running).mp (all .fallAsleep)
  obtain ⟨early, quiet⟩ := (wake_waits_iff running asleep).mp (all .wake)
  refine ⟨?_, ⟨deadline, asleep, early⟩, quiet⟩
  cases held : workers.held with
  | none => rfl
  | some response =>
      have full := (sendHeld_waits_iff running held).mp (all .sendHeld)
      rw [responses] at full
      cases full

private theorem step?_applyEvent {event : Event} {events : Channel Event}
    (running : shell.stage = .running manager workers)
    (oldest : shell.events.receive? = some (event, events))
    (unscheduled : (manager.applyEvent answers shell.clock event).result = .ok false) :
    shell.step? answers .applyEvent = some
      { result := .ok ()
        state :=
          { shell with
            stage := .running (manager.applyEvent answers shell.clock event).state workers
            events }
        journal := (manager.applyEvent answers shell.clock event).journal } := by
  simp [step?, running, applyEvent?, oldest, unscheduled, Except.map, Except.toOption]

private theorem step?_serveRequest {request : Request} {requests : Channel Request}
    {responses : Channel Response} (running : shell.stage = .running manager workers)
    (free : workers.held = none) (oldest : shell.requests.receive? = some (request, requests))
    (answered : shell.responses.send? (manager.serve answers request).result = some responses) :
    shell.step? answers .serveRequest = some
      { result := .ok ()
        state :=
          { shell with
            stage := .running (manager.serve answers request).state workers
            requests
            responses }
        journal := (manager.serve answers request).journal } := by
  simp [step?, running, serveRequest?, free, oldest, answered]

/-- Where a single step is possible, it does not matter whose turn it is. -/
private theorem nextStep?_of_only (possible : shell.step? answers kind = some progress)
    (others : ∀ other, other ≠ kind → shell.step? answers other = none) :
    shell.nextStep? answers = some progress := by
  unfold nextStep? WorkerStep.all
  cases kind <;> simp [possible, others]

end Shell

namespace Deployment

variable {Surroundings Result Answer : Type} [World Surroundings]

/-! ## Settling -/

section Settling

variable {deployment : Deployment Shell Surroundings} {progress : Shell.Progress}

private theorem settle_of_waits
    (waits : deployment.system.nextStep? (World.answers deployment.world) = none) :
    deployment.settle = .quiet (.ok ()) deployment := by
  simp only [settle, Shell.workload, runWorkers, waits]

private theorem settle_of_one
    (next : deployment.system.nextStep? (World.answers deployment.world) = some progress)
    (sound : progress.result = .ok ())
    (waits : (deployment.takeIn progress).state.system.nextStep?
      (World.answers (deployment.takeIn progress).state.world) = none) :
    deployment.settle = deployment.takeIn progress := by
  have taken : (deployment.takeIn progress).result = .ok () := sound
  simp only [settle, Shell.workload, runWorkers, next, Outcome.andThen, taken, waits]
  simp only [Outcome.quiet, List.append_nil, ← taken]

variable {pending rest : Call} {reached : CallEnd} {shell : Shell}

private theorem call_of_ends (ends : pending.advance deployment.system = (.ok reached, shell))
    (turns : Nat) :
    deployment.call (turns + 1) pending = settleWith (some reached) ⟨shell, deployment.world⟩ := by
  simp only [call, ends]

private theorem call_of_goes_on (goesOn : pending.advance deployment.system = (.error rest, shell))
    (sound : (settle ⟨shell, deployment.world⟩).result = .ok ()) (turns : Nat) :
    deployment.call (turns + 1) pending =
      (settle ⟨shell, deployment.world⟩).andThen fun _ rested => rested.call turns rest := by
  simp only [call, goesOn, Outcome.andThen, sound]

end Settling

/-! ## At rest -/

/-- The workers run and wait, and no message is on its way. -/
structure AtRest (deployment : Deployment Shell Surroundings) (manager : Manager)
    (workers : Workers) : Prop where
  running : deployment.system.stage = .running manager workers
  events : deployment.system.events.queued = []
  requests : deployment.system.requests.queued = []
  responses : deployment.system.responses.queued = []
  waits : deployment.system.nextStep? (World.answers deployment.world) = none

/-- A manager alone in the world of a host. -/
def alone (deployment : Deployment Shell Surroundings) (manager : Manager) :
    Deployment Manager Surroundings := ⟨manager, deployment.world⟩

/-- The host after its manager did something and a caller got an answer. -/
def hosting (deployment : Deployment Shell Surroundings) (workers : Workers)
    (direct : Outcome (Deployment Manager Surroundings) Result) (answer : Answer) :
    Outcome (Deployment Shell Surroundings) (Except ClockOverflow (Option Answer)) where
  result := .ok (some answer)
  state :=
    ⟨{ deployment.system with stage := .running direct.state.system workers },
      direct.state.world⟩
  journal := direct.journal

/-- A call has the answer, leaves the world and writes the journal of an operation of the
manager alone, and the host is at rest again. -/
structure ComesTo (deployment : Deployment Shell Surroundings) (workers : Workers)
    (outcome : Outcome (Deployment Shell Surroundings) (Except ClockOverflow (Option Answer)))
    (direct : Outcome (Deployment Manager Surroundings) Result) (answer : Answer) : Prop where
  same : outcome = deployment.hosting workers direct answer
  rests : outcome.state.AtRest direct.state.system workers

variable {deployment : Deployment Shell Surroundings} {manager : Manager} {workers : Workers}

private theorem AtRest.dozing (rest : deployment.AtRest manager workers) :
    workers.Dozing deployment.system.clock deployment.system.signal :=
  Shell.dozing_of_nextStep?_eq_none rest.running rest.responses rest.waits

theorem atRest_of_dozing {shell : Shell} {world : Surroundings}
    (running : shell.stage = .running manager workers)
    (dozing : workers.Dozing shell.clock shell.signal) (events : shell.events.queued = [])
    (requests : shell.requests.queued = []) (responses : shell.responses.queued = []) :
    AtRest ⟨shell, world⟩ manager workers where
  running := running
  events := events
  requests := requests
  responses := responses
  waits := Shell.nextStep?_eq_none_iff.mpr fun _ =>
    Shell.step?_of_dozing running dozing (fun _ => events) fun _ => requests

/-- What the manager does while the host is at rest leaves it at rest. -/
private theorem AtRest.after (rest : deployment.AtRest manager workers)
    (direct : Outcome (Deployment Manager Surroundings) Result) (answer : Answer) :
    (deployment.hosting workers direct answer).state.AtRest direct.state.system workers :=
  atRest_of_dozing rfl rest.dozing rest.events rest.requests rest.responses

private theorem AtRest.settleWith_eq (rest : deployment.AtRest manager workers) (answer : Answer) :
    deployment.settleWith (some answer) = .quiet (.ok (some answer)) deployment := by
  rw [Deployment.settleWith, settle_of_waits rest.waits]
  rfl

/-- A call that is over at once comes to what a manager does that does nothing. -/
private theorem AtRest.comesTo_quiet (rest : deployment.AtRest manager workers) (result : Result)
    (answer : Answer) :
    deployment.ComesTo workers (.quiet (.ok (some answer)) deployment)
      (.quiet result (deployment.alone manager)) answer where
  same := by
    have unchanged : deployment.system =
        { deployment.system with stage := .running manager workers } := by
      rw [← rest.running]
    show Outcome.mk _ _ _ = Outcome.mk _ _ _
    rw [Outcome.mk.injEq]
    exact ⟨rfl, congrArg (Deployment.mk · deployment.world) unchanged, rfl⟩
  rests := rest

/-! ## Queued messages -/

private theorem AtRest.call_post (rest : deployment.AtRest manager workers) (turns : Nat)
    (event : Event)
    (unscheduled : (manager.applyEvent (World.answers deployment.world)
      deployment.system.clock event).result = .ok false) :
    deployment.call (turns + 1) (.post event) =
      deployment.hosting workers
        ((deployment.alone manager).operate fun answers manager =>
          manager.applyEvent answers deployment.system.clock event) CallEnd.posted := by
  obtain ⟨events, sent, received⟩ := Channel.exists_send?_of_empty rest.events event
  let posted : Shell := { deployment.system with events }
  have advanced : Call.advance deployment.system (.post event) = (.ok .posted, posted) := by
    simp only [Call.advance, Shell.post?, sent, Option.map_some, posted]
  have possible : posted.step? (World.answers deployment.world) .applyEvent = _ :=
    Shell.step?_applyEvent rest.running received unscheduled
  have next := Shell.nextStep?_of_only possible fun other different =>
    Shell.step?_of_dozing rest.running rest.dozing (fun same => absurd same different)
      fun _ => rest.requests
  let direct := (deployment.alone manager).operate fun answers manager =>
    manager.applyEvent answers deployment.system.clock event
  have settled : settle ⟨posted, deployment.world⟩ = _ :=
    settle_of_one next rfl (rest.after direct CallEnd.posted).waits
  rw [call_of_ends advanced, settleWith, settled]
  rfl

private theorem AtRest.call_ask (rest : deployment.AtRest manager workers) (turns : Nat)
    (request : Request) :
    deployment.call (turns + 2) (.ask request) =
      deployment.hosting workers
        ((deployment.alone manager).operate fun answers manager => manager.serve answers request)
        (CallEnd.answered (manager.serve (World.answers deployment.world) request).result) := by
  let answer := (manager.serve (World.answers deployment.world) request).result
  obtain ⟨requests, sent, received⟩ := Channel.exists_send?_of_empty rest.requests request
  obtain ⟨responses, answered, taken⟩ := Channel.exists_send?_of_empty rest.responses answer
  let submitted : Shell := { deployment.system with requests }
  have asks : Call.advance deployment.system (.ask request) = (.error .await, submitted) := by
    have nothing := Channel.receive?_eq_none_iff.mpr rest.responses
    simp only [Call.advance, Shell.submit?, sent, Option.map_some, Call.advance.takeResponse,
      Shell.collect?, nothing, Option.map_none, submitted]
  have possible : submitted.step? (World.answers deployment.world) .serveRequest = _ :=
    Shell.step?_serveRequest rest.running rest.dozing.free received answered
  have next := Shell.nextStep?_of_only possible fun other different =>
    Shell.step?_of_dozing rest.running rest.dozing (fun _ => rest.events)
      fun same => absurd same different
  let direct := (deployment.alone manager).operate fun answers manager =>
    manager.serve answers request
  let served : Shell :=
    { deployment.system with stage := .running direct.state.system workers, responses }
  have waits : served.nextStep? (World.answers direct.state.world) = none :=
    Shell.nextStep?_eq_none_iff.mpr fun _ =>
      Shell.step?_of_dozing rfl rest.dozing (fun _ => rest.events) fun _ => rest.requests
  have settled : settle ⟨submitted, deployment.world⟩ = _ := settle_of_one next rfl waits
  have takes : Call.advance served .await =
      (.ok (.answered answer),
        { deployment.system with stage := .running direct.state.system workers }) := by
    simp only [Call.advance, Call.advance.takeResponse, Shell.collect?, served, taken,
      Option.map_some]
  have ends : call (turns + 1) ⟨served, direct.state.world⟩ .await = _ :=
    (call_of_ends takes turns).trans
      ((rest.after direct (CallEnd.answered answer)).settleWith_eq _)
  rw [call_of_goes_on asks (settled ▸ rfl), settled]
  show Outcome.mk (call (turns + 1) ⟨served, direct.state.world⟩ .await).result
    (call (turns + 1) ⟨served, direct.state.world⟩ .await).state
    (_ ++ (call (turns + 1) ⟨served, direct.state.world⟩ .await).journal) = _
  rw [ends, Outcome.journal_quiet, List.append_nil]
  rfl

/-! ## Queries and events -/

theorem AtRest.ask_comesTo (rest : deployment.AtRest manager workers) (turns : Nat)
    {query : Query Answer} {responds : Except Refusal Answer → Response}
    {operation : Collaborators → Manager → Outcome Manager (Except Refusal Answer)}
    (serves : ∀ answers manager,
      manager.serve answers query.request = (operation answers manager).map responds)
    (reads : ∀ verdict, query.read (responds verdict) = verdict) :
    deployment.ComesTo workers (deployment.ask (turns + 2) (.ok query))
      ((deployment.alone manager).operate operation)
      ((deployment.alone manager).operate operation).result := by
  have same : deployment.ask (turns + 2) (.ok query) =
      deployment.hosting workers ((deployment.alone manager).operate operation)
        ((deployment.alone manager).operate operation).result := by
    have answer := reads (operation (World.answers deployment.world) manager).result
    rw [ask, rest.call_ask turns query.request]
    simp only [serves, Outcome.result_map]
    show Outcome.mk (Except.ok (some (query.read _))) _ _ = _
    rw [answer]
    rfl
  exact ⟨same, same ▸ rest.after _ _⟩

theorem AtRest.post_comesTo (rest : deployment.AtRest manager workers) (turns : Nat)
    {event : Event} {operation : Collaborators → Manager → Outcome Manager Unit}
    (applies : ∀ answers manager now, manager.applyEvent answers now event =
      (operation answers manager).map fun _ => .ok false) :
    deployment.ComesTo workers (deployment.post (turns + 1) (.ok event))
      ((deployment.alone manager).operate operation) (.ok ()) := by
  have same : deployment.post (turns + 1) (.ok event) =
      deployment.hosting workers ((deployment.alone manager).operate operation) (.ok ()) := by
    rw [post, rest.call_post turns event (by rw [applies]; rfl)]
    simp only [applies]
    rfl
  exact ⟨same, same ▸ rest.after _ _⟩

/-! ## Main result -/

/-- What a caller brings about with texts of any length is what the manager alone would do
with them. -/
structure CallsKeepMeaning (deployment : Deployment Shell Surroundings) (manager : Manager)
    (workers : Workers) : Prop where
  storePriority : ∀ turns address priority,
    deployment.ComesTo workers
      (deployment.ask (turns + 2) (Query.storePriority? address priority))
      ((deployment.alone manager).operate fun answers manager =>
        manager.storePriority answers address priority)
      ((deployment.alone manager).operate fun answers manager =>
        manager.storePriority answers address priority).result
  storePriorityRefused : ∀ turns address priority, 17 < address.utf8ByteSize →
    deployment.ask turns (Query.storePriority? address priority) =
      .quiet (.ok (some (.error .invalidAddress))) deployment
  bondChanged : ∀ turns address state,
    deployment.ComesTo workers (deployment.post (turns + 1) (Event.bondChanged? address state))
      ((deployment.alone manager).operate fun answers manager =>
        manager.bondChanged answers address state)
      (if 17 < address.utf8ByteSize then .error .invalidAddress else .ok ())
  propertyRefused : ∀ turns path name value,
    64 < path.utf8ByteSize ∨ 32 < name.utf8ByteSize ∨ 32 < value.utf8ByteSize →
      deployment.post turns (Event.propertyChanged? path name value) =
        .quiet (.ok (some (.error .tooLong))) deployment
  propertyChanged : ∀ turns path name value, path.utf8ByteSize ≤ 64 →
    name.utf8ByteSize ≤ 32 → value.utf8ByteSize ≤ 32 →
      ∃ property : SinkProperty, property.name.text = name ∧ property.value.text = value ∧
        deployment.ComesTo workers
          (deployment.post (turns + 1) (Event.propertyChanged? path name value))
          ((deployment.alone manager).operate fun answers manager =>
            manager.propertyChanged answers path property)
          (.ok ())

theorem AtRest.storePriority_comesTo (rest : deployment.AtRest manager workers) (turns : Nat)
    (address : String) (priority : Priority) :
    deployment.ComesTo workers
      (deployment.ask (turns + 2) (Query.storePriority? address priority))
      ((deployment.alone manager).operate fun answers manager =>
        manager.storePriority answers address priority)
      ((deployment.alone manager).operate fun answers manager =>
        manager.storePriority answers address priority).result := by
  by_cases long : 17 < address.utf8ByteSize
  · have refused : (deployment.alone manager).operate (fun answers manager =>
        manager.storePriority answers address priority) =
          .quiet (.error .invalidAddress) (deployment.alone manager) := by
      simp only [operate, Manager.storePriority_of_long long]
      rfl
    rw [Query.storePriority?_of_long long, refused, ask, rest.settleWith_eq]
    exact rest.comesTo_quiet _ _
  · obtain ⟨carried, rfl⟩ := WrittenAddress.exists_of_not_long long
    rw [Query.storePriority?, Request.storePriority?, BoundedText.ofString?_text]
    exact rest.ask_comesTo turns (fun _ _ => rfl) Manager.readDone_responseOf

theorem AtRest.bondChanged_comesTo (rest : deployment.AtRest manager workers) (turns : Nat)
    (address : String) (state : BondState) :
    deployment.ComesTo workers (deployment.post (turns + 1) (Event.bondChanged? address state))
      ((deployment.alone manager).operate fun answers manager =>
        manager.bondChanged answers address state)
      (if 17 < address.utf8ByteSize then .error .invalidAddress else .ok ()) := by
  by_cases long : 17 < address.utf8ByteSize
  · have nothing : (deployment.alone manager).operate (fun answers manager =>
        manager.bondChanged answers address state) = .quiet () (deployment.alone manager) := by
      simp only [operate, Manager.bondChanged_of_long long]
      rfl
    rw [if_pos long, Event.bondChanged?_of_long long, nothing, post, rest.settleWith_eq]
    exact rest.comesTo_quiet _ _
  · rw [if_neg long]
    obtain ⟨carried, rfl⟩ := WrittenAddress.exists_of_not_long long
    rw [Event.bondChanged?, BoundedText.ofString?_text]
    exact rest.post_comesTo turns fun _ _ _ => rfl

/-- A call to a host at rest means what it would mean to the manager alone. -/
theorem calls_keep_meaning (rest : deployment.AtRest manager workers) :
    deployment.CallsKeepMeaning manager workers where
  storePriority := rest.storePriority_comesTo
  storePriorityRefused turns address priority long := by
    rw [Query.storePriority?_of_long long]
    exact rest.settleWith_eq _
  bondChanged := rest.bondChanged_comesTo
  propertyRefused turns path name value long := by
    rw [Event.propertyChanged?_of_long long]
    exact rest.settleWith_eq _
  propertyChanged turns path name value pathFits nameFits valueFits := by
    refine ⟨⟨⟨name, nameFits⟩, ⟨value, valueFits⟩⟩, rfl, rfl, ?_⟩
    rw [Event.propertyChanged?_of_fits pathFits nameFits valueFits]
    exact rest.post_comesTo turns fun _ _ _ => rfl

section Sample

open Simulation

/-- A host that has tracked nothing yet and waits for a message. -/
def restingHost : Deployment Shell Stack where
  system := { freshHost with stage := .running (.new {}) ⟨none, .asleep none⟩ }
  world := sampleStack [sampleSink "/a" (sampleAddress 1) "playing"]

theorem calls_keep_meaning_of_restingHost :
    restingHost.AtRest (.new {}) ⟨none, .asleep none⟩ ∧
    restingHost.CallsKeepMeaning (.new {}) ⟨none, .asleep none⟩ ∧
    (restingHost.post 1 (Event.bondChanged? "00:00:00:00:00:01" .bonded)).state.world.store.get?
      (sampleAddress 1) = some .auto ∧
    (restingHost.post 1 (Event.propertyChanged? "/a" "State" "playing")).effects =
      [.stateChanged (sampleAddress 1) .disconnected .playing] := by
  have rest : restingHost.AtRest (.new {}) ⟨none, .asleep none⟩ := ⟨rfl, rfl, rfl, rfl, rfl⟩
  have meaning := calls_keep_meaning rest
  refine ⟨rest, meaning, ?_, ?_⟩
  · rw [(meaning.bondChanged 0 "00:00:00:00:00:01" .bonded).same]
    decide +kernel
  · decide +kernel

end Sample

end Deployment

end AudioHost
