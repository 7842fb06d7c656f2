import AudioHost.Proofs.Delivery
import AudioHost.Proofs.Refusals
import AudioHost.Simulation.Sample
import Mathlib.Data.List.Nodup

/-!
# Calls and their answers

Responses carry no mark of the request that they answer: whoever takes the next one gets
the answer to the next request. Calls get their own answers as long as they take in the
order in which they asked, and calls that follow one another do.
-/

set_option autoImplicit false

namespace AudioHost

/-! ## Reading responses -/

namespace Manager

variable {manager : Manager} {answers : Collaborators}
  {tasks : List (Collaborators × Operation)} {request : Request} {response : Response}

/-- What a request comes to when it is put to the manager directly. -/
def outcomeOf (manager : Manager) (answers : Collaborators) :
    (request : Request) → Except Refusal request.Answer
  | .connect device => (manager.connect answers device).result
  | .disconnect device => (manager.disconnect answers device).result
  | .storePriority address priority =>
      (manager.storePriority answers address.text priority).result
  | .connected => .ok manager.connected
  | .stateOf device => .ok (manager.stateOf device)
  | .priorityOf device => .ok (answers.priorityOf device)
  | .activeCount => .ok manager.activeCount

theorem readDone_responseOf (verdict : Except Refusal Unit) :
    Query.readDone (responseOf verdict) = verdict := by
  cases verdict <;> rfl

/-- A query reads from the response to its request what the request came to. -/
theorem read_serve (manager : Manager) (answers : Collaborators) (request : Request) :
    (Query.ofRequest request).read (manager.serve answers request).result =
      manager.outcomeOf answers request := by
  cases request with
  | connect _ | disconnect _ | storePriority _ _ => exact readDone_responseOf _
  | connected | stateOf _ | priorityOf _ | activeCount => rfl

private theorem connect_ne_unexpected (device : Address) :
    (manager.connect answers device).result ≠ .error .unexpectedResponse := by
  intro unexpected
  have causes := of_connect_eq_error unexpected
  simp at causes

private theorem disconnect_ne_unexpected (device : Address) :
    (manager.disconnect answers device).result ≠ .error .unexpectedResponse := by
  unfold disconnect
  split
  · simp
  · next path _ =>
      split
      case h_1 | h_2 => simp
      all_goals cases answers.acceptsDisconnect path <;> simp

private theorem storePriority_ne_unexpected (address : String) (priority : Priority) :
    (manager.storePriority answers address priority).result ≠ .error .unexpectedResponse := by
  unfold storePriority
  split
  · simp
  · next device _ => cases answers.acceptsPriority device priority <;> simp

/-- The refusal that stands for a response of another kind is the manager's own refusal
of nothing. -/
theorem outcomeOf_ne_unexpected (manager : Manager) (answers : Collaborators)
    (request : Request) :
    manager.outcomeOf answers request ≠ .error .unexpectedResponse := by
  cases request with
  | connected | stateOf _ | priorityOf _ | activeCount => simp [outcomeOf]
  | connect device => exact connect_ne_unexpected device
  | disconnect device => exact disconnect_ne_unexpected device
  | storePriority address priority => exact storePriority_ne_unexpected address.text priority

/-- At some turn of a run, a request comes to what its query reads from a response. -/
def Settles (manager : Manager) (tasks : List (Collaborators × Operation)) (request : Request)
    (response : Response) : Prop :=
  ∃ turn ∈ manager.turns tasks, turn.operation = .request request ∧
    (Query.ofRequest request).read response = turn.manager.outcomeOf turn.answers request

private theorem settles_of_mem_exchanges (member : (request, response) ∈ manager.exchanges tasks) :
    manager.Settles tasks request response := by
  obtain ⟨turn, taken, exchanged⟩ := List.mem_filterMap.mp member
  unfold Turn.exchange? at exchanged
  split at exchanged
  · next served =>
      cases exchanged
      exact ⟨turn, taken, served, read_serve _ _ _⟩
  · cases exchanged

theorem Settles.read_ne_unexpected (settles : manager.Settles tasks request response) :
    (Query.ofRequest request).read response ≠ .error .unexpectedResponse := by
  obtain ⟨turn, _, _, reads⟩ := settles
  rw [reads]
  exact outcomeOf_ne_unexpected turn.manager turn.answers request

end Manager

/-! ## Places -/

open Happening

namespace Shell

variable {shell final : Shell} {manager : Manager} {workers : Workers}
  {history : List Happening} {journal : List JournalEntry} {waiting : Option Nat}
  {place call : Nat} {response : Response}

structure Clear (shell : Shell) : Prop where
  requests : shell.requests.queued = []
  responses : shell.underway = []

private theorem getElem?_of_prefix {Item : Type} {front whole : List Item} {item : Item}
    (start : front <+: whole) (found : front[place]? = some item) :
    whole[place]? = some item := by
  obtain ⟨rest, rfl⟩ := start
  obtain ⟨within, _⟩ := List.getElem?_eq_some_iff.mp found
  exact (List.getElem?_append_left within).trans found

private theorem Delivers.asked_of_exchange (delivers : shell.Delivers manager history journal final)
    (clear : shell.Clear) {request : Request}
    (exchanged : (manager.exchanges (tasks history))[place]? = some (request, response)) :
    ∃ asker, (asks history)[place]? = some (asker, request) := by
  have served : (manager.exchanges (tasks history)).map Prod.fst <+:
      (asks history).map Prod.snd :=
    ⟨final.requests.queued, by simpa [clear.requests] using delivers.requests.symm⟩
  have asked := getElem?_of_prefix served (by rw [List.getElem?_map, exchanged]; rfl)
  rw [List.getElem?_map] at asked
  obtain ⟨⟨asker, _⟩, found, rfl⟩ := Option.map_eq_some_iff.mp asked
  exact ⟨asker, found⟩

/-- The response that is taken as the nth is the answer to the request that was asked as
the nth. -/
private theorem Delivers.answer_of_take (delivers : shell.Delivers manager history journal final)
    (clear : shell.Clear) (taken : (takes history)[place]? = some (call, response)) :
    ∃ asker request, (asks history)[place]? = some (asker, request) ∧
      (manager.exchanges (tasks history))[place]? = some (request, response) := by
  have given : (takes history).map Prod.snd <+:
      (manager.exchanges (tasks history)).map Prod.snd :=
    ⟨final.underway, by simpa [clear.responses] using delivers.responses.symm⟩
  have answered := getElem?_of_prefix given (by rw [List.getElem?_map, taken]; rfl)
  rw [List.getElem?_map] at answered
  obtain ⟨⟨request, _⟩, exchanged, rfl⟩ := Option.map_eq_some_iff.mp answered
  obtain ⟨asker, asked⟩ := delivers.asked_of_exchange clear exchanged
  exact ⟨asker, request, asked, exchanged⟩

private theorem Delivers.length_asks (delivers : shell.Delivers manager history journal final)
    (clear : shell.Clear) :
    (asks history).length =
      final.requests.queued.length + final.underway.length + (takes history).length := by
  have requests := congrArg List.length delivers.requests
  have responses := congrArg List.length delivers.responses
  rw [clear.requests] at requests
  rw [clear.responses] at responses
  simp only [List.length_append, List.length_map, List.length_nil] at requests responses
  omega

private theorem call_of_take
    (inOrder : (takes history).map Prod.fst <+: (asks history).map Prod.fst)
    (taken : (takes history)[place]? = some (call, response)) :
    ((asks history).map Prod.fst)[place]? = some call :=
  getElem?_of_prefix inOrder (by rw [List.getElem?_map, taken]; rfl)

/-- When all workers wait and something is still to be answered, a response is at hand. -/
theorem exists_collect?_of_rest {answers : Collaborators}
    (running : shell.stage = .running manager workers)
    (rests : shell.nextStep? answers = none)
    (awaited : 0 < shell.requests.queued.length + shell.underway.length) :
    ∃ response collected, shell.collect? = some (response, collected) := by
  have waits := nextStep?_eq_none_iff.mp rests
  rw [underway_of_running running, List.length_append] at awaited
  have arrived : shell.responses.queued ≠ [] := by
    intro none
    cases held : workers.held with
    | some response =>
        have full := (sendHeld_waits_iff running held).mp (waits .sendHeld)
        simp [none] at full
    | none =>
        have served := (serveRequest_waits_iff running held).mp (waits .serveRequest)
        simp [served, none, held] at awaited
  obtain ⟨⟨response, responses⟩, received⟩ :=
    Option.ne_none_iff_exists'.mp (mt Channel.receive?_eq_none_iff.mp arrived)
  exact ⟨response, { shell with responses }, by rw [collect?, received]; rfl⟩

/-! ## Calls that follow one another -/

/-- The calls follow one another: nobody asks before the call that waits has taken, and
nobody gives up. -/
def OneAtATime : Option Nat → List Happening → Prop
  | _, [] => True
  | waiting, .asked call _ :: rest => waiting = none ∧ OneAtATime (some call) rest
  | waiting, .took call _ :: rest => waiting = some call ∧ OneAtATime none rest
  | _, .abandoned _ :: _ => False
  | waiting, .posted _ :: rest | waiting, .elapsed _ :: rest | waiting, .worked _ _ :: rest =>
      OneAtATime waiting rest

private theorem OneAtATime.takes_prefix (single : OneAtATime waiting history) :
    (takes history).map Prod.fst <+: waiting.toList ++ (asks history).map Prod.fst := by
  induction history generalizing waiting with
  | nil => exact List.nil_prefix
  | cons happening rest ih =>
      cases happening with
      | posted _ | elapsed _ | worked _ _ => exact ih single
      | abandoned _ => exact single.elim
      | asked call request =>
          obtain ⟨rfl, others⟩ := single
          exact ih others
      | took call response =>
          obtain ⟨rfl, others⟩ := single
          exact List.cons_prefix_cons.mpr ⟨rfl, ih others⟩

/-- The channels lose, double and reorder nothing: events are applied in the order in which
they were queued, and responses are taken in the order of the requests that they answer,
with at most one held back by a full channel. So calls that follow one another read what
their own requests come to, and none of them gets stuck: a new call finds room for its
request, and a call that waits finds a response when all workers wait. -/
theorem channels_deliver (running : shell.stage = .running manager workers)
    (runs : Runs shell history journal final) :
    shell.Delivers manager history journal final ∧
    (∀ response answers, final.stage.held? = some response →
      final.step? answers .serveRequest = none ∧
      (final.step? answers .sendHeld = none ↔
        final.responses.queued.length = Limits.channelSlots)) ∧
    (shell.Clear → OneAtATime none history →
      (∀ (place call : Nat) (response : Response),
        (takes history)[place]? = some (call, response) →
        ∃ request : Request, (asks history)[place]? = some (call, request) ∧
          (manager.exchanges (tasks history))[place]? = some (request, response) ∧
          manager.Settles (tasks history) request response ∧
          (Query.ofRequest request).read response ≠ .error .unexpectedResponse) ∧
      ((takes history).length = (asks history).length →
        ∀ request, ∃ submitted, final.submit? request = some submitted) ∧
      ((takes history).length < (asks history).length →
        ∀ answers, final.nextStep? answers = none →
          ∃ response collected, final.collect? = some (response, collected))) := by
  have delivers := runs.delivers running
  obtain ⟨finalWorkers, finalRunning⟩ := delivers.stage
  refine ⟨delivers, ?_, fun clear single => ?_⟩
  · intro response answers held
    rw [finalRunning] at held
    exact ⟨serveRequest_waits_of_held finalRunning held, sendHeld_waits_iff finalRunning held⟩
  have balance := delivers.length_asks clear
  refine ⟨?_, ?_, ?_⟩
  · intro place call response taken
    obtain ⟨asker, request, asked, exchanged⟩ := delivers.answer_of_take clear taken
    have same := call_of_take single.takes_prefix taken
    rw [List.getElem?_map, asked] at same
    cases same
    have settles := Manager.settles_of_mem_exchanges (List.mem_of_getElem? exchanged)
    exact ⟨request, asked, exchanged, settles, settles.read_ne_unexpected⟩
  · intro allTaken request
    have empty : final.requests.queued = [] := List.eq_nil_of_length_eq_zero (by omega)
    have room : final.requests.send? request ≠ none := fun full => by
      simp [Channel.send?_eq_none_iff, empty] at full
    obtain ⟨requests, sent⟩ := Option.ne_none_iff_exists'.mp room
    exact ⟨{ final with requests }, by rw [submit?, sent]; rfl⟩
  · intro waiting answers rests
    exact exists_collect?_of_rest finalRunning rests (by omega)

section Sample

open Simulation

/-- The adapter goes on and finds a connected sink. One call asks for the state of the sink,
and when it is over another one asks for the count. -/
def callsInTurn : List Happening :=
  let on := Event.adapterChanged .on
  let answers := oneSink "connected"
  [.posted on, .asked 0 (.stateOf (sampleAddress 1)), .worked answers (some (.event on .zero)),
    .worked answers (some (.request (.stateOf (sampleAddress 1)))), .took 0 (.state .connected),
    .asked 1 .activeCount, .worked answers (some (.request .activeCount)), .took 1 (.activeCount 1)]

private theorem runs_callsInTurn : ∃ journal final, Runs freshHost callsInTurn journal final :=
  ⟨_, _,
    .next (.post rfl) <| .next (.ask rfl) <| .next (.work .applyEvent rfl rfl) <|
    .next (.work .serveRequest rfl rfl) <| .next (.take rfl) <| .next (.ask rfl) <|
    .next (.work .serveRequest rfl rfl) <| .next (.take rfl) <| .rest _⟩

theorem channels_deliver_of_callsInTurn :
    freshHost.Clear ∧ OneAtATime none callsInTurn ∧
    ∃ journal final, Runs freshHost callsInTurn journal final ∧
      freshHost.Delivers (.new {}) callsInTurn journal final ∧
      (Manager.new {}).Settles (tasks callsInTurn) .activeCount (.activeCount 1) := by
  have clear : freshHost.Clear := ⟨rfl, rfl⟩
  have single : OneAtATime none callsInTurn := ⟨rfl, rfl, rfl, rfl, trivial⟩
  obtain ⟨journal, final, runs⟩ := runs_callsInTurn
  obtain ⟨delivers, _, answered⟩ := channels_deliver rfl runs
  obtain ⟨request, asked, _, settles, _⟩ := (answered clear single).1 1 1 (.activeCount 1) rfl
  cases asked
  exact ⟨clear, single, journal, final, runs, delivers, settles⟩

end Sample

/-! ## Calls that overlap -/

/-- What can happen to a call: it asks once, and then it takes or gives up. It may give up
before it has asked. -/
inductive Course (call : Nat) : List Happening → Prop where
  | unseen : Course call []
  | dropped : Course call [.abandoned call]
  | waiting (request : Request) : Course call [.asked call request]
  | served (request : Request) (response : Response) :
      Course call [.asked call request, .took call response]
  | givenUp (request : Request) : Course call [.asked call request, .abandoned call]

/-- Every call keeps to its course, and otherwise they overlap as they like. -/
def Orderly (history : List Happening) : Prop :=
  ∀ call, Course call (history.filter fun happening => happening.call? == some call)

/-- Every call that takes gets the answer to its own request. -/
def OwnAnswers (manager : Manager) (history : List Happening) : Prop :=
  ∀ (asking taking call : Nat) (request : Request) (response : Response),
    (asks history)[asking]? = some (call, request) →
    (takes history)[taking]? = some (call, response) →
    (manager.exchanges (tasks history))[asking]? = some (request, response)

private theorem asks_of_call (history : List Happening) (call : Nat) :
    (asks history).filter (fun ask => ask.1 == call) =
      asks (history.filter fun happening => happening.call? == some call) := by
  unfold asks
  rw [List.filter_filterMap, List.filterMap_filter]
  congr 1
  funext happening
  cases happening <;> simp [ask?, call?, Option.filter]

private theorem Orderly.asks_nodup (orderly : Orderly history) :
    ((asks history).map Prod.fst).Nodup := by
  rw [List.nodup_iff_count_le_one]
  intro call
  rw [List.count, List.countP_map, List.countP_eq_length_filter]
  change ((asks history).filter fun ask => ask.1 == call).length ≤ 1
  rw [asks_of_call]
  have course := orderly call
  generalize history.filter _ = own at course ⊢
  cases course with
  | unseen | dropped => exact Nat.zero_le 1
  | waiting _ | served _ _ | givenUp _ => exact Nat.le_refl 1

private theorem Orderly.asked_of_took (orderly : Orderly history)
    (taken : (call, response) ∈ takes history) : ∃ request, (call, request) ∈ asks history := by
  obtain ⟨happening, member, view⟩ := List.mem_filterMap.mp taken
  cases happening with
  | posted _ | asked _ _ | abandoned _ | elapsed _ | worked _ _ => cases view
  | took _ _ =>
      cases view
      have own : Happening.took call response ∈
          history.filter fun happening => happening.call? == some call :=
        List.mem_filter.mpr ⟨member, by simp [call?]⟩
      have course := orderly call
      generalize seen : history.filter _ = happenings at own course
      cases course with
      | served request _ =>
          have asked : Happening.asked call request ∈ history := by
            have member : Happening.asked call request ∈ history.filter _ :=
              seen ▸ List.mem_cons_self
            exact (List.mem_filter.mp member).1
          exact ⟨request, List.mem_filterMap.mpr ⟨_, asked, rfl⟩⟩
      | unseen | dropped | waiting _ | givenUp _ => simp at own

theorem Delivers.ownAnswers_iff (delivers : shell.Delivers manager history journal final)
    (clear : shell.Clear) :
    OwnAnswers manager history ↔
      ∀ (asking taking call : Nat) (request : Request) (response : Response),
        (asks history)[asking]? = some (call, request) →
        (takes history)[taking]? = some (call, response) →
        ((manager.exchanges (tasks history))[asking]?).map Prod.snd =
          ((manager.exchanges (tasks history))[taking]?).map Prod.snd := by
  constructor
  · intro own asking taking call request response asked taken
    obtain ⟨_, _, _, exchanged⟩ := delivers.answer_of_take clear taken
    rw [own asking taking call request response asked taken, exchanged]
    rfl
  · intro same asking taking call request response asked taken
    obtain ⟨_, _, _, exchanged⟩ := delivers.answer_of_take clear taken
    have answer := same asking taking call request response asked taken
    rw [exchanged] at answer
    obtain ⟨⟨served, _⟩, found, rfl⟩ := Option.map_eq_some_iff.mp answer
    -- What was served at a place is what was asked there.
    obtain ⟨_, queued⟩ := delivers.asked_of_exchange clear found
    rw [asked] at queued
    cases queued
    exact found

theorem Delivers.ownAnswers_of_inOrder (delivers : shell.Delivers manager history journal final)
    (clear : shell.Clear) (orderly : Orderly history)
    (inOrder : (takes history).map Prod.fst <+: (asks history).map Prod.fst) :
    OwnAnswers manager history := by
  refine (delivers.ownAnswers_iff clear).mpr ?_
  intro asking taking call request response asked taken
  -- A call asks once, so the place at which it takes is the place at which it asked.
  have here := call_of_take inOrder taken
  have there : ((asks history).map Prod.fst)[asking]? = some call := by
    rw [List.getElem?_map, asked]
    rfl
  obtain ⟨within, _⟩ := List.getElem?_eq_some_iff.mp there
  have same := (List.getElem?_inj within orderly.asks_nodup).mp (there.trans here.symm)
  rw [same]

/-- Answers go by place and not by caller: whoever takes as the nth gets the answer to the
request that was asked as the nth. So all calls get their own answers exactly if each of
them takes at a place whose answer is that of its own place; calls that take in the order
in which they asked do. -/
theorem answers_go_by_place (orderly : Orderly history) (clear : shell.Clear)
    (running : shell.stage = .running manager workers)
    (runs : Runs shell history journal final) :
    (∀ (place call : Nat) (response : Response),
      (takes history)[place]? = some (call, response) →
      (∃ request, (call, request) ∈ asks history) ∧
      ∃ asker request, (asks history)[place]? = some (asker, request) ∧
        (manager.exchanges (tasks history))[place]? = some (request, response) ∧
        manager.Settles (tasks history) request response) ∧
    (OwnAnswers manager history ↔
      ∀ (asking taking call : Nat) (request : Request) (response : Response),
        (asks history)[asking]? = some (call, request) →
        (takes history)[taking]? = some (call, response) →
        ((manager.exchanges (tasks history))[asking]?).map Prod.snd =
          ((manager.exchanges (tasks history))[taking]?).map Prod.snd) ∧
    (OwnAnswers manager history →
      ∀ (call : Nat) (request : Request) (response : Response),
        (call, request) ∈ asks history → (call, response) ∈ takes history →
        manager.Settles (tasks history) request response ∧
        (Query.ofRequest request).read response ≠ .error .unexpectedResponse) ∧
    ((takes history).map Prod.fst <+: (asks history).map Prod.fst →
      OwnAnswers manager history) := by
  have delivers := runs.delivers running
  refine ⟨?_, delivers.ownAnswers_iff clear, ?_, delivers.ownAnswers_of_inOrder clear orderly⟩
  · intro place call response taken
    obtain ⟨asker, request, asked, exchanged⟩ := delivers.answer_of_take clear taken
    exact ⟨orderly.asked_of_took (List.mem_of_getElem? taken), asker, request, asked, exchanged,
      Manager.settles_of_mem_exchanges (List.mem_of_getElem? exchanged)⟩
  · intro own call request response asked taken
    obtain ⟨asking, asked⟩ := List.mem_iff_getElem?.mp asked
    obtain ⟨taking, taken⟩ := List.mem_iff_getElem?.mp taken
    have exchanged := own asking taking call request response asked taken
    have settles := Manager.settles_of_mem_exchanges (List.mem_of_getElem? exchanged)
    exact ⟨settles, settles.read_ne_unexpected⟩

section Sample

open Simulation

/-- Two calls ask before either takes, and the first one takes first. -/
def callsInOrder : List Happening :=
  let answers := oneSink "connected"
  [.asked 0 (.stateOf (sampleAddress 1)), .asked 1 .activeCount,
    .worked answers (some (.request (.stateOf (sampleAddress 1)))),
    .worked answers (some (.request .activeCount)), .took 0 (.state .disconnected),
    .took 1 (.activeCount 0)]

private theorem runs_callsInOrder : ∃ journal final, Runs freshHost callsInOrder journal final :=
  ⟨_, _,
    .next (.ask rfl) <| .next (.ask rfl) <| .next (.work .serveRequest rfl rfl) <|
    .next (.work .serveRequest rfl rfl) <| .next (.take rfl) <| .next (.take rfl) <| .rest _⟩

private theorem orderly_callsInOrder : Orderly callsInOrder := by
  intro call
  match call with
  | 0 => exact .served (.stateOf (sampleAddress 1)) (.state .disconnected)
  | 1 => exact .served .activeCount (.activeCount 0)
  | other + 2 => exact .unseen

theorem answers_go_by_place_of_callsInOrder :
    Orderly callsInOrder ∧ freshHost.Clear ∧
    (∃ journal final, Runs freshHost callsInOrder journal final) ∧
    OwnAnswers (.new {}) callsInOrder := by
  have clear : freshHost.Clear := ⟨rfl, rfl⟩
  obtain ⟨journal, final, runs⟩ := runs_callsInOrder
  obtain ⟨_, _, _, own⟩ := answers_go_by_place orderly_callsInOrder clear rfl runs
  exact ⟨orderly_callsInOrder, clear, ⟨journal, final, runs⟩, own (List.prefix_refl _)⟩

/-- The adapter goes on and finds a connected sink. A call asks for its state and gives up,
and the next call asks for the state of a device that is not tracked. -/
def answerLeftOver : List Happening :=
  let on := Event.adapterChanged .on
  let answers := oneSink "connected"
  [.posted on, .worked answers (some (.event on .zero)), .asked 0 (.stateOf (sampleAddress 1)),
    .abandoned 0, .worked answers (some (.request (.stateOf (sampleAddress 1)))),
    .asked 1 (.stateOf (sampleAddress 2)),
    .worked answers (some (.request (.stateOf (sampleAddress 2)))), .took 1 (.state .connected)]

private theorem runs_answerLeftOver :
    ∃ journal final, Runs freshHost answerLeftOver journal final :=
  ⟨_, _,
    .next (.post rfl) <| .next (.work .applyEvent rfl rfl) <| .next (.ask rfl) <|
    .next .abandon <| .next (.work .serveRequest rfl rfl) <| .next (.ask rfl) <|
    .next (.work .serveRequest rfl rfl) <| .next (.take rfl) <| .rest _⟩

/-- The second call is told that its device is connected, which is the answer to the first. -/
theorem not_ownAnswers_of_answerLeftOver :
    Orderly answerLeftOver ∧ freshHost.Clear ∧
    (∃ journal final, Runs freshHost answerLeftOver journal final) ∧
    ¬ OwnAnswers (.new {}) answerLeftOver := by
  refine ⟨?_, ⟨rfl, rfl⟩, runs_answerLeftOver, fun own => ?_⟩
  · intro call
    match call with
    | 0 => exact .givenUp (.stateOf (sampleAddress 1))
    | 1 => exact .served (.stateOf (sampleAddress 2)) (.state .connected)
    | other + 2 => exact .unseen
  · have answer := own 1 0 1 (.stateOf (sampleAddress 2)) (.state .connected) rfl rfl
    have given : ((Manager.new {}).exchanges (tasks answerLeftOver))[1]? =
        some (.stateOf (sampleAddress 2), .state .disconnected) := rfl
    rw [given] at answer
    cases answer

end Sample

end Shell

end AudioHost
