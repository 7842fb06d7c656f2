import AudioHost.Priority.Lemmas
import Mathlib.Data.Finset.Card
import Mathlib.Data.Finset.Image

/-!
# The store as a map of devices

Whatever is asked of the in-memory store, it answers like a map from devices to priorities
that has room for sixteen of them. That its entries carry texts for keys does not show: each
key is written in full, and no two devices share one.
-/

set_option autoImplicit false

namespace AudioHost

inductive StoreCall where
  | set (device : Address) (priority : Priority)
  | get (device : Address)

/-- A call of the store with the answer to it. -/
inductive StoreUse where
  | set (device : Address) (priority : Priority) (accepted : Bool)
  | get (device : Address) (found : Option Priority)

namespace StoreUse

def call : StoreUse → StoreCall
  | .set device priority _ => .set device priority
  | .get device _ => .get device

def accepted? : StoreUse → Option (Address × Priority)
  | .set device priority true => some (device, priority)
  | .set _ _ false | .get _ _ => none

end StoreUse

/-! ## The map that callers see -/

namespace StoreHistory

def accepted (history : List StoreUse) : List (Address × Priority) :=
  history.filterMap StoreUse.accepted?

/-- The priority that the last accepted write gave to a device. -/
def lastFor? (history : List StoreUse) (device : Address) : Option Priority :=
  (accepted history).reverse.lookup device

/-- The devices for which a write was accepted, each of them once. -/
def holders (history : List StoreUse) : Finset Address :=
  ((accepted history).map Prod.fst).toFinset

/-- What a map with room for sixteen devices answers, call by call. -/
inductive Lawful : List StoreUse → Prop where
  | nil : Lawful []
  | get {history : List StoreUse} {device : Address} (lawful : Lawful history) :
      Lawful (history ++ [.get device (lastFor? history device)])
  | accepted {history : List StoreUse} {device : Address} {priority : Priority}
      (lawful : Lawful history)
      (room : lastFor? history device ≠ none ∨ (holders history).card ≠ 16) :
      Lawful (history ++ [.set device priority true])
  | rejected {history : List StoreUse} {device : Address} {priority : Priority}
      (lawful : Lawful history) (new : lastFor? history device = none)
      (full : (holders history).card = 16) :
      Lawful (history ++ [.set device priority false])

variable {history : List StoreUse} {device other : Address} {priority : Priority}

private theorem accepted_concat_set :
    accepted (history ++ [.set device priority true]) =
      accepted history ++ [(device, priority)] := by
  simp [accepted, StoreUse.accepted?]

private theorem lastFor?_concat_set :
    lastFor? (history ++ [.set device priority true]) other =
      if other = device then some priority else lastFor? history other := by
  rw [lastFor?, accepted_concat_set, List.reverse_concat, List.lookup_cons]
  by_cases same : other = device
  · simp [same]
  · simp [lastFor?, same, beq_false_of_ne same]

private theorem holders_concat_set :
    holders (history ++ [.set device priority true]) = insert device (holders history) := by
  rw [holders, accepted_concat_set, List.map_append, List.toFinset_append, Finset.union_comm]
  rfl

end StoreHistory

/-! ## The store -/

namespace PriorityStore

open StoreHistory

/-- Answers a call. A write that is rejected leaves the store as it is. -/
def perform (store : PriorityStore) : StoreCall → StoreUse × PriorityStore
  | .get device => (.get device (store.get? device), store)
  | .set device priority =>
      match store.set? device priority with
      | some kept => (.set device priority true, kept)
      | none => (.set device priority false, store)

def run (store : PriorityStore) : List StoreCall → List StoreUse × PriorityStore
  | [] => ([], store)
  | call :: rest =>
      ((store.perform call).1 :: ((store.perform call).2.run rest).1,
        ((store.perform call).2.run rest).2)

/-- The store holds what the accepted writes of a history left, and nothing else. -/
structure Reflects (store : PriorityStore) (history : List StoreUse) : Prop where
  values : ∀ device, store.get? device = lastFor? history device
  keys : store.settings.keys.toFinset = (holders history).image settingsKey

variable {store kept : PriorityStore} {history : List StoreUse} {device : Address}
  {priority : Priority}

namespace Reflects

private theorem size (reflects : store.Reflects history) : store.size = (holders history).card := by
  have injective : Function.Injective settingsKey := fun _ _ => settingsKey_inj.mp
  rw [PriorityStore.size, ← BoundedMap.length_keys,
    ← List.toFinset_card_of_nodup store.settings.keys_nodup, reflects.keys,
    Finset.card_image_of_injective _ injective]

private theorem mem_keys_iff (reflects : store.Reflects history) :
    settingsKey device ∈ store.settings.keys ↔ lastFor? history device ≠ none := by
  rw [← reflects.values, get?, ne_eq, BoundedMap.get?_eq_none_iff, not_not]

private theorem rejects_iff (reflects : store.Reflects history) :
    store.set? device priority = none ↔
      lastFor? history device = none ∧ (holders history).card = 16 := by
  rw [set?, Option.map_eq_none_iff, BoundedMap.insert?_eq_none_iff, reflects.mem_keys_iff,
    not_not, ← reflects.size]
  rfl

theorem set (reflects : store.Reflects history) (taken : store.set? device priority = some kept) :
    kept.Reflects (history ++ [.set device priority true]) := by
  constructor
  · intro other
    rw [get?_of_set?_eq_some taken, lastFor?_concat_set, reflects.values]
  · obtain ⟨settings, inserted, rfl⟩ := Option.map_eq_some_iff.mp taken
    have keys := BoundedMap.keys_of_insert?_eq_some inserted
    rw [holders_concat_set, Finset.image_insert, ← reflects.keys]
    ext key
    by_cases present : settingsKey device ∈ store.settings.keys <;> simp [keys, present]

private theorem unaccepted (reflects : store.Reflects history) {use : StoreUse}
    (nothing : use.accepted? = none) : store.Reflects (history ++ [use]) := by
  have same : accepted (history ++ [use]) = accepted history := by simp [accepted, nothing]
  exact ⟨by simpa [lastFor?, same] using reflects.values,
    by simpa [holders, same] using reflects.keys⟩

end Reflects

theorem perform_lawful (lawful : Lawful history) (reflects : store.Reflects history)
    (call : StoreCall) :
    (store.perform call).1.call = call ∧ Lawful (history ++ [(store.perform call).1]) ∧
      (store.perform call).2.Reflects (history ++ [(store.perform call).1]) := by
  cases call with
  | get device =>
      refine ⟨rfl, ?_, reflects.unaccepted rfl⟩
      simpa only [perform, reflects.values] using lawful.get
  | set device priority =>
      cases taken : store.set? device priority with
      | none =>
          obtain ⟨new, full⟩ := reflects.rejects_iff.mp taken
          simp only [perform, taken]
          exact ⟨rfl, lawful.rejected new full, reflects.unaccepted rfl⟩
      | some kept =>
          have room : lastFor? history device ≠ none ∨ (holders history).card ≠ 16 := by
            rw [← not_and_or]
            intro both
            cases taken.symm.trans (reflects.rejects_iff.mpr both)
          simp only [perform, taken]
          exact ⟨rfl, lawful.accepted room, reflects.set taken⟩

theorem run_from (lawful : Lawful history) (reflects : store.Reflects history)
    (calls : List StoreCall) :
    (store.run calls).1.map StoreUse.call = calls ∧
      Lawful (history ++ (store.run calls).1) ∧
      (store.run calls).2.Reflects (history ++ (store.run calls).1) := by
  induction calls generalizing store history with
  | nil => exact ⟨rfl, by simpa [run] using lawful, by simpa [run] using reflects⟩
  | cons call rest ih =>
      obtain ⟨same, nextLawful, follows⟩ := perform_lawful lawful reflects call
      obtain ⟨others, lastLawful, lastFollows⟩ := ih nextLawful follows
      refine ⟨?_, by simpa [run] using lastLawful, by simpa [run] using lastFollows⟩
      simp [run, same, others]

/-- What is kept after some uses, and how the next write fares. -/
structure KeepsLast (store : PriorityStore) (history : List StoreUse) : Prop where
  values : ∀ device, store.get? device = lastFor? history device
  size : store.size = (holders history).card
  atMost : store.size ≤ 16
  rejects : ∀ device priority, store.set? device priority = none ↔
    lastFor? history device = none ∧ (holders history).card = 16
  unchanged : ∀ device priority, store.set? device priority = none →
    (store.perform (.set device priority)).2 = store

/-- An empty store answers every sequence of calls like a map with room for sixteen devices.
It can do so because the keys of devices fit and differ. -/
theorem run_keeps_last (calls : List StoreCall) :
    ((empty.run calls).1.map StoreUse.call = calls ∧
      Lawful (empty.run calls).1 ∧
      (empty.run calls).2.KeepsLast (empty.run calls).1) ∧
    (∀ device, (BoundedText.empty : SettingsKey).write [settingsKeyStem, device.toText] =
        (settingsKey device, true) ∧
      (settingsKey device).text = settingsKeyStem ++ device.toText) ∧
    ∀ left right, settingsKey left = settingsKey right ↔ left = right := by
  have start : empty.Reflects [] := ⟨fun _ => rfl, rfl⟩
  obtain ⟨asked, lawful, reflects⟩ := run_from .nil start calls
  refine ⟨⟨asked, lawful, ?_⟩, fun device => ⟨?_, text_settingsKey device⟩,
    fun _ _ => settingsKey_inj⟩
  · constructor
    case values => exact reflects.values
    case size => exact reflects.size
    case atMost => exact BoundedMap.size_le _
    case rejects => exact fun _ _ => reflects.rejects_iff
    case unchanged =>
      intro device priority rejected
      simp only [perform, rejected]
  · rw [settingsKey, write_settingsKey]

end PriorityStore

end AudioHost
