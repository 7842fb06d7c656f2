import AudioHost.Address.Lemmas
import AudioHost.BoundedMap.Lemmas
import AudioHost.Priority.Store

/-!
# Laws of the priority store

The settings key of a device has room for all of its address, so no two devices share a
key, and what is stored for one device is not found for another.
-/

set_option autoImplicit false

namespace AudioHost

/-! ## Keys -/

theorem utf8ByteSize_settingsKey (device : Address) :
    (settingsKeyStem ++ device.toText).utf8ByteSize = 46 := by
  have stemSize : settingsKeyStem.utf8ByteSize = 29 := by decide
  rw [String.utf8ByteSize_append, stemSize, device.utf8ByteSize_toText]

/-- Both pieces of a settings key are taken. -/
theorem write_settingsKey (device : Address) :
    (BoundedText.empty : SettingsKey).write [settingsKeyStem, device.toText] =
      (⟨settingsKeyStem ++ device.toText, by rw [utf8ByteSize_settingsKey]; decide⟩, true) := by
  have whole : [settingsKeyStem, device.toText].foldl (· ++ ·) "" =
      settingsKeyStem ++ device.toText := by
    simp
  have fits : ([settingsKeyStem, device.toText].foldl (· ++ ·) "").utf8ByteSize ≤ 48 := by
    rw [whole, utf8ByteSize_settingsKey]
    decide
  rw [BoundedText.write_of_fits fits]
  simp only [BoundedText.empty, whole]

theorem text_settingsKey (device : Address) :
    (settingsKey device).text = settingsKeyStem ++ device.toText := by
  rw [settingsKey, write_settingsKey]

theorem settingsKey_inj {left right : Address} :
    settingsKey left = settingsKey right ↔ left = right := by
  constructor
  · intro same
    have texts := congrArg BoundedText.text same
    rw [text_settingsKey, text_settingsKey, String.append_right_inj] at texts
    exact Address.toText_inj.mp texts
  · exact congrArg settingsKey

/-! ## Stored priorities -/

namespace PriorityStore

variable {store kept : PriorityStore} {device : Address} {priority : Priority}

theorem get?_of_set?_eq_some (taken : store.set? device priority = some kept) (other : Address) :
    kept.get? other = if other = device then some priority else store.get? other := by
  obtain ⟨settings, inserted, rfl⟩ := Option.map_eq_some_iff.mp taken
  simp only [get?, BoundedMap.get?_of_insert?_eq_some inserted, settingsKey_inj]

end PriorityStore

end AudioHost
