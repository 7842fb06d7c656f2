import AudioHost.BoundedMap

/-!
# Laws of bounded maps

Look-up is membership among the entries. Each way of changing a map is described by
what a later look-up finds and by the order of the keys that it leaves.
-/

set_option autoImplicit false

namespace AudioHost.BoundedMap

variable {Key Value : Type} {capacity : Nat}

/-! ## Keys and entries -/

theorem mem_keys_of_mem_entries {map : BoundedMap Key Value capacity} {entry : Key × Value}
    (member : entry ∈ map.entries) : entry.1 ∈ map.keys :=
  List.mem_map_of_mem member

theorem mem_keys_iff {map : BoundedMap Key Value capacity} {key : Key} :
    key ∈ map.keys ↔ ∃ value, (key, value) ∈ map.entries := by
  simp [keys]

theorem keys_nodup (map : BoundedMap Key Value capacity) : map.keys.Nodup := map.distinct

theorem length_keys (map : BoundedMap Key Value capacity) : map.keys.length = map.size := by
  simp [keys, size]

theorem size_le (map : BoundedMap Key Value capacity) : map.size ≤ capacity := map.within

theorem mem_values_iff {map : BoundedMap Key Value capacity} {value : Value} :
    value ∈ map.values ↔ ∃ key, (key, value) ∈ map.entries := by
  simp [values]

theorem ext_entries {left right : BoundedMap Key Value capacity}
    (same : left.entries = right.entries) : left = right := by
  cases left
  cases right
  cases same
  rfl

/-- Two entries of one key are one entry. -/
private theorem value_unique {map : BoundedMap Key Value capacity} {key : Key} {left right : Value}
    (leftMember : (key, left) ∈ map.entries) (rightMember : (key, right) ∈ map.entries) :
    left = right := by
  have distinct := map.distinct
  revert leftMember rightMember distinct
  generalize map.entries = entries
  intro leftMember rightMember distinct
  induction entries with
  | nil => cases leftMember
  | cons entry rest ih =>
      rw [List.map_cons, List.nodup_cons] at distinct
      obtain ⟨fresh, restDistinct⟩ := distinct
      rcases List.mem_cons.mp leftMember with leftHead | leftRest
      · rcases List.mem_cons.mp rightMember with rightHead | rightRest
        · exact (Prod.mk.inj (leftHead.trans rightHead.symm)).2
        · exact absurd (List.mem_map.mpr ⟨_, rightRest, by rw [← leftHead]⟩) fresh
      · rcases List.mem_cons.mp rightMember with rightHead | rightRest
        · exact absurd (List.mem_map.mpr ⟨_, leftRest, by rw [← rightHead]⟩) fresh
        · exact ih leftRest rightRest restDistinct

variable [DecidableEq Key]

/-! ## Look-up -/

/-- A look-up finds exactly the entries. -/
theorem get?_eq_some_iff {map : BoundedMap Key Value capacity} {key : Key} {value : Value} :
    map.get? key = some value ↔ (key, value) ∈ map.entries := by
  constructor
  · intro found
    obtain ⟨before, after, split, _⟩ := List.lookup_eq_some_iff.mp found
    rw [split]
    simp
  · intro member
    cases found : map.get? key with
    | none =>
        have absent := List.lookup_eq_none_iff.mp found (key, value) member
        simp at absent
    | some other =>
        obtain ⟨before, after, split, _⟩ := List.lookup_eq_some_iff.mp found
        have otherMember : (key, other) ∈ map.entries := by
          rw [split]
          simp
        rw [value_unique otherMember member]

theorem get?_eq_none_iff {map : BoundedMap Key Value capacity} {key : Key} :
    map.get? key = none ↔ key ∉ map.keys := by
  rw [Option.eq_none_iff_forall_ne_some]
  constructor
  · intro missing member
    obtain ⟨value, entryMember⟩ := mem_keys_iff.mp member
    exact missing value (get?_eq_some_iff.mpr entryMember)
  · intro absent value found
    exact absent (mem_keys_iff.mpr ⟨value, get?_eq_some_iff.mp found⟩)

theorem contains_iff {map : BoundedMap Key Value capacity} {key : Key} :
    map.contains key = true ↔ key ∈ map.keys := by
  simp [contains]

@[simp] theorem get?_empty (key : Key) :
    (empty : BoundedMap Key Value capacity).get? key = none := rfl

theorem mem_keys_of_get? {map : BoundedMap Key Value capacity} {key : Key} {value : Value}
    (found : map.get? key = some value) : key ∈ map.keys :=
  mem_keys_iff.mpr ⟨value, get?_eq_some_iff.mp found⟩

theorem mem_keys_iff_get? {map : BoundedMap Key Value capacity} {key : Key} :
    key ∈ map.keys ↔ ∃ value, map.get? key = some value := by
  simp only [mem_keys_iff, get?_eq_some_iff]

private theorem map_entries_eq_map_keys (map : BoundedMap Key Value capacity) :
    map.entries.map (fun entry => (entry.1, some entry.2)) =
      map.keys.map fun key => (key, map.get? key) := by
  rw [keys, List.map_map]
  refine List.map_congr_left fun entry member => ?_
  have found : map.get? entry.1 = some entry.2 := get?_eq_some_iff.mpr member
  simp [found]

/-- A map is known by the order of its keys and by what its look-ups find. -/
theorem eq_of_keys_of_get? {left right : BoundedMap Key Value capacity}
    (keys : left.keys = right.keys) (found : ∀ key, left.get? key = right.get? key) :
    left = right := by
  have injective : ∀ entry other : Key × Value,
      (entry.1, some entry.2) = (other.1, some other.2) → entry = other := by
    rintro ⟨_, _⟩ ⟨_, _⟩ ⟨⟩
    rfl
  apply ext_entries
  rw [← List.map_inj_right injective, map_entries_eq_map_keys, map_entries_eq_map_keys, keys]
  simp only [found]

/-! ## Replacing -/

theorem map_update_of_not_mem {entries : List (Key × Value)} {key : Key} (value : Value)
    (absent : key ∉ entries.map Prod.fst) :
    entries.map (fun entry => if entry.1 = key then (key, value) else entry) = entries := by
  refine Eq.trans (List.map_congr_left fun entry member => ?_) (List.map_id entries)
  have different : entry.1 ≠ key := fun same => absent (same ▸ List.mem_map_of_mem member)
  simp [different]

@[simp] theorem keys_replace (map : BoundedMap Key Value capacity) (key : Key) (value : Value) :
    (map.replace key value).keys = map.keys := by
  unfold keys replace
  rw [List.map_map]
  apply List.map_congr_left
  intro entry _
  by_cases same : entry.1 = key <;> simp [same]

theorem mem_entries_replace {map : BoundedMap Key Value capacity} {key : Key} {value : Value}
    {entry : Key × Value} :
    entry ∈ (map.replace key value).entries ↔
      (entry ∈ map.entries ∧ entry.1 ≠ key) ∨ (entry = (key, value) ∧ key ∈ map.keys) := by
  unfold replace
  rw [List.mem_map]
  constructor
  · rintro ⟨old, member, changed⟩
    by_cases same : old.1 = key
    · rw [if_pos same] at changed
      exact .inr ⟨changed.symm, same ▸ mem_keys_of_mem_entries member⟩
    · rw [if_neg same] at changed
      subst changed
      exact .inl ⟨member, same⟩
  · rintro (⟨member, different⟩ | ⟨rfl, present⟩)
    · exact ⟨entry, member, if_neg different⟩
    · obtain ⟨old, oldMember⟩ := mem_keys_iff.mp present
      exact ⟨(key, old), oldMember, if_pos rfl⟩

theorem get?_replace (map : BoundedMap Key Value capacity) (key other : Key) (value : Value) :
    (map.replace key value).get? other =
      if other = key ∧ key ∈ map.keys then some value else map.get? other := by
  split
  · next both =>
      obtain ⟨rfl, present⟩ := both
      exact get?_eq_some_iff.mpr (mem_entries_replace.mpr (.inr ⟨rfl, present⟩))
  · next untouched =>
      apply Option.ext
      intro found
      rw [get?_eq_some_iff, get?_eq_some_iff, mem_entries_replace]
      constructor
      · rintro (⟨member, _⟩ | ⟨same, present⟩)
        · exact member
        · exact absurd ⟨(Prod.mk.inj same).1, present⟩ untouched
      · intro member
        refine .inl ⟨member, ?_⟩
        intro same
        exact untouched ⟨same, same ▸ mem_keys_of_mem_entries member⟩

theorem get?_replace_of_mem {map : BoundedMap Key Value capacity} {key : Key}
    (present : key ∈ map.keys) (other : Key) (value : Value) :
    (map.replace key value).get? other = if other = key then some value else map.get? other := by
  simp [get?_replace, present]

/-- Replacing a value by itself changes nothing. -/
theorem replace_of_get?_eq_some {map : BoundedMap Key Value capacity} {key : Key}
    {value : Value} (found : map.get? key = some value) : map.replace key value = map := by
  have member := get?_eq_some_iff.mp found
  apply ext_entries
  refine Eq.trans (List.map_congr_left ?_) (List.map_id map.entries)
  intro entry entryMember
  by_cases same : entry.1 = key
  · obtain ⟨entryKey, entryValue⟩ := entry
    cases same
    simp [value_unique entryMember member]
  · simp [same]

/-- Of two values in turn the second one stays. -/
theorem replace_replace (map : BoundedMap Key Value capacity) (key : Key)
    (first second : Value) :
    (map.replace key first).replace key second = map.replace key second := by
  apply ext_entries
  show ((map.entries.map _).map _) = map.entries.map _
  rw [List.map_map]
  apply List.map_congr_left
  intro entry _
  by_cases same : entry.1 = key <;> simp [same]

/-! ## Inserting -/

theorem insert?_of_mem {map : BoundedMap Key Value capacity} {key : Key} (value : Value)
    (present : key ∈ map.keys) : map.insert? key value = some (map.replace key value) :=
  dif_pos present

/-- Only a new key is refused, and only by a full map. -/
theorem insert?_eq_none_iff {map : BoundedMap Key Value capacity} {key : Key} {value : Value} :
    map.insert? key value = none ↔ key ∉ map.keys ∧ map.size = capacity := by
  have within := map.within
  unfold insert? keys size
  split
  · next present => simp [present]
  · next absent =>
      split
      · next room =>
          simp only [reduceCtorEq, false_iff]
          intro full
          omega
      · next full => simp only [absent, not_false_eq_true, true_and, true_iff]; omega

/-- A new key goes behind all others. -/
theorem entries_of_insert?_eq_some {map inserted : BoundedMap Key Value capacity} {key : Key}
    {value : Value} (taken : map.insert? key value = some inserted) :
    (key ∈ map.keys ∧ inserted = map.replace key value) ∨
      (key ∉ map.keys ∧ inserted.entries = map.entries ++ [(key, value)]) := by
  unfold insert? at taken
  split at taken
  · next present =>
      cases taken
      exact .inl ⟨present, rfl⟩
  · next absent =>
      split at taken
      · cases taken
        exact .inr ⟨absent, rfl⟩
      · cases taken

theorem insert?_eq_some_iff_of_not_mem {map inserted : BoundedMap Key Value capacity} {key : Key}
    {value : Value} (absent : key ∉ map.keys) :
    map.insert? key value = some inserted ↔
      map.entries.length < capacity ∧ inserted.entries = map.entries ++ [(key, value)] := by
  constructor
  · intro taken
    have room : map.entries.length ≠ capacity := fun full => by
      rw [insert?_eq_none_iff.mpr ⟨absent, full⟩] at taken
      cases taken
    refine ⟨Nat.lt_of_le_of_ne map.within room, ?_⟩
    exact ((entries_of_insert?_eq_some taken).resolve_left fun both => absent both.1).2
  · intro both
    obtain ⟨room, appended⟩ := both
    cases taken : map.insert? key value with
    | none => exact absurd (insert?_eq_none_iff.mp taken).2 (Nat.ne_of_lt room)
    | some other =>
        have otherAppended :=
          ((entries_of_insert?_eq_some taken).resolve_left fun both => absent both.1).2
        exact congrArg some (ext_entries (otherAppended.trans appended.symm))

theorem keys_of_insert?_eq_some {map inserted : BoundedMap Key Value capacity} {key : Key}
    {value : Value} (taken : map.insert? key value = some inserted) :
    inserted.keys = if key ∈ map.keys then map.keys else map.keys ++ [key] := by
  rcases entries_of_insert?_eq_some taken with ⟨present, rfl⟩ | ⟨absent, appended⟩
  · simp [present]
  · rw [if_neg absent, keys, appended, List.map_append]
    rfl

theorem get?_of_insert?_eq_some {map inserted : BoundedMap Key Value capacity} {key : Key}
    {value : Value} (taken : map.insert? key value = some inserted) (other : Key) :
    inserted.get? other = if other = key then some value else map.get? other := by
  rcases entries_of_insert?_eq_some taken with ⟨present, rfl⟩ | ⟨absent, appended⟩
  · rw [get?_replace]
    simp [present]
  · apply Option.ext
    intro found
    rw [get?_eq_some_iff, appended, List.mem_append]
    by_cases same : other = key
    · subst same
      simp only [List.mem_singleton, Prod.mk.injEq, true_and, if_true, Option.some.injEq]
      constructor
      · rintro (member | rfl)
        · exact absurd (mem_keys_of_mem_entries member) absent
        · rfl
      · rintro rfl
        exact .inr rfl
    · simp [same, get?_eq_some_iff]

theorem mem_keys_of_insert?_eq_some {map inserted : BoundedMap Key Value capacity} {key : Key}
    {value : Value} (taken : map.insert? key value = some inserted) : key ∈ inserted.keys := by
  refine mem_keys_iff_get?.mpr ⟨value, ?_⟩
  rw [get?_of_insert?_eq_some taken, if_pos rfl]

/-- Replacing the value of a key that was just inserted is inserting the new value. -/
theorem replace_of_insert?_eq_some {map inserted : BoundedMap Key Value capacity} {key : Key}
    {first : Value} (taken : map.insert? key first = some inserted) (second : Value) :
    map.insert? key second = some (inserted.replace key second) := by
  rcases entries_of_insert?_eq_some taken with ⟨present, rfl⟩ | ⟨absent, appended⟩
  · rw [insert?_of_mem second present, replace_replace]
  · have room : map.insert? key second ≠ none := by
      intro refused
      obtain ⟨_, full⟩ := insert?_eq_none_iff.mp refused
      rw [insert?_eq_none_iff.mpr ⟨absent, full⟩] at taken
      cases taken
    obtain ⟨other, otherTaken⟩ := Option.ne_none_iff_exists'.mp room
    rw [otherTaken]
    congr 1
    rcases entries_of_insert?_eq_some otherTaken with ⟨present, _⟩ | ⟨_, otherAppended⟩
    · exact absurd present absent
    · apply ext_entries
      rw [otherAppended]
      show _ = inserted.entries.map _
      rw [appended, List.map_append, map_update_of_not_mem second absent]
      simp

/-! ## Removing -/

private theorem mem_swapRemove {entries : List (Key × Value)} {key : Key} {entry : Key × Value}
    (distinct : (entries.map Prod.fst).Nodup) :
    entry ∈ swapRemove entries key ↔ entry ∈ entries ∧ entry.1 ≠ key := by
  rcases List.eq_nil_or_concat entries with rfl | ⟨before, last, rfl⟩
  · simp [swapRemove]
  · rw [List.concat_eq_append] at distinct ⊢
    rw [List.map_append, List.nodup_append] at distinct
    obtain ⟨_, _, separate⟩ := distinct
    have lastFresh : ∀ earlier ∈ before, earlier.1 ≠ last.1 := fun earlier member =>
      separate earlier.1 (List.mem_map_of_mem member) last.1 (by simp)
    by_cases isLast : last.1 = key
    · simp only [swapRemove, List.getLast?_concat, isLast, if_true, List.dropLast_concat,
        List.mem_append, List.mem_singleton]
      constructor
      · intro member
        exact ⟨.inl member, isLast ▸ lastFresh entry member⟩
      · rintro ⟨member | rfl, different⟩
        · exact member
        · exact absurd isLast different
    · by_cases present : key ∈ (before ++ [last]).map Prod.fst
      · simp only [swapRemove, List.getLast?_concat, isLast, present, if_true, if_false,
          List.dropLast_concat, List.mem_map, List.mem_append, List.mem_singleton]
        constructor
        · rintro ⟨old, member, changed⟩
          by_cases same : old.1 = key
          · rw [if_pos same] at changed
            subst changed
            exact ⟨.inr rfl, isLast⟩
          · rw [if_neg same] at changed
            subst changed
            exact ⟨.inl member, same⟩
        · rintro ⟨member | rfl, different⟩
          · exact ⟨entry, member, if_neg different⟩
          · obtain ⟨found, foundMember, foundKey⟩ := List.mem_map.mp present
            rcases List.mem_append.mp foundMember with earlier | isFinal
            · exact ⟨found, earlier, if_pos foundKey⟩
            · rw [List.mem_singleton.mp isFinal] at foundKey
              exact absurd foundKey isLast
      · simp only [swapRemove, List.getLast?_concat, isLast, present, if_false]
        constructor
        · intro member
          refine ⟨member, ?_⟩
          intro same
          exact present (same ▸ List.mem_map_of_mem member)
        · exact And.left

theorem mem_entries_erase {map : BoundedMap Key Value capacity} {key : Key}
    {entry : Key × Value} :
    entry ∈ (map.erase key).entries ↔ entry ∈ map.entries ∧ entry.1 ≠ key :=
  mem_swapRemove map.distinct

/-- Removing a key hides its value and no other, whatever place the last entry moves to. -/
theorem get?_erase (map : BoundedMap Key Value capacity) (key other : Key) :
    (map.erase key).get? other = if other = key then none else map.get? other := by
  apply Option.ext
  intro found
  rw [get?_eq_some_iff, mem_entries_erase]
  by_cases same : other = key
  · simp [same]
  · simp [same, get?_eq_some_iff]

theorem get?_foldl_erase (map : BoundedMap Key Value capacity) (keys : List Key) (other : Key) :
    (keys.foldl erase map).get? other = if other ∈ keys then none else map.get? other := by
  induction keys generalizing map with
  | nil => simp
  | cons key rest ih =>
      rw [List.foldl_cons, ih, get?_erase]
      grind

end AudioHost.BoundedMap
