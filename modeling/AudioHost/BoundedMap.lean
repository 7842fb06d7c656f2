/-!
# Bounded maps in insertion order

A finite map that lists its entries in the order in which their keys were first
inserted and that holds at most `capacity` of them. Replacing the value of a key
keeps the key's place. Removing a key moves the last entry into the place that
became free.
-/

set_option autoImplicit false

namespace AudioHost

/-- At most `capacity` entries with pairwise different keys, in a definite order. -/
structure BoundedMap (Key Value : Type) (capacity : Nat) where
  entries : List (Key × Value)
  distinct : (entries.map Prod.fst).Nodup
  within : entries.length ≤ capacity
  deriving DecidableEq

namespace BoundedMap

variable {Key Value : Type} {capacity : Nat}

/-- The map without entries. -/
def empty : BoundedMap Key Value capacity := ⟨[], by simp, by simp⟩

/-- The keys, in the order of the entries. -/
def keys (map : BoundedMap Key Value capacity) : List Key := map.entries.map Prod.fst

/-- The values, in the order of the entries. -/
def values (map : BoundedMap Key Value capacity) : List Value := map.entries.map Prod.snd

/-- The number of entries. -/
def size (map : BoundedMap Key Value capacity) : Nat := map.entries.length

/-- Whether there is no entry. -/
def isEmpty (map : BoundedMap Key Value capacity) : Bool := map.entries.isEmpty

variable [DecidableEq Key]

/-- The value of a key. -/
def get? (map : BoundedMap Key Value capacity) (key : Key) : Option Value :=
  map.entries.lookup key

/-- Whether a key has a value. -/
def contains (map : BoundedMap Key Value capacity) (key : Key) : Bool :=
  decide (key ∈ map.keys)

/-! ## Replacing and inserting -/

private theorem keys_replaced (entries : List (Key × Value)) (key : Key) (value : Value) :
    (entries.map fun entry => if entry.1 = key then (key, value) else entry).map Prod.fst =
      entries.map Prod.fst := by
  rw [List.map_map]
  apply List.map_congr_left
  intro entry _
  by_cases same : entry.1 = key <;> simp [same]

omit [DecidableEq Key] in
private theorem distinct_appended {entries : List (Key × Value)} {key : Key} {value : Value}
    (distinct : (entries.map Prod.fst).Nodup) (fresh : key ∉ entries.map Prod.fst) :
    ((entries ++ [(key, value)]).map Prod.fst).Nodup := by
  rw [List.map_append, List.nodup_append]
  refine ⟨distinct, by simp, ?_⟩
  intro earlier member later last same
  simp only [List.map_cons, List.map_nil, List.mem_singleton] at last
  exact fresh (last ▸ same ▸ member)

/-- Replaces the value of a key in its place. A key without a value stays without one. -/
def replace (map : BoundedMap Key Value capacity) (key : Key) (value : Value) :
    BoundedMap Key Value capacity where
  entries := map.entries.map fun entry => if entry.1 = key then (key, value) else entry
  distinct := (keys_replaced map.entries key value).symm ▸ map.distinct
  within := by simpa using map.within

/-- Gives a key a value. A key that is present keeps its place, a new one goes to
the end. Only a new key can be refused, and only by a full map. -/
def insert? (map : BoundedMap Key Value capacity) (key : Key) (value : Value) :
    Option (BoundedMap Key Value capacity) :=
  if present : key ∈ map.entries.map Prod.fst then some (map.replace key value)
  else if room : map.entries.length < capacity then
    some
      { entries := map.entries ++ [(key, value)]
        distinct := distinct_appended map.distinct present
        within := by simpa [Nat.succ_le_iff] using room }
  else none

/-! ## Removing -/

/-- The entries without those of `key`: the last entry fills the place of the
removed one. -/
def swapRemove (entries : List (Key × Value)) (key : Key) : List (Key × Value) :=
  match entries.getLast? with
  | none => []
  | some last =>
      if last.1 = key then entries.dropLast
      else if key ∈ entries.map Prod.fst then
        entries.dropLast.map fun entry => if entry.1 = key then last else entry
      else entries

private theorem distinct_swapRemove {entries : List (Key × Value)} (key : Key)
    (distinct : (entries.map Prod.fst).Nodup) :
    ((swapRemove entries key).map Prod.fst).Nodup := by
  rcases List.eq_nil_or_concat entries with rfl | ⟨before, last, rfl⟩
  · simp [swapRemove]
  · rw [List.concat_eq_append] at distinct ⊢
    rw [List.map_append, List.nodup_append] at distinct
    obtain ⟨beforeDistinct, _, separate⟩ := distinct
    have lastFresh : ∀ entry ∈ before, entry.1 ≠ last.1 := fun entry member =>
      separate entry.1 (List.mem_map_of_mem member) last.1 (by simp)
    by_cases isLast : last.1 = key
    · simpa [swapRemove, isLast] using beforeDistinct
    · by_cases present : key ∈ (before ++ [last]).map Prod.fst
      · simp only [swapRemove, List.getLast?_concat, isLast, present, if_true, if_false,
          List.dropLast_concat]
        rw [List.Nodup, List.map_map, List.pairwise_map]
        rw [List.Nodup, List.pairwise_map] at beforeDistinct
        refine beforeDistinct.imp_of_mem ?_
        intro left right leftMember rightMember different
        have leftFresh := lastFresh left leftMember
        have rightFresh := lastFresh right rightMember
        by_cases leftKey : left.1 = key <;> by_cases rightKey : right.1 = key
        · exact absurd (leftKey.trans rightKey.symm) different
        · simpa [leftKey, rightKey] using Ne.symm rightFresh
        · simpa [leftKey, rightKey] using leftFresh
        · simpa [leftKey, rightKey] using different
      · simp only [swapRemove, List.getLast?_concat, isLast, present, if_false]
        rw [List.map_append, List.nodup_append]
        exact ⟨beforeDistinct, by simp, separate⟩

private theorem length_swapRemove_le (entries : List (Key × Value)) (key : Key) :
    (swapRemove entries key).length ≤ entries.length := by
  unfold swapRemove
  split
  · simp
  · split
    · simp
    · split <;> simp

/-- Removes a key. The last entry moves into its place. -/
def erase (map : BoundedMap Key Value capacity) (key : Key) :
    BoundedMap Key Value capacity where
  entries := swapRemove map.entries key
  distinct := distinct_swapRemove key map.distinct
  within := Nat.le_trans (length_swapRemove_le map.entries key) map.within

end BoundedMap

end AudioHost
