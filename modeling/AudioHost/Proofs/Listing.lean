import AudioHost.Address.Lemmas
import AudioHost.BoundedMap.Lemmas
import AudioHost.Sink.Table
import Mathlib.Algebra.GroupWithZero.Nat

/-!
# The listing of the sink table

The listing is read back line by line: an address is always equally long, and the name of a
reading ends where the line does. So the text names the table, and its length says how much
room it takes.
-/

set_option autoImplicit false

namespace AudioHost

/-! ## One line -/

theorem SinkState.name_inj {left right : SinkState} : left.name = right.name ↔ left = right := by
  refine ⟨fun same => ?_, congrArg name⟩
  cases left <;> cases right <;> simp [name] at same ⊢

private theorem SinkState.name_ne_invalid (state : SinkState) : state.name ≠ "invalid" := by
  cases state <;> decide

theorem Reading.name_inj {left right : Reading} : left.name = right.name ↔ left = right := by
  refine ⟨fun same => ?_, congrArg name⟩
  cases left with
  | invalid =>
      cases right with
      | invalid => rfl
      | known state => exact absurd same.symm state.name_ne_invalid
  | known state =>
      cases right with
      | invalid => exact absurd same state.name_ne_invalid
      | known other => exact congrArg known (SinkState.name_inj.mp same)

private theorem Reading.newline_not_mem_name (reading : Reading) : '\n' ∉ reading.name.toList := by
  cases reading with
  | invalid => decide
  | known state => cases state <;> decide

/-- What stands before the first line end is told from what stands behind it. -/
private theorem append_newline_inj {first second firstRest secondRest : List Char}
    (firstPlain : '\n' ∉ first) (secondPlain : '\n' ∉ second)
    (same : first ++ '\n' :: firstRest = second ++ '\n' :: secondRest) :
    first = second ∧ firstRest = secondRest := by
  obtain ⟨more, rfl, rest⟩ | ⟨more, rfl, rest⟩ := List.append_eq_append_iff.mp same
  · cases more with
    | nil => simpa using rest
    | cons letter others => simp [← (List.cons.inj rest).1] at secondPlain
  · cases more with
    | nil => simpa [eq_comm] using rest
    | cons letter others => simp [← (List.cons.inj rest).1] at firstPlain

namespace SinkTable

/-- The characters of the lines. -/
def listed (entries : List (Address × Reading)) : List Char :=
  (String.join (entries.flatMap listingLine)).toList

private theorem listed_nil : listed [] = [] := rfl

private theorem listed_cons (entry : Address × Reading) (rest : List (Address × Reading)) :
    listed (entry :: rest) =
      entry.1.spelling ++ ' ' :: (entry.2.name.toList ++ '\n' :: listed rest) := by
  simp [listed, listingLine, Address.toText]

/-- The first line is read off the text: its address by its length and its name by its end. -/
private theorem listed_cons_inj {entry other : Address × Reading}
    {rest others : List (Address × Reading)}
    (same : listed (entry :: rest) = listed (other :: others)) :
    entry = other ∧ listed rest = listed others := by
  rw [listed_cons, listed_cons] at same
  obtain ⟨addresses, names⟩ := List.append_inj same
    (entry.1.length_spelling.trans other.1.length_spelling.symm)
  obtain ⟨name, restSame⟩ := append_newline_inj entry.2.newline_not_mem_name
    other.2.newline_not_mem_name (List.cons.inj names).2
  have device := Address.toText_inj.mp (congrArg String.ofList addresses)
  have reading := Reading.name_inj.mp (String.toList_inj.mp name)
  exact ⟨Prod.ext device reading, restSame⟩

private theorem listed_inj {left right : List (Address × Reading)} :
    listed left = listed right ↔ left = right := by
  refine ⟨fun same => ?_, congrArg listed⟩
  induction left generalizing right with
  | nil =>
      cases right with
      | nil => rfl
      | cons entry rest => simp [listed_cons, listed_nil] at same
  | cons entry rest ih =>
      cases right with
      | nil => simp [listed_cons, listed_nil] at same
      | cons other others =>
          obtain ⟨rfl, restSame⟩ := listed_cons_inj same
          rw [ih restSame]

/-! ## The whole listing -/

theorem toList_listing (table : SinkTable) :
    table.listing.toList =
      if table.entries = [] then [] else "Cached audio devices:\n".toList ++ listed table.entries := by
  unfold listing listingPieces BoundedMap.isEmpty
  cases table.entries with
  | nil => rfl
  | cons entry rest => simp [listed]

theorem listing_inj {left right : SinkTable} : left.listing = right.listing ↔ left = right := by
  refine ⟨fun same => ?_, congrArg listing⟩
  have texts := congrArg String.toList same
  rw [toList_listing, toList_listing] at texts
  apply BoundedMap.ext_entries
  split at texts <;> split at texts
  · next leftEmpty rightEmpty => exact leftEmpty.trans rightEmpty.symm
  · simp at texts
  · simp at texts
  · exact listed_inj.mp (List.append_cancel_left texts)

/-! ## Its size -/

private theorem utf8ByteSize_join_listingLine (entries : List (Address × Reading)) :
    (String.join (entries.flatMap listingLine)).utf8ByteSize =
      (entries.map fun entry => 19 + entry.2.name.utf8ByteSize).sum := by
  induction entries with
  | nil => rfl
  | cons entry rest ih =>
      have blank : " ".utf8ByteSize = 1 := rfl
      have lineEnd : "\n".utf8ByteSize = 1 := rfl
      simp only [List.flatMap_cons, List.map_cons, List.sum_cons, ← ih, listingLine,
        List.cons_append, List.nil_append, String.join_cons, String.utf8ByteSize_append,
        Address.utf8ByteSize_toText, blank, lineEnd]
      omega

theorem utf8ByteSize_listing (table : SinkTable) :
    table.listing.utf8ByteSize =
      if table.entries = [] then 0
      else 22 + (table.entries.map fun entry => 19 + entry.2.name.utf8ByteSize).sum := by
  have heading : "Cached audio devices:\n".utf8ByteSize = 22 := rfl
  rw [← utf8ByteSize_join_listingLine]
  unfold listing listingPieces BoundedMap.isEmpty
  cases table.entries with
  | nil => rfl
  | cons entry rest =>
      simp only [List.isEmpty_cons, Bool.false_eq_true, if_false, String.join_cons,
        String.utf8ByteSize_append, heading, reduceCtorEq]

/-! ## Main result -/

/-- The listing tells a table from every other one, and a writer takes it to the end exactly
if it has room for all of it, however the text is handed over. -/
structure ListedExactly (table : SinkTable) : Prop where
  determines : ∀ other : SinkTable,
    table.listing = other.listing ↔ table.entries = other.entries
  size : table.listing.utf8ByteSize =
    if table.entries = [] then 0
    else 22 + (table.entries.map fun entry => 19 + entry.2.name.utf8ByteSize).sum
  complete_iff : ∀ room, (table.writeListing room).2 = true ↔ table.listing.utf8ByteSize ≤ room
  begins : ∀ room, ∃ missing, (table.writeListing room).1.text ++ missing = table.listing ∧
    ((table.writeListing room).2 = true → missing = "")
  anyPieces : ∀ pieces, String.join pieces = table.listing → ∀ room,
    ((BoundedText.empty : BoundedText room).write pieces).2 = (table.writeListing room).2

theorem listing_exact (table : SinkTable) : table.ListedExactly where
  determines other := by
    rw [listing_inj]
    exact ⟨congrArg BoundedMap.entries, BoundedMap.ext_entries⟩
  size := table.utf8ByteSize_listing
  complete_iff room := by
    rw [writeListing, BoundedText.write_eq_true_iff]
    exact Iff.rfl
  begins room := BoundedText.empty.text_write table.listingPieces
  anyPieces pieces whole room := by
    apply Bool.eq_iff_iff.mpr
    rw [writeListing, BoundedText.write_eq_true_iff, BoundedText.write_eq_true_iff, whole]
    exact Iff.rfl

end SinkTable

end AudioHost
