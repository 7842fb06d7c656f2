/-!
# Texts of bounded size

A `BoundedText capacity` is a text of at most `capacity` UTF-8 bytes. It is also
what a writer of limited room has taken so far: a piece is taken whole or refused.
-/

set_option autoImplicit false

namespace AudioHost

/-- A text of at most `capacity` UTF-8 bytes. -/
structure BoundedText (capacity : Nat) where
  text : String
  fits : text.utf8ByteSize ≤ capacity
  deriving DecidableEq

namespace BoundedText

variable {capacity : Nat}

/-- The empty text fits everywhere. -/
def empty : BoundedText capacity := ⟨"", by simp⟩

/-- A text that is too long is refused, never cut. -/
def ofString? (text : String) : Option (BoundedText capacity) :=
  if fits : text.utf8ByteSize ≤ capacity then some ⟨text, fits⟩ else none

/-- Appends a piece whole, or refuses it. -/
def append? (held : BoundedText capacity) (piece : String) : Option (BoundedText capacity) :=
  ofString? (held.text ++ piece)

/-- Writes pieces one after another. The first piece that does not fit ends the
writing; the answer says whether all of them were taken. -/
def write (held : BoundedText capacity) : List String → BoundedText capacity × Bool
  | [] => (held, true)
  | piece :: rest =>
      match held.append? piece with
      | some longer => longer.write rest
      | none => (held, false)

/-- Appends a character. One that finds no room is left out. -/
def push (held : BoundedText capacity) (letter : Char) : BoundedText capacity :=
  (held.append? (String.singleton letter)).getD held

theorem ofString?_eq_some_iff {text : String} {bounded : BoundedText capacity} :
    ofString? text = some bounded ↔ bounded.text = text := by
  unfold ofString?
  split
  · next fits =>
      constructor
      · intro same
        cases same
        rfl
      · intro same
        subst same
        rfl
  · next tooLong =>
      constructor
      · intro impossible
        cases impossible
      · intro same
        exact absurd (same ▸ bounded.fits) tooLong

theorem ofString?_eq_none_iff {text : String} :
    (ofString? text : Option (BoundedText capacity)) = none ↔ capacity < text.utf8ByteSize := by
  unfold ofString?
  split <;> simp <;> omega

@[simp] theorem ofString?_text (bounded : BoundedText capacity) :
    ofString? bounded.text = some bounded :=
  ofString?_eq_some_iff.mpr rfl

/-! ## Writing -/

private theorem foldl_append_eq_append_join (text : String) (pieces : List String) :
    pieces.foldl (· ++ ·) text = text ++ String.join pieces := by
  induction pieces generalizing text with
  | nil => exact String.append_empty.symm
  | cons piece rest ih => rw [List.foldl_cons, ih, String.join_cons, String.append_assoc]

private theorem utf8ByteSize_le_foldl_append (text : String) (pieces : List String) :
    text.utf8ByteSize ≤ (pieces.foldl (· ++ ·) text).utf8ByteSize := by
  rw [foldl_append_eq_append_join, String.utf8ByteSize_append]
  exact Nat.le_add_right _ _

/-- Where there is room for all pieces, all of them are taken. -/
theorem write_of_fits {held : BoundedText capacity} {pieces : List String}
    (fits : (pieces.foldl (· ++ ·) held.text).utf8ByteSize ≤ capacity) :
    held.write pieces = (⟨pieces.foldl (· ++ ·) held.text, fits⟩, true) := by
  induction pieces generalizing held with
  | nil => rfl
  | cons piece rest ih =>
      have firstFits := Nat.le_trans (utf8ByteSize_le_foldl_append _ rest) fits
      have taken : held.append? piece = some ⟨held.text ++ piece, firstFits⟩ :=
        ofString?_eq_some_iff.mpr rfl
      rw [write, taken]
      exact ih fits

/-- What is taken is the beginning of the text, and all of it if no piece is refused. -/
theorem text_write (held : BoundedText capacity) (pieces : List String) :
    ∃ missing, (held.write pieces).1.text ++ missing = held.text ++ String.join pieces ∧
      ((held.write pieces).2 = true → missing = "") := by
  induction pieces generalizing held with
  | nil => exact ⟨"", rfl, fun _ => rfl⟩
  | cons piece rest ih =>
      rw [write, String.join_cons, ← String.append_assoc]
      cases taken : held.append? piece with
      | some longer =>
          rw [← ofString?_eq_some_iff.mp taken]
          exact ih longer
      | none =>
          exact ⟨piece ++ String.join rest, String.append_assoc.symm, fun whole => by cases whole⟩

/-- Nothing is refused exactly if the whole text has room, however it is cut into pieces. -/
theorem write_eq_true_iff {held : BoundedText capacity} {pieces : List String} :
    (held.write pieces).2 = true ↔
      (held.text ++ String.join pieces).utf8ByteSize ≤ capacity := by
  constructor
  · intro taken
    obtain ⟨missing, whole, complete⟩ := held.text_write pieces
    rw [complete taken, String.append_empty] at whole
    exact whole ▸ (held.write pieces).1.fits
  · intro fits
    rw [← foldl_append_eq_append_join] at fits
    exact congrArg Prod.snd (write_of_fits fits)

/-- Where all characters are taken one by one, none is left out. -/
theorem foldl_push_of_write {held longer : BoundedText capacity} {letters : List Char}
    (taken : held.write (letters.map String.singleton) = (longer, true)) :
    letters.foldl push held = longer := by
  induction letters generalizing held with
  | nil => exact congrArg Prod.fst taken
  | cons letter rest ih =>
      rw [List.map_cons, write] at taken
      split at taken
      · next more first =>
          rw [List.foldl_cons, push, first]
          exact ih taken
      · cases taken

end BoundedText

end AudioHost
