import AudioHost.Text.LetterCase
import Mathlib.Data.List.Forall2

/-!
# Laws of letter case

Texts that are equal up to the case of ASCII letters, described character by character.
-/

set_option autoImplicit false

namespace AudioHost.Text

/-- The same character, or an ASCII letter and its other case: 32 places lie between them. -/
def SameLetter (left right : Char) : Prop :=
  left = right ∨ (left.isUpper = true ∧ right.toNat = left.toNat + 32) ∨
    (right.isUpper = true ∧ left.toNat = right.toNat + 32)

/-- Texts of equal length with the same letters in the same places. -/
def AgreeUpToCase (left right : String) : Prop :=
  List.Forall₂ SameLetter left.toList right.toList

theorem isUpper_iff {letter : Char} :
    letter.isUpper = true ↔ 65 ≤ letter.toNat ∧ letter.toNat ≤ 90 := by
  have range : letter.isUpper = decide (letter.val ≥ 'A'.val ∧ letter.val ≤ 'Z'.val) := rfl
  simp [range, UInt32.le_iff_toNat_le]

theorem toNat_toLower (letter : Char) :
    letter.toLower.toNat =
      if 65 ≤ letter.toNat ∧ letter.toNat ≤ 90 then letter.toNat + 32 else letter.toNat := by
  by_cases upper : 65 ≤ letter.toNat ∧ letter.toNat ≤ 90
  · have range : letter.val ≥ 'A'.val ∧ letter.val ≤ 'Z'.val := by
      simpa [UInt32.le_iff_toNat_le] using upper
    have lowered : letter.toLower = ⟨letter.val + ('a'.val - 'A'.val), _⟩ := dif_pos range
    rw [if_pos upper, lowered]
    have distance : ('a'.val - 'A'.val).toNat = 32 := by decide
    simp only [← Char.toNat_val, UInt32.toNat_add, distance] at upper ⊢
    exact Nat.mod_eq_of_lt (by omega)
  · have range : ¬ (letter.val ≥ 'A'.val ∧ letter.val ≤ 'Z'.val) := by
      simpa [UInt32.le_iff_toNat_le] using upper
    have kept : letter.toLower = letter := dif_neg range
    rw [if_neg upper, kept]

theorem toNat_toUpper (letter : Char) :
    letter.toUpper.toNat =
      if 97 ≤ letter.toNat ∧ letter.toNat ≤ 122 then letter.toNat - 32 else letter.toNat := by
  by_cases lower : 97 ≤ letter.toNat ∧ letter.toNat ≤ 122
  · have range : 'a'.val ≤ letter.val ∧ letter.val ≤ 'z'.val := by
      simpa [UInt32.le_iff_toNat_le] using lower
    have raised : letter.toUpper = ⟨letter.val + ('A'.val - 'a'.val), _⟩ := dif_pos range
    rw [if_pos lower, raised]
    -- the distance is negative and wraps
    have distance : ('A'.val - 'a'.val).toNat = 2 ^ 32 - 32 := by decide
    simp only [← Char.toNat_val, UInt32.toNat_add, distance] at lower ⊢
    omega
  · have range : ¬ ('a'.val ≤ letter.val ∧ letter.val ≤ 'z'.val) := by
      simpa [UInt32.le_iff_toNat_le] using lower
    have kept : letter.toUpper = letter := dif_neg range
    rw [if_neg lower, kept]

theorem toLower_eq_toLower_iff {left right : Char} :
    left.toLower = right.toLower ↔ SameLetter left right := by
  simp only [SameLetter, isUpper_iff, ← Char.toNat_inj, toNat_toLower]
  split <;> split <;> omega

theorem toUpper_eq_toUpper_iff {left right : Char} :
    left.toUpper = right.toUpper ↔ SameLetter left right := by
  simp only [SameLetter, isUpper_iff, ← Char.toNat_inj, toNat_toUpper]
  split <;> split <;> omega

theorem sameUpToCase_iff_agreeUpToCase {left right : String} :
    sameUpToCase left right = true ↔ AgreeUpToCase left right := by
  rw [sameUpToCase_iff, ← List.forall₂_eq_eq_eq, List.forall₂_map_left_iff,
    List.forall₂_map_right_iff]
  simp only [toLower_eq_toLower_iff]
  rfl

theorem toUpper_text_eq_iff {left right : String} :
    left.toUpper = right.toUpper ↔ AgreeUpToCase left right := by
  simp only [String.toUpper, ← String.toList_inj, String.toList_map]
  rw [← List.forall₂_eq_eq_eq, List.forall₂_map_left_iff, List.forall₂_map_right_iff]
  simp only [toUpper_eq_toUpper_iff]
  rfl

instance (left right : String) : Decidable (AgreeUpToCase left right) :=
  decidable_of_iff _ sameUpToCase_iff_agreeUpToCase

end AudioHost.Text
