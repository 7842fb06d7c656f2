/-!
# Hexadecimal digits

Digits are read in either letter case. Bytes are written with upper-case digits.
-/

set_option autoImplicit false

namespace AudioHost.Text

/-- The value of a hexadecimal digit; only ASCII digits and letters are digits. -/
def hexValue? (digit : Char) : Option Nat :=
  if '0' ≤ digit ∧ digit ≤ '9' then some (digit.toNat - '0'.toNat)
  else if 'A' ≤ digit ∧ digit ≤ 'F' then some (digit.toNat - 'A'.toNat + 10)
  else if 'a' ≤ digit ∧ digit ≤ 'f' then some (digit.toNat - 'a'.toNat + 10)
  else none

/-- The upper-case digit of a value below 16. -/
def hexDigit (value : Nat) : Char :=
  if value < 10 then Char.ofNat ('0'.toNat + value) else Char.ofNat ('A'.toNat + (value - 10))

/-- A byte from its two digits. -/
def byteOfDigits? (high low : Char) : Option UInt8 :=
  match hexValue? high, hexValue? low with
  | some upper, some lower => some (UInt8.ofNat (16 * upper + lower))
  | _, _ => none

/-- The two digits of a byte. -/
def byteDigits (byte : UInt8) : List Char :=
  [hexDigit (byte.toNat / 16), hexDigit (byte.toNat % 16)]

/-- The number that a row of hexadecimal digits denotes. -/
def hexNumber? (digits : List Char) : Option Nat :=
  digits.foldl
    (fun number? digit =>
      match number?, hexValue? digit with
      | some number, some value => some (16 * number + value)
      | _, _ => none)
    (some 0)

/-! ## Reading what was written -/

theorem hexValue?_hexDigit {value : Nat} (small : value < 16) :
    hexValue? (hexDigit value) = some value := by
  have every : ∀ digit : Fin 16, hexValue? (hexDigit digit.val) = some digit.val := by decide
  exact every ⟨value, small⟩

/-- The two digits of a byte denote that byte. -/
theorem byteOfDigits?_digits (byte : UInt8) :
    byteOfDigits? (hexDigit (byte.toNat / 16)) (hexDigit (byte.toNat % 16)) = some byte := by
  have bound := byte.toNat_lt
  unfold byteOfDigits?
  rw [hexValue?_hexDigit (by omega), hexValue?_hexDigit (by omega)]
  have whole : 16 * (byte.toNat / 16) + byte.toNat % 16 = byte.toNat := by omega
  simp [whole]

end AudioHost.Text
