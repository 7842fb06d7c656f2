import AudioHost.Limits
import AudioHost.Text.Bounded
import AudioHost.Text.HexDigit

/-!
# Device addresses

An address is six octets. It is written as six pairs of upper-case hexadecimal
digits with a colon between each two, and read in either letter case.
-/

set_option autoImplicit false

namespace AudioHost

/-- The six octets that identify a remote device. -/
structure Address where
  octets : List UInt8
  length_octets : octets.length = 6
  deriving DecidableEq

/-- A written address as requests and events carry it. Whether it denotes an
address is judged by the receiver. -/
abbrev WrittenAddress := BoundedText Limits.addressTextBytes

namespace Address

/-- The address of a row of octets, of which there have to be six. -/
def ofOctets? (octets : List UInt8) : Option Address :=
  if length_octets : octets.length = 6 then some ⟨octets, length_octets⟩ else none

/-- Addresses are ordered as rows of octets, the first octet first. -/
instance : LE Address := ⟨fun left right => left.octets ≤ right.octets⟩

instance (left right : Address) : Decidable (left ≤ right) :=
  inferInstanceAs (Decidable (left.octets ≤ right.octets))

/-- A list of addresses in ascending order. -/
def sort (addresses : List Address) : List Address :=
  addresses.mergeSort fun left right => decide (left ≤ right)

/-! ## Written form -/

/-- The written form of a row of octets. -/
def spell : List UInt8 → List Char
  | [] => []
  | [last] => Text.byteDigits last
  | octet :: rest => Text.byteDigits octet ++ ':' :: spell rest

/-- Reads pairs of digits with a colon between each two, and nothing else. -/
def octetsOfChars? : List Char → Option (List UInt8)
  | [high, low] => (Text.byteOfDigits? high low).map ([·])
  | high :: low :: ':' :: rest =>
      match Text.byteOfDigits? high low, octetsOfChars? rest with
      | some octet, some octets => some (octet :: octets)
      | _, _ => none
  | _ => none

/-- The address that a text denotes. -/
def ofText? (text : String) : Option Address :=
  (octetsOfChars? text.toList).bind ofOctets?

/-- The characters of the written form. -/
def spelling (address : Address) : List Char := spell address.octets

/-- The written form. -/
def toText (address : Address) : String := String.ofList address.spelling

/-- The written form in the room that requests and events have for it, filled
character by character; the answer says whether all of it was taken. -/
def write (address : Address) : WrittenAddress × Bool :=
  BoundedText.empty.write (address.spelling.map String.singleton)

/-- Reading a written row of octets gives the row back. -/
private theorem octetsOfChars?_spell {octets : List UInt8} (nonempty : octets ≠ []) :
    octetsOfChars? (spell octets) = some octets := by
  induction octets with
  | nil => exact absurd rfl nonempty
  | cons octet rest ih =>
      cases rest with
      | nil => simp [spell, Text.byteDigits, octetsOfChars?, Text.byteOfDigits?_digits]
      | cons next others =>
          have restRead := ih (by simp)
          simp only [spell, Text.byteDigits, List.cons_append, List.nil_append,
            octetsOfChars?, Text.byteOfDigits?_digits, restRead]

theorem ofOctets?_octets (address : Address) : ofOctets? address.octets = some address :=
  dif_pos address.length_octets

/-- Every address is read back from its written form. -/
theorem ofText?_toText (address : Address) : ofText? address.toText = some address := by
  have nonempty : address.octets ≠ [] := by
    intro none
    have six := address.length_octets
    rw [none] at six
    cases six
  unfold ofText? toText spelling
  rw [String.toList_ofList, octetsOfChars?_spell nonempty]
  exact ofOctets?_octets address

end Address

end AudioHost
