import AudioHost.Address
import AudioHost.Text.LetterCase.Lemmas

/-!
# Laws of addresses

A text denotes an address exactly if it is the written form of the address up to letter
case. So no text denotes two addresses, and no two addresses are written alike.
-/

set_option autoImplicit false

namespace AudioHost

/-! ## Digits -/

namespace Text

variable {digit high low : Char} {value : Nat} {byte : UInt8} {pair : Char × Char}

/-- A hexadecimal digit, in either case, and its value. -/
def DigitOf (letter : Char) (value : Nat) : Prop :=
  (value < 10 ∧ letter.toNat = '0'.toNat + value) ∨
    (10 ≤ value ∧ value < 16 ∧
      (letter.toNat = 'A'.toNat + (value - 10) ∨ letter.toNat = 'a'.toNat + (value - 10)))

def PairOf (pair : Char × Char) (octet : UInt8) : Prop :=
  ∃ high low, DigitOf pair.1 high ∧ DigitOf pair.2 low ∧ octet.toNat = 16 * high + low

theorem le_iff_toNat_le {left right : Char} : left ≤ right ↔ left.toNat ≤ right.toNat := by
  simp [Char.le_def, UInt32.le_iff_toNat_le]

private theorem toNat_hexDigit (small : value < 16) :
    (hexDigit value).toNat = if value < 10 then 48 + value else 55 + value := by
  have every : ∀ digit : Fin 16, (hexDigit digit.val).toNat =
      if digit.val < 10 then 48 + digit.val else 55 + digit.val := by decide
  exact every ⟨value, small⟩

private theorem hexValue?_eq_some_iff_ranges :
    hexValue? digit = some value ↔
      (48 ≤ digit.toNat ∧ digit.toNat ≤ 57 ∧ digit.toNat = 48 + value) ∨
      (65 ≤ digit.toNat ∧ digit.toNat ≤ 70 ∧ digit.toNat = 55 + value) ∨
      (97 ≤ digit.toNat ∧ digit.toNat ≤ 102 ∧ digit.toNat = 87 + value) := by
  have bounds : '0'.toNat = 48 ∧ '9'.toNat = 57 ∧ 'A'.toNat = 65 ∧ 'F'.toNat = 70 ∧
      'a'.toNat = 97 ∧ 'f'.toNat = 102 := by decide
  obtain ⟨zero, nine, upperA, upperF, lowerA, lowerF⟩ := bounds
  simp only [hexValue?, le_iff_toNat_le, zero, nine, upperA, upperF, lowerA, lowerF]
  split
  · rw [Option.some.injEq]
    omega
  split
  · rw [Option.some.injEq]
    omega
  split
  · rw [Option.some.injEq]
    omega
  · simp only [reduceCtorEq, false_iff]
    omega

/-- The digits of a value are the one that is written for it and its other case. -/
theorem hexValue?_eq_some_iff :
    hexValue? digit = some value ↔ value < 16 ∧ SameLetter digit (hexDigit value) := by
  rw [hexValue?_eq_some_iff_ranges]
  by_cases small : value < 16
  case neg =>
      simp only [small, false_and, iff_false]
      omega
  simp only [small, true_and, SameLetter, isUpper_iff, ← Char.toNat_inj, toNat_hexDigit small]
  split <;> omega

theorem digitOf_iff : DigitOf digit value ↔ hexValue? digit = some value := by
  have bounds : '0'.toNat = 48 ∧ 'A'.toNat = 65 ∧ 'a'.toNat = 97 := by decide
  obtain ⟨zero, upperA, lowerA⟩ := bounds
  rw [hexValue?_eq_some_iff_ranges, DigitOf, zero, upperA, lowerA]
  omega

theorem isAscii_of_hexValue? (denotes : hexValue? digit = some value) : digit.toNat < 128 := by
  rw [hexValue?_eq_some_iff_ranges] at denotes
  omega

private theorem value_lt_of_hexValue? (denotes : hexValue? digit = some value) : value < 16 :=
  (hexValue?_eq_some_iff.mp denotes).1

private theorem byteOfDigits?_eq_some_iff_values :
    byteOfDigits? high low = some byte ↔
      ∃ upper lower, hexValue? high = some upper ∧ hexValue? low = some lower ∧
        byte.toNat = 16 * upper + lower := by
  constructor
  · intro denotes
    unfold byteOfDigits? at denotes
    split at denotes
    · next upper lower highDigit lowDigit =>
        cases denotes
        have highBound := value_lt_of_hexValue? highDigit
        have lowBound := value_lt_of_hexValue? lowDigit
        refine ⟨upper, lower, highDigit, lowDigit, UInt8.toNat_ofNat_of_lt' ?_⟩
        exact Nat.lt_of_le_of_lt (by omega : _ ≤ 255) (by decide)
    · cases denotes
  · intro given
    obtain ⟨upper, lower, highDigit, lowDigit, whole⟩ := given
    simp only [byteOfDigits?, highDigit, lowDigit, ← whole, UInt8.ofNat_toNat]

theorem pairOf_iff : PairOf pair byte ↔ byteOfDigits? pair.1 pair.2 = some byte := by
  simp only [PairOf, digitOf_iff, byteOfDigits?_eq_some_iff_values]

theorem byteOfDigits?_eq_some_iff :
    byteOfDigits? high low = some byte ↔
      SameLetter high (hexDigit (byte.toNat / 16)) ∧
        SameLetter low (hexDigit (byte.toNat % 16)) := by
  have bound := byte.toNat_lt
  simp only [byteOfDigits?_eq_some_iff_values, hexValue?_eq_some_iff]
  constructor
  · intro denotes
    obtain ⟨upper, lower, ⟨highSmall, highSame⟩, ⟨lowSmall, lowSame⟩, whole⟩ := denotes
    have quotient : byte.toNat / 16 = upper := by omega
    have remainder : byte.toNat % 16 = lower := by omega
    rw [quotient, remainder]
    exact ⟨highSame, lowSame⟩
  · intro both
    obtain ⟨highSame, lowSame⟩ := both
    exact ⟨byte.toNat / 16, byte.toNat % 16, ⟨by omega, highSame⟩, ⟨by omega, lowSame⟩, by omega⟩

private theorem sameLetter_colon_iff : SameLetter digit ':' ↔ digit = ':' := by
  simp only [SameLetter, isUpper_iff, ← Char.toNat_inj]
  have colon : ':'.toNat = 58 := by decide
  omega

/-- An ASCII character takes one byte. -/
theorem utf8ByteSize_ofList {chars : List Char} (plain : ∀ letter ∈ chars, letter.toNat < 128) :
    (String.ofList chars).utf8ByteSize = chars.length := by
  induction chars with
  | nil => rfl
  | cons letter rest ih =>
      obtain ⟨first, others⟩ := List.forall_mem_cons.mp plain
      have single : letter.utf8Size = 1 := by
        rw [Char.utf8Size_eq_one_iff, UInt32.le_iff_toNat_le]
        exact Nat.le_of_lt_succ first
      rw [String.ofList_cons, String.utf8ByteSize_append, String.utf8ByteSize_singleton, ih others,
        single, List.length_cons, Nat.add_comm]

end Text

/-! ## Rows of octets -/

namespace Address

open Text

variable {chars : List Char} {octets : List UInt8} {text : String} {address : Address}
  {pairs : List (Char × Char)}

/-- The characters of pairs, with a colon between each two. -/
def joined (pairs : List (Char × Char)) : List Char :=
  [':'].intercalate (pairs.map fun pair => [pair.1, pair.2])

theorem joined_cons (pair next : Char × Char) (rest : List (Char × Char)) :
    joined (pair :: next :: rest) = pair.1 :: pair.2 :: ':' :: joined (next :: rest) := by
  simp [joined, List.intercalate_cons_cons]

theorem octetsOfChars?_joined (matched : List.Forall₂ PairOf pairs octets)
    (nonempty : octets ≠ []) : octetsOfChars? (joined pairs) = some octets := by
  induction matched with
  | nil => exact absurd rfl nonempty
  | @cons pair octet rest others denotes matched ih =>
      have first := pairOf_iff.mp denotes
      cases matched with
      | nil => simp [joined, octetsOfChars?, first]
      | cons _ _ => rw [joined_cons, octetsOfChars?, first, ih (List.cons_ne_nil _ _)]

/-- Whatever is written like some octets, up to letter case, consists of pairs for them. -/
theorem exists_pairs_of_forall₂_spell (same : List.Forall₂ SameLetter chars (spell octets))
    (nonempty : octets ≠ []) :
    ∃ pairs, chars = joined pairs ∧ List.Forall₂ PairOf pairs octets := by
  induction octets generalizing chars with
  | nil => exact absurd rfl nonempty
  | cons octet rest ih =>
      cases rest with
      | nil =>
          obtain ⟨high, _, highSame, fromLow, rfl⟩ := List.forall₂_cons_right_iff.mp same
          obtain ⟨low, _, lowSame, fromEnd, rfl⟩ := List.forall₂_cons_right_iff.mp fromLow
          obtain rfl := List.forall₂_nil_right_iff.mp fromEnd
          have denotes : PairOf (high, low) octet :=
            pairOf_iff.mpr (byteOfDigits?_eq_some_iff.mpr ⟨highSame, lowSame⟩)
          exact ⟨[(high, low)], rfl, .cons denotes .nil⟩
      | cons second others =>
          obtain ⟨high, _, highSame, fromLow, rfl⟩ := List.forall₂_cons_right_iff.mp same
          obtain ⟨low, _, lowSame, fromColon, rfl⟩ := List.forall₂_cons_right_iff.mp fromLow
          obtain ⟨colon, _, colonSame, restSame, rfl⟩ := List.forall₂_cons_right_iff.mp fromColon
          obtain rfl := sameLetter_colon_iff.mp colonSame
          have denotes : PairOf (high, low) octet :=
            pairOf_iff.mpr (byteOfDigits?_eq_some_iff.mpr ⟨highSame, lowSame⟩)
          obtain ⟨pairs, rfl, matched⟩ := ih restSame (List.cons_ne_nil _ _)
          refine ⟨(high, low) :: pairs, ?_, .cons denotes matched⟩
          cases matched with
          | cons _ _ => rw [joined_cons]

/-- Octets are denoted by what is written for them and by nothing else, up to letter case. -/
theorem octetsOfChars?_eq_some_iff :
    octetsOfChars? chars = some octets ↔
      octets ≠ [] ∧ List.Forall₂ SameLetter chars (spell octets) := by
  constructor
  · intro denotes
    induction chars using octetsOfChars?.induct generalizing octets with
    | case1 high low =>
        obtain ⟨octet, denotesOctet, rfl⟩ := Option.map_eq_some_iff.mp denotes
        obtain ⟨highSame, lowSame⟩ := byteOfDigits?_eq_some_iff.mp denotesOctet
        exact ⟨List.cons_ne_nil _ _, .cons highSame (.cons lowSame .nil)⟩
    | case2 high low rest octet others restDenotes first ih =>
        simp only [octetsOfChars?, first, restDenotes, Option.some.injEq] at denotes
        subst denotes
        obtain ⟨highSame, lowSame⟩ := byteOfDigits?_eq_some_iff.mp first
        obtain ⟨nonempty, restSame⟩ := ih restDenotes
        refine ⟨List.cons_ne_nil _ _, ?_⟩
        cases others with
        | nil => exact absurd rfl nonempty
        | cons second others =>
            exact .cons highSame (.cons lowSame (.cons (.inl rfl) restSame))
    | case3 high low rest fails ih =>
        cases first : byteOfDigits? high low with
        | none => simp [octetsOfChars?, first] at denotes
        | some octet =>
            cases restDenotes : octetsOfChars? rest with
            | none => simp [octetsOfChars?, first, restDenotes] at denotes
            | some others => exact (fails octet others first restDenotes).elim
    | case4 chars short long =>
        rw [octetsOfChars?] at denotes
        · cases denotes
        · exact short
        · exact long
  · intro both
    obtain ⟨nonempty, same⟩ := both
    obtain ⟨pairs, rfl, matched⟩ := exists_pairs_of_forall₂_spell same nonempty
    exact octetsOfChars?_joined matched nonempty

theorem octets_ne_nil (address : Address) : address.octets ≠ [] := by
  intro none
  have six := address.length_octets
  rw [none] at six
  cases six

/-- The texts that denote an address. -/
theorem ofText?_eq_some_iff :
    ofText? text = some address ↔ AgreeUpToCase text address.toText := by
  unfold ofText? AgreeUpToCase toText spelling
  rw [String.toList_ofList, Option.bind_eq_some_iff]
  constructor
  · intro denotes
    obtain ⟨octets, read, whole⟩ := denotes
    unfold ofOctets? at whole
    split at whole
    · cases whole
      exact (octetsOfChars?_eq_some_iff.mp read).2
    · cases whole
  · intro same
    exact ⟨address.octets, octetsOfChars?_eq_some_iff.mpr ⟨address.octets_ne_nil, same⟩,
      ofOctets?_octets address⟩

theorem ofText?_eq_none_iff :
    ofText? text = none ↔ ∀ address : Address, ¬ AgreeUpToCase text address.toText := by
  simp only [← ofText?_eq_some_iff, Option.eq_none_iff_forall_ne_some, ne_eq]

theorem toText_inj {left right : Address} : left.toText = right.toText ↔ left = right := by
  constructor
  · intro same
    have read := ofText?_toText left
    rw [same, ofText?_toText] at read
    exact (Option.some.inj read).symm
  · exact congrArg toText

/-! ## Length -/

/-- Only digits, upper-case letters and colons are written. -/
theorem toNat_of_mem_spell {letter : Char} (member : letter ∈ spell octets) :
    (48 ≤ letter.toNat ∧ letter.toNat ≤ 58) ∨ (65 ≤ letter.toNat ∧ letter.toNat ≤ 70) := by
  have digit : ∀ {value : Nat}, value < 16 →
      (48 ≤ (hexDigit value).toNat ∧ (hexDigit value).toNat ≤ 58) ∨
        (65 ≤ (hexDigit value).toNat ∧ (hexDigit value).toNat ≤ 70) := by
    intro value small
    rw [toNat_hexDigit small]
    split <;> omega
  have pair : ∀ {octet : UInt8}, ∀ letter ∈ byteDigits octet,
      (48 ≤ letter.toNat ∧ letter.toNat ≤ 58) ∨ (65 ≤ letter.toNat ∧ letter.toNat ≤ 70) := by
    intro octet
    have bound := octet.toNat_lt
    simp only [byteDigits, List.forall_mem_cons, List.not_mem_nil, false_implies, implies_true,
      and_true]
    exact ⟨digit (by omega), digit (by omega)⟩
  induction octets with
  | nil => cases member
  | cons octet rest ih =>
      cases rest with
      | nil => exact pair letter member
      | cons next others =>
          rw [spell, List.mem_append, List.mem_cons] at member
          obtain first | rfl | later := member
          · exact pair letter first
          · decide
          · exact ih later
          · simp

theorem length_spell (octets : List UInt8) : (spell octets).length = 3 * octets.length - 1 := by
  induction octets with
  | nil => rfl
  | cons octet rest ih =>
      cases rest with
      | nil => rfl
      | cons next others =>
          rw [spell, List.length_append, List.length_cons, ih]
          · simp only [byteDigits, List.length_cons, List.length_nil]
            omega
          · simp

theorem length_spelling (address : Address) : address.spelling.length = 17 := by
  rw [spelling, length_spell, address.length_octets]

theorem utf8ByteSize_toText (address : Address) : address.toText.utf8ByteSize = 17 := by
  have plain : ∀ letter ∈ spell address.octets, letter.toNat < 128 := by
    intro letter member
    have range := toNat_of_mem_spell member
    omega
  exact (utf8ByteSize_ofList plain).trans address.length_spelling

end Address

end AudioHost
