import AudioHost.Address.Lemmas
import AudioHost.Address.Stepwise

/-!
# The grammar of addresses

A text is read exactly if it is six pairs of hexadecimal digits with a colon between each
two, and what is written is the one such text in upper case. Neither way leaves its room:
no octet goes beyond the sixth place and no character is left out.
-/

set_option autoImplicit false

namespace AudioHost

namespace Text

variable {high low : Char} {octet : UInt8}

def Denotes (part : List Char) (octet : UInt8) : Prop :=
  ∃ high low, part = [high, low] ∧ PairOf (high, low) octet

private theorem byteOfNumeral?_of_pairOf (denotes : PairOf (high, low) octet) :
    byteOfNumeral? [high, low] = some octet := by
  obtain ⟨upper, lower, highDigit, lowDigit, whole⟩ := denotes
  simp only [digitOf_iff] at highDigit lowDigit
  -- a plus sign would be passed over, but it is no digit
  have unsigned : high ≠ '+' := by
    intro plus
    subst plus
    cases highDigit
  have number : hexNumber? [high, low] = some octet.toNat := by
    simp [hexNumber?, highDigit, lowDigit, whole]
  simp [byteOfNumeral?, unsigned, number, octet.toNat_lt]

private theorem exists_denotes {part : List Char} (twoBytes : (String.ofList part).utf8ByteSize = 2)
    (digits : part.all isHexDigit = true) : ∃ octet, Denotes part octet := by
  rw [List.all_eq_true] at digits
  have values : ∀ letter ∈ part, ∃ value, hexValue? letter = some value := fun letter member =>
    Option.isSome_iff_exists.mp (digits letter member)
  have plain : ∀ letter ∈ part, letter.toNat < 128 := by
    intro letter member
    obtain ⟨value, digit⟩ := values letter member
    exact isAscii_of_hexValue? digit
  rw [utf8ByteSize_ofList plain] at twoBytes
  obtain ⟨high, low, rfl⟩ := List.length_eq_two.mp twoBytes
  obtain ⟨upper, highDigit⟩ := values high (by simp)
  obtain ⟨lower, lowDigit⟩ := values low (by simp)
  refine ⟨UInt8.ofNat (16 * upper + lower), high, low, rfl, pairOf_iff.mpr ?_⟩
  simp only [byteOfDigits?, highDigit, lowDigit]

end Text

namespace Address

open Text

variable {row address filled : Address} {count : Nat} {part : List Char} {parts : List (List Char)}
  {octet : UInt8} {octets : List UInt8} {pairs : List (Char × Char)} {text : String}
  {chars : List Char}

/-! ## Reading part by part -/

private theorem eq_of_octets {left right : Address} (same : left.octets = right.octets) :
    left = right := by
  cases left
  cases right
  cases same
  rfl

/-- Six pairs of digits, one for each octet, and seventeen bytes in all. -/
structure Spells (text : String) (address : Address) : Prop where
  bytes : text.utf8ByteSize = 17
  pairs : ∃ pairs : List (Char × Char), pairs.length = 6 ∧ text.toList = joined pairs ∧
    List.Forall₂ PairOf pairs address.octets

private theorem fill_of_denotes (denotes : Denotes part octet) (room : count < 6) :
    ∃ filled : Address, filled.octets = row.octets.set count octet ∧
      row.fill count (part :: parts) = filled.fill (count + 1) parts := by
  obtain ⟨high, low, rfl, denotes⟩ := denotes
  have number := byteOfNumeral?_of_pairOf denotes
  obtain ⟨upper, lower, highDigit, lowDigit, _⟩ := denotes
  simp only [digitOf_iff] at highDigit lowDigit
  have digits : [high, low].all isHexDigit = true := by simp [isHexDigit, highDigit, lowDigit]
  have twoBytes : (String.ofList [high, low]).utf8ByteSize = 2 := by
    refine utf8ByteSize_ofList (List.forall_mem_cons.mpr ⟨?_, List.forall_mem_singleton.mpr ?_⟩)
    · exact isAscii_of_hexValue? highDigit
    · exact isAscii_of_hexValue? lowDigit
  refine ⟨⟨row.octets.set count octet, (List.length_set ..).trans row.length_octets⟩, rfl, ?_⟩
  rw [fill, twoBytes, digits, number]
  simp [Nat.not_le.mpr room, put?, room]

private theorem fill_of_not_denotes (unfit : 6 ≤ count ∨ ∀ octet, ¬ Denotes part octet) :
    row.fill count (part :: parts) = .refused .invalidAddress := by
  rw [fill, if_pos]
  rw [Bool.or_eq_true, Bool.or_eq_true, decide_eq_true_iff, or_assoc]
  refine unfit.imp_right fun nothing => ?_
  rw [bne_iff_ne, Bool.not_eq_true', ← Bool.not_eq_true, ← not_and_or]
  intro both
  obtain ⟨octet, denotes⟩ := exists_denotes both.1 both.2
  exact nothing octet denotes

/-- The reading of a part either goes on, with one more octet in its place, or is refused. -/
private theorem fill_cons_cases (row : Address) (count : Nat) (part : List Char)
    (parts : List (List Char)) :
    (count < 6 ∧ ∃ (octet : UInt8) (filled : Address), Denotes part octet ∧
      filled.octets = row.octets.set count octet ∧
      row.fill count (part :: parts) = filled.fill (count + 1) parts) ∨
    ((6 ≤ count ∨ ∀ octet, ¬ Denotes part octet) ∧
      row.fill count (part :: parts) = .refused .invalidAddress) := by
  by_cases fit : count < 6 ∧ ∃ octet, Denotes part octet
  · obtain ⟨room, octet, denotes⟩ := fit
    obtain ⟨filled, places, goesOn⟩ := fill_of_denotes denotes room
    exact .inl ⟨room, octet, filled, denotes, places, goesOn⟩
  · rw [not_and_or, Nat.not_lt, not_exists] at fit
    exact .inr ⟨fit, fill_of_not_denotes fit⟩

private theorem denotes_unique {other : UInt8} (first : Denotes part octet)
    (second : Denotes part other) : octet = other := by
  obtain ⟨high, low, rfl, denotes⟩ := first
  obtain ⟨_, _, same, otherDenotes⟩ := second
  cases same
  exact Option.some.inj ((pairOf_iff.mp denotes).symm.trans (pairOf_iff.mp otherDenotes))

/-- Parts are read exactly if there is one for each place that is left. -/
private theorem fill_eq_address_iff (within : count ≤ 6) :
    row.fill count parts = .address filled ↔
      ∃ octets, List.Forall₂ Denotes parts octets ∧ count + octets.length = 6 ∧
        filled.octets = row.octets.take count ++ octets := by
  induction parts generalizing row count with
  | nil =>
      have whole : row.octets.take 6 = row.octets :=
        List.take_of_length_le (Nat.le_of_eq row.length_octets)
      rw [fill]
      constructor
      · intro read
        split at read
        · next all =>
            cases read
            exact ⟨[], .nil, all, by simp [all, whole]⟩
        · cases read
      · intro given
        obtain ⟨octets, matched, all, places⟩ := given
        obtain rfl := List.forall₂_nil_left_iff.mp matched
        obtain rfl : count = 6 := all
        rw [List.append_nil, whole] at places
        exact congrArg Judgement.address (eq_of_octets places).symm
  | cons part rest ih =>
      cases fill_cons_cases row count part rest with
      | inl goesOn =>
          obtain ⟨room, octet, next, denotes, places, same⟩ := goesOn
          have kept : next.octets.take (count + 1) = row.octets.take count ++ [octet] := by
            have inside : count < row.octets.length := Nat.lt_of_lt_of_eq room row.length_octets.symm
            have beyond : (row.octets.take count).set count octet = row.octets.take count :=
              List.set_eq_of_length_le (List.length_take_le _ _)
            simp [places, List.take_add_one, List.take_set, inside, beyond]
          rw [same, ih room, kept]
          constructor
          · intro read
            obtain ⟨octets, matched, all, filledOctets⟩ := read
            refine ⟨octet :: octets, .cons denotes matched, ?_, by simpa using filledOctets⟩
            rw [List.length_cons]
            omega
          · intro given
            obtain ⟨_, matched, all, filledOctets⟩ := given
            obtain ⟨other, others, otherDenotes, restMatched, rfl⟩ :=
              List.forall₂_cons_left_iff.mp matched
            obtain rfl := denotes_unique denotes otherDenotes
            rw [List.length_cons] at all
            exact ⟨others, restMatched, by omega, by simpa using filledOctets⟩
      | inr refused =>
          rw [refused.2]
          refine iff_of_false nofun fun given => ?_
          obtain ⟨_, matched, all, _⟩ := given
          obtain ⟨other, _, otherDenotes, _, rfl⟩ := List.forall₂_cons_left_iff.mp matched
          rw [List.length_cons] at all
          exact refused.1.elim (by omega) fun nothing => nothing other otherDenotes

private theorem fill_ends (row : Address) (count : Nat) (parts : List (List Char)) :
    (∃ filled, row.fill count parts = .address filled) ∨
      row.fill count parts = .refused .invalidAddress := by
  induction parts generalizing row count with
  | nil =>
      rw [fill]
      split
      · exact .inl ⟨row, rfl⟩
      · exact .inr rfl
  | cons part rest ih =>
      cases fill_cons_cases row count part rest with
      | inl goesOn =>
          obtain ⟨_, octet, filled, _, _, same⟩ := goesOn
          rw [same]
          exact ih filled (count + 1)
      | inr refused => exact .inr refused.2

/-! ## Pairs -/

private theorem forall₂_denotes_iff :
    List.Forall₂ Denotes parts octets ↔
      ∃ pairs : List (Char × Char), parts = pairs.map (fun pair => [pair.1, pair.2]) ∧
        List.Forall₂ PairOf pairs octets := by
  constructor
  · intro matched
    induction matched with
    | nil => exact ⟨[], rfl, .nil⟩
    | cons denotes _ ih =>
        obtain ⟨high, low, rfl, denotes⟩ := denotes
        obtain ⟨pairs, rfl, matched⟩ := ih
        exact ⟨(high, low) :: pairs, rfl, .cons denotes matched⟩
  · intro given
    obtain ⟨pairs, rfl, matched⟩ := given
    rw [List.forall₂_map_left_iff]
    exact matched.imp fun pair octet denotes => ⟨pair.1, pair.2, rfl, denotes⟩

private theorem isAscii_of_mem_joined (matched : List.Forall₂ PairOf pairs octets) :
    ∀ letter ∈ joined pairs, letter.toNat < 128 := by
  have colon : ':'.toNat < 128 := by decide
  induction matched with
  | nil => exact List.forall_mem_nil _
  | cons denotes matched ih =>
      obtain ⟨_, _, highDigit, lowDigit, _⟩ := denotes
      simp only [digitOf_iff] at highDigit lowDigit
      have high := isAscii_of_hexValue? highDigit
      have low := isAscii_of_hexValue? lowDigit
      cases matched with
      | nil => simp [joined, high, low]
      | cons _ _ =>
          simp only [joined_cons, List.forall_mem_cons]
          exact ⟨high, low, colon, ih⟩

private theorem length_joined (pairs : List (Char × Char)) :
    (joined pairs).length = 3 * pairs.length - 1 := by
  induction pairs with
  | nil => rfl
  | cons pair rest ih =>
      cases rest with
      | nil => rfl
      | cons next others =>
          simp only [joined_cons, List.length_cons] at ih ⊢
          omega

private theorem colon_not_mem_of_pairOf {pair : Char × Char} (denotes : PairOf pair octet) :
    ':' ∉ [pair.1, pair.2] := by
  obtain ⟨upper, lower, highDigit, lowDigit, _⟩ := denotes
  rw [digitOf_iff] at highDigit lowDigit
  have none : hexValue? ':' = none := by decide
  rw [List.mem_pair, not_or]
  constructor
  · intro same
    rw [← same, none] at highDigit
    cases highDigit
  · intro same
    rw [← same, none] at lowDigit
    cases lowDigit

private theorem splitOn_eq_pairs_iff (matched : List.Forall₂ PairOf pairs octets)
    (nonempty : octets ≠ []) :
    chars.splitOn ':' = pairs.map (fun pair => [pair.1, pair.2]) ↔ chars = joined pairs := by
  constructor
  · intro cut
    rw [joined, ← cut, List.intercalate_splitOn]
  · intro same
    subst same
    have some : pairs ≠ [] := by
      intro none
      subst none
      exact nonempty (List.forall₂_nil_left_iff.mp matched)
    have whole := (List.forall₂_and_left pairs octets).mp
      (matched.imp fun _ _ denotes => ⟨colon_not_mem_of_pairOf denotes, denotes⟩)
    exact List.splitOn_intercalate ':' (List.forall_mem_map.mpr whole.1) (by simpa using some)

private theorem fill_blank_eq_address_iff :
    blank.fill 0 (chars.splitOn ':') = .address address ↔
      ∃ pairs : List (Char × Char), pairs.length = 6 ∧ chars = joined pairs ∧
        List.Forall₂ PairOf pairs address.octets := by
  refine (fill_eq_address_iff (Nat.zero_le 6)).trans ?_
  constructor
  · intro given
    obtain ⟨octets, matched, _, places⟩ := given
    obtain rfl : address.octets = octets := places
    obtain ⟨pairs, parts, matched⟩ := forall₂_denotes_iff.mp matched
    exact ⟨pairs, matched.length_eq.trans address.length_octets,
      (splitOn_eq_pairs_iff matched address.octets_ne_nil).mp parts, matched⟩
  · intro given
    obtain ⟨pairs, _, same, matched⟩ := given
    have parts := (splitOn_eq_pairs_iff matched address.octets_ne_nil).mpr same
    exact ⟨address.octets, forall₂_denotes_iff.mpr ⟨pairs, parts, matched⟩,
      (Nat.zero_add _).trans address.length_octets, rfl⟩

theorem judge_eq_address_iff : judge text = .address address ↔ Spells text address := by
  rw [judge]
  split
  · next bytes =>
      refine fill_blank_eq_address_iff.trans ?_
      exact ⟨fun pairs => ⟨bytes, pairs⟩, Spells.pairs⟩
  · next other => exact iff_of_false nofun fun spells => other spells.bytes

theorem spells_iff_ofText? : Spells text address ↔ ofText? text = some address := by
  constructor
  · intro spells
    obtain ⟨pairs, _, chars, matched⟩ := spells.pairs
    rw [ofText?, chars, octetsOfChars?_joined matched address.octets_ne_nil]
    exact ofOctets?_octets address
  · intro denotes
    have same := ofText?_eq_some_iff.mp denotes
    rw [AgreeUpToCase, toText, String.toList_ofList] at same
    obtain ⟨pairs, chars, matched⟩ := exists_pairs_of_forall₂_spell same address.octets_ne_nil
    have six : pairs.length = 6 := matched.length_eq.trans address.length_octets
    refine ⟨?_, pairs, six, chars, matched⟩
    rw [← String.ofList_toList (s := text), chars, utf8ByteSize_ofList (isAscii_of_mem_joined matched),
      length_joined, six]

theorem address?_judge (text : String) : (judge text).address? = ofText? text := by
  cases read : ofText? text with
  | some address =>
      rw [judge_eq_address_iff.mpr (spells_iff_ofText?.mpr read), Judgement.address?]
  | none =>
      cases judged : judge text with
      | refused _ => rfl
      | outOfRange => rfl
      | address address =>
          have denotes := spells_iff_ofText?.mp (judge_eq_address_iff.mp judged)
          rw [read] at denotes
          cases denotes

theorem judge_ends (text : String) :
    (∃ address, judge text = .address address) ∨ judge text = .refused .invalidAddress := by
  rw [judge]
  split
  · exact fill_ends _ _ _
  · exact .inr rfl

theorem judge_eq_refused_iff :
    judge text = .refused .invalidAddress ↔ ∀ address, ¬ Spells text address := by
  simp only [← judge_eq_address_iff]
  constructor
  · intro refused address accepted
    rw [refused] at accepted
    cases accepted
  · intro nothing
    obtain ⟨address, accepted⟩ | refused := judge_ends text
    · exact absurd accepted (nothing address)
    · exact refused

/-! ## Writing -/

private theorem foldl_append_singleton (text : String) (letters : List Char) :
    (letters.map String.singleton).foldl (· ++ ·) text = text ++ String.ofList letters := by
  induction letters generalizing text with
  | nil => simp
  | cons letter rest ih =>
      simp only [List.map_cons, List.foldl_cons, ih, String.ofList_cons, String.append_assoc]

private theorem write_eq (address : Address) :
    address.write = (⟨address.toText, Nat.le_of_eq address.utf8ByteSize_toText⟩, true) := by
  have whole : (address.spelling.map String.singleton).foldl (· ++ ·) "" = address.toText := by
    rw [foldl_append_singleton, String.empty_append, toText]
  have fits : ((address.spelling.map String.singleton).foldl (· ++ ·) "").utf8ByteSize ≤
      Limits.addressTextBytes := by
    rw [whole]
    exact Nat.le_of_eq address.utf8ByteSize_toText
  rw [write, BoundedText.write_of_fits fits]
  simp only [BoundedText.empty, whole]

theorem write_eq_format (address : Address) : address.write = (address.format, true) := by
  have pushed := BoundedText.foldl_push_of_write address.write_eq
  rw [write_eq, format, pushed]

private theorem text_format (address : Address) : address.format.text = address.toText :=
  congrArg (fun written => written.1.text) (address.write_eq_format.symm.trans address.write_eq)

/-- A digit, an upper-case letter or a colon. -/
def IsWritten (letter : Char) : Prop :=
  letter = ':' ∨ ('0' ≤ letter ∧ letter ≤ '9') ∨ ('A' ≤ letter ∧ letter ≤ 'F')

private theorem isWritten_of_mem_spelling {letter : Char} (member : letter ∈ address.spelling) :
    IsWritten letter := by
  have bounds : ':'.toNat = 58 ∧ '0'.toNat = 48 ∧ '9'.toNat = 57 ∧ 'A'.toNat = 65 ∧
      'F'.toNat = 70 := by decide
  have range := toNat_of_mem_spell member
  simp only [IsWritten, le_iff_toNat_le, ← Char.toNat_inj, bounds]
  omega

theorem toUpper_toText (address : Address) : address.toText.toUpper = address.toText := by
  have upper : ∀ letter ∈ address.spelling, letter.toUpper = letter := by
    intro letter member
    have range := toNat_of_mem_spell member
    rw [← Char.toNat_inj, toNat_toUpper, if_neg (by omega)]
  rw [String.toUpper, ← String.toList_inj, String.toList_map, toText, String.toList_ofList,
    List.map_congr_left upper, List.map_id']

/-- What denotes an address is written back in upper case. -/
theorem toText_of_judge (accepted : judge text = .address address) :
    address.toText = text.toUpper := by
  have denotes := spells_iff_ofText?.mp (judge_eq_address_iff.mp accepted)
  rw [← toUpper_toText]
  exact (toUpper_text_eq_iff.mpr (ofText?_eq_some_iff.mp denotes)).symm

/-! ## Exactness -/

/-- A text denotes the one address that it spells and is refused if it spells none. -/
structure ReadExactly (text : String) : Prop where
  accepted : ∀ address, judge text = .address address ↔ Spells text address
  refused : judge text = .refused .invalidAddress ↔ ∀ address, ¬ Spells text address
  inRange : judge text ≠ .outOfRange
  address? : (judge text).address? = ofText? text
  upperCase : ∀ address, judge text = .address address → address.format.text = text.toUpper

/-- The written form of an address is whole and is read back. -/
structure WrittenExactly (address : Address) : Prop where
  whole : address.format.text.toList = address.spelling
  taken : address.write = (address.format, true)
  length : address.format.text.length = 17
  upperCase : ∀ letter ∈ address.format.text.toList, IsWritten letter
  readBack : judge address.format.text = .address address

theorem readExactly (text : String) : ReadExactly text where
  accepted _ := judge_eq_address_iff
  refused := judge_eq_refused_iff
  inRange := by
    intro beyond
    obtain ⟨_, ended⟩ | ended := judge_ends text
    · cases beyond.symm.trans ended
    · cases beyond.symm.trans ended
  address? := address?_judge text
  upperCase address accepted := (text_format address).trans (toText_of_judge accepted)

theorem writtenExactly (address : Address) : WrittenExactly address where
  whole := by rw [text_format, toText, String.toList_ofList]
  taken := write_eq_format address
  length := by
    rw [text_format, toText, String.length_ofList, length_spelling]
  upperCase := by
    intro letter member
    rw [text_format, toText, String.toList_ofList] at member
    exact isWritten_of_mem_spelling member
  readBack := by
    rw [text_format]
    exact judge_eq_address_iff.mpr (spells_iff_ofText?.mpr (ofText?_toText address))

/-- Every text is read for what it spells, every address is written whole, and two texts
denote one address exactly if they agree up to letter case. -/
theorem codec_exact :
    (∀ text, ReadExactly text) ∧ (∀ address, WrittenExactly address) ∧
      ∀ left right first second, judge left = .address first → judge right = .address second →
        (first = second ↔ AgreeUpToCase left right) := by
  refine ⟨readExactly, writtenExactly, ?_⟩
  intro left right first second leftAccepted rightAccepted
  rw [← toText_inj, toText_of_judge leftAccepted, toText_of_judge rightAccepted,
    toUpper_text_eq_iff]

section Sample

def mixedCase : String := "0a:1B:2c:3D:eE:fF"

def upperCase : String := "0A:1B:2C:3D:EE:FF"

theorem codec_exact_of_mixedCase :
    mixedCase ≠ upperCase ∧
    ∃ address, judge mixedCase = .address address ∧ judge upperCase = .address address ∧
      AgreeUpToCase mixedCase upperCase := by
  have mixed : judge mixedCase = .address ⟨[0x0A, 0x1B, 0x2C, 0x3D, 0xEE, 0xFF], rfl⟩ := by
    decide +kernel
  have upper : judge upperCase = .address ⟨[0x0A, 0x1B, 0x2C, 0x3D, 0xEE, 0xFF], rfl⟩ := by
    decide +kernel
  exact ⟨by decide, _, mixed, upper, (codec_exact.2.2 mixedCase upperCase _ _ mixed upper).mp rfl⟩

end Sample

end Address

end AudioHost
