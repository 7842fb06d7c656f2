import AudioHost.Address
import AudioHost.Sink.Refusal

/-!
# Addresses step by step

A text is cut at its colons, and one octet after the other is put into six places. The
written form is pushed character by character into a text that has room for it and no more.
Both ways come to what reading and writing an address as a whole come to.
-/

set_option autoImplicit false

namespace AudioHost

namespace Text

def isHexDigit (letter : Char) : Bool := (hexValue? letter).isSome

/-- A byte from a numeral of any length, which may have a plus sign in front. -/
def byteOfNumeral? (numeral : List Char) : Option UInt8 :=
  let digits :=
    match numeral with
    | '+' :: first :: rest => first :: rest
    | _ => numeral
  if digits.isEmpty then none
  else ((hexNumber? digits).filter fun number => decide (number < 256)).map UInt8.ofNat

end Text

namespace Address

/-- How the reading of a text ends. -/
inductive Judgement where
  | address (address : Address)
  | refused (cause : Refusal)
  /-- An octet was meant for a place that does not exist. -/
  | outOfRange
  deriving DecidableEq

def Judgement.address? : Judgement → Option Address
  | .address denoted => some denoted
  | .refused _ => none
  | .outOfRange => none

def blank : Address := ⟨[0, 0, 0, 0, 0, 0], rfl⟩

def put? (row : Address) (place : Nat) (octet : UInt8) : Option Address :=
  if place < 6 then
    some ⟨row.octets.set place octet, (List.length_set ..).trans row.length_octets⟩
  else none

/-- Puts the octets that some parts of a text denote into the places from `count` on. Parts
beyond the sixth and parts that are not two digits are refused before they are looked up. -/
def fill (row : Address) (count : Nat) : List (List Char) → Judgement
  | [] => if count = 6 then .address row else .refused .invalidAddress
  | part :: rest =>
      if 6 ≤ count || (String.ofList part).utf8ByteSize != 2 || !part.all Text.isHexDigit then
        .refused .invalidAddress
      else
        match Text.byteOfNumeral? part with
        | none => .refused .invalidAddress
        | some octet =>
            match row.put? count octet with
            | none => .outOfRange
            | some filled => fill filled (count + 1) rest

def judge (text : String) : Judgement :=
  if text.utf8ByteSize = Limits.addressTextBytes then blank.fill 0 (text.toList.splitOn ':')
  else .refused .invalidAddress

def format (address : Address) : WrittenAddress :=
  address.spelling.foldl BoundedText.push .empty

end Address

end AudioHost
