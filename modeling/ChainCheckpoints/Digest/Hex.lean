import ChainCheckpoints.Digest.Basic
import ChainCheckpoints.Text.Quoted
import ChainCheckpoints.Text.Utf8

/-!
# Digests in Hexadecimal

A digest is written as 64 lowercase digits, two per byte, the high half first. When read, the
letters may be of either case and one marker `0x` may stand in front.

Reading settles the length first and then looks for the first byte that is no digit. Lengths and
positions are counted in bytes of the text after the marker, so a letter outside ASCII counts more
than once and is reported by the first of its bytes.

## Main definitions

* `Hex.encode`: the digits of a byte string.
* `Digest.toHex`: a digest as text.
* `Digest.ofHex?`: a digest from text.
* `HexError`: why a text is no digest.

## Theorems

* `Hex.length_pack`: two digits make a byte.
-/

namespace ChainCheckpoints

namespace Hex

/-- The lowercase digit of a number below sixteen. -/
def digit (n : Nat) : Char :=
  if n < 10 then Char.ofNat (48 + n) else Char.ofNat (87 + n)

/-- The two digits of a byte, high half first. -/
def ofByte (b : UInt8) : List Char :=
  [digit (b.toNat / 16), digit (b.toNat % 16)]

/-- The digits of a byte string. -/
def encode (bs : Bytes) : List Char :=
  bs.flatMap ofByte

/-- The value of a character as a digit of either case, given by its number. -/
def value? (code : Nat) : Option Nat :=
  if 48 ≤ code ∧ code ≤ 57 then some (code - 48)
  else if 97 ≤ code ∧ code ≤ 102 then some (code - 87)
  else if 65 ≤ code ∧ code ≤ 70 then some (code - 55)
  else none

/-- The first byte that is no digit, with its position, where the first byte of the list stands at
    `position`. -/
def firstForeign? : Bytes → (position : Nat) → Option (UInt8 × Nat)
  | [], _ => none
  | b :: bs, position =>
    match value? b.toNat with
    | some _ => firstForeign? bs (position + 1)
    | none => some (b, position)

/-- Two digits make a byte. A byte that is no digit counts as zero: the readers rule it out first. -/
def pack : Bytes → Bytes
  | high :: low :: rest =>
    UInt8.ofNat (16 * (value? high.toNat).getD 0 + (value? low.toNat).getD 0) :: pack rest
  | _ => []

theorem length_pack : ∀ digits : Bytes, (pack digits).length = digits.length / 2
  | [] => rfl
  | [_] => by simp [pack]
  | _ :: _ :: rest => by
    simp only [pack, List.length_cons, length_pack rest]
    omega

/-- The bytes of a text that holds digits only, in pairs. -/
def decode? (text : String) : Option Bytes :=
  let digits := Utf8.ofString text
  if digits.length % 2 = 0 ∧ firstForeign? digits 0 = none then some (pack digits) else none

end Hex

/-- Why a text is no digest. -/
inductive HexError
  /-- The text does not have 64 bytes, but `length`. -/
  | length (length : Nat)
  /-- The byte at `position` is no digit. -/
  | digit (byte : UInt8) (position : Nat)
deriving DecidableEq

namespace HexError

/-- The wording of an error. A byte is shown as the character with its number. -/
def message : HexError → String
  | .length n => s!"Invalid hash length: expected 64 hex chars, got {n}"
  | .digit byte position =>
    let shown := Text.quoted '\x27' (Char.ofNat byte.toNat).toString
    s!"Invalid hex: Invalid character {shown} at position {position}"

end HexError

namespace Digest

/-- A digest as 64 lowercase digits. -/
def toHex (d : Digest) : String :=
  String.ofList (Hex.encode d.bytes)

/-- The text without one marker `0x` in front. -/
def dropMarker : List Char → List Char
  | '0' :: 'x' :: rest => rest
  | text => text

/-- Reads the bytes of a text, with the marker already dropped. -/
def ofDigits? (digits : Bytes) : Except HexError Digest :=
  if h : digits.length = 64 then
    match Hex.firstForeign? digits 0 with
    | some (byte, position) => .error (.digit byte position)
    | none => .ok ⟨Hex.pack digits, by rw [Hex.length_pack, h]⟩
  else .error (.length digits.length)

/-- Reads a digest from text. -/
def ofHex? (text : String) : Except HexError Digest :=
  ofDigits? (Utf8.ofChars (dropMarker text.toList))

end Digest

end ChainCheckpoints
