import ChainCheckpoints.Digest.Hex

/-!
# Reading Back Digests

A digest that is written in hexadecimal is read back as it was. The digits are ASCII, so the bytes of
the text are the digits, two for a byte, and none of them is the letter of the marker: the reader
drops nothing that was written.

## Main definitions

* `Hex.digitByte`: the byte of a digit.

## Theorems

* `Hex.value?_digit`: a digit has the value that it was made from.
* `Hex.ofChars_encode_cons`: the bytes of the digits of a byte string, byte by byte.
* `Hex.pack_encode`: the digits of a byte string pack to that byte string.
* `Digest.ofHex?_toHex`: a written digest is read back.
-/

namespace ChainCheckpoints

namespace Hex

variable {n : Nat} {b : UInt8} {bs : Bytes}

/-- The byte of a digit. -/
def digitByte (n : Nat) : UInt8 :=
  UInt8.ofNat (digit n).toNat

theorem value?_digit (hn : n < 16) : value? (digit n).toNat = some n := by
  revert n
  decide

theorem value?_digitByte (hn : n < 16) : value? (digitByte n).toNat = some n := by
  revert n
  decide

theorem utf8_digit (hn : n < 16) : String.utf8EncodeChar (digit n) = [digitByte n] := by
  revert n
  decide

theorem digit_ne_marker (hn : n < 16) : digit n ≠ 'x' := by
  revert n
  decide

theorem high_lt (b : UInt8) : b.toNat / 16 < 16 :=
  Nat.div_lt_of_lt_mul b.toNat_lt

theorem low_lt (b : UInt8) : b.toNat % 16 < 16 :=
  Nat.mod_lt _ (by decide)

theorem ofChars_encode_cons (b : UInt8) (bs : Bytes) :
    Utf8.ofChars (encode (b :: bs)) =
      digitByte (b.toNat / 16) :: digitByte (b.toNat % 16) :: Utf8.ofChars (encode bs) := by
  simp only [Utf8.ofChars, encode, List.flatMap_cons, ofByte, List.cons_append, List.nil_append,
    utf8_digit (high_lt b), utf8_digit (low_lt b)]

theorem length_encode (bs : Bytes) : (Utf8.ofChars (encode bs)).length = 2 * bs.length := by
  induction bs with
  | nil => rfl
  | cons b bs ih =>
    rw [ofChars_encode_cons, List.length_cons, List.length_cons, ih, List.length_cons]
    omega

theorem firstForeign?_encode (bs : Bytes) (position : Nat) :
    firstForeign? (Utf8.ofChars (encode bs)) position = none := by
  induction bs generalizing position with
  | nil => rfl
  | cons b bs ih =>
    simp only [ofChars_encode_cons, firstForeign?, value?_digitByte (high_lt b),
      value?_digitByte (low_lt b), ih]

theorem pack_encode (bs : Bytes) : pack (Utf8.ofChars (encode bs)) = bs := by
  induction bs with
  | nil => rfl
  | cons b bs ih =>
    have hhalves : 16 * (b.toNat / 16) + b.toNat % 16 = b.toNat := Nat.div_add_mod _ _
    simp only [ofChars_encode_cons, pack, value?_digitByte (high_lt b), value?_digitByte (low_lt b),
      Option.getD_some, hhalves, UInt8.ofNat_toNat, ih]

end Hex

namespace Digest

/-- The letter of the marker is no digit, so nothing is dropped. -/
theorem dropMarker_encode (bs : Bytes) : dropMarker (Hex.encode bs) = Hex.encode bs := by
  rcases bs with _ | ⟨b, bs⟩
  · rfl
  have hsecond : Hex.digit (b.toNat % 16) ≠ 'x' := Hex.digit_ne_marker (Hex.low_lt b)
  rw [dropMarker]
  -- The marker would have its letter in the place of the second digit.
  intro rest heq
  rw [Hex.encode, List.flatMap_cons, Hex.ofByte, List.cons_append, List.cons_append,
    List.cons.injEq, List.cons.injEq] at heq
  exact hsecond heq.2.1

theorem ofHex?_toHex (d : Digest) : ofHex? d.toHex = .ok d := by
  have hlength : (Utf8.ofChars (Hex.encode d.bytes)).length = 64 := by
    rw [Hex.length_encode, d.length_bytes]
  have hdigits : Hex.firstForeign? (Utf8.ofChars (Hex.encode d.bytes)) 0 = none :=
    Hex.firstForeign?_encode d.bytes 0
  have hbytes : Hex.pack (Utf8.ofChars (Hex.encode d.bytes)) = d.bytes := Hex.pack_encode d.bytes
  rw [ofHex?, toHex, String.toList_ofList, dropMarker_encode, ofDigits?, dif_pos hlength]
  split
  next byte position hforeign =>
    rw [hdigits] at hforeign
    cases hforeign
  next => exact congrArg Except.ok (Digest.ext hbytes)

end Digest

end ChainCheckpoints
