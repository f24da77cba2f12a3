/-!
# Byte Strings

What is hashed is first laid out as a byte string, so that every node names the same block and
the same transaction by the same digest. Numbers go in with a fixed width and the least
significant byte first; a fixed width is what lets a layout be taken apart again without
separators.

## Main definitions

* `Bytes`: a string of bytes.
* `Bytes.littleEndian`: the low bytes of a number, least significant first.
* `Bytes.bigEndian`: the same bytes, most significant first.
* `Bytes.ofWord32`, `Bytes.ofWord64`: the fixed-width layouts of machine words.
* `Bytes.ofLength`, `Bytes.counted`: lengths, and byte strings that carry their length.

## Theorems

* `Bytes.length_littleEndian`: a layout has the width that was asked for.
* `Bytes.littleEndian_inj`: numbers that fit the width have different layouts.
* `Bytes.ofWord32_inj`, `Bytes.ofWord64_inj`: so have different words.
-/

namespace ChainCheckpoints

/-- A string of bytes. -/
abbrev Bytes := List UInt8

namespace Bytes

/-- The low `width` bytes of `n`, least significant first. Higher bytes are dropped. -/
def littleEndian : (width : Nat) → (n : Nat) → Bytes
  | 0, _ => []
  | width + 1, n => UInt8.ofNat n :: littleEndian width (n / 256)

/-- The low `width` bytes of `n`, most significant first. -/
def bigEndian (width n : Nat) : Bytes :=
  (littleEndian width n).reverse

/-- Four bytes, least significant first. -/
def ofWord32 (w : UInt32) : Bytes :=
  littleEndian 4 w.toNat

/-- Eight bytes, least significant first. -/
def ofWord64 (w : UInt64) : Bytes :=
  littleEndian 8 w.toNat

/-- A length, in eight bytes. -/
def ofLength (n : Nat) : Bytes :=
  littleEndian 8 n

/-- A byte string preceded by its length, so that it can be followed by anything. -/
def counted (bs : Bytes) : Bytes :=
  ofLength bs.length ++ bs

@[simp] theorem length_littleEndian (width n : Nat) : (littleEndian width n).length = width := by
  induction width generalizing n with
  | zero => rfl
  | succ width ih => simp [littleEndian, ih]

@[simp] theorem length_bigEndian (width n : Nat) : (bigEndian width n).length = width := by
  simp [bigEndian]

@[simp] theorem length_ofWord32 (w : UInt32) : (ofWord32 w).length = 4 :=
  length_littleEndian 4 _

@[simp] theorem length_ofWord64 (w : UInt64) : (ofWord64 w).length = 8 :=
  length_littleEndian 8 _

/-- Numbers that fit the width are told apart by their layouts: the first byte fixes the remainder
    by 256, the others fix the quotient. -/
theorem littleEndian_inj {width m n : Nat} (hm : m < Nat.pow 256 width) (hn : n < Nat.pow 256 width)
    (h : littleEndian width m = littleEndian width n) : m = n := by
  induction width generalizing m n with
  | zero =>
    have hm : m < 1 := hm
    have hn : n < 1 := hn
    omega
  | succ width ih =>
    simp only [littleEndian, List.cons.injEq] at h
    have low : m % 256 = n % 256 := by
      simpa using congrArg UInt8.toNat h.1
    have high : m / 256 = n / 256 :=
      ih (Nat.div_lt_of_lt_mul (by rw [Nat.mul_comm]; exact hm))
        (Nat.div_lt_of_lt_mul (by rw [Nat.mul_comm]; exact hn)) h.2
    omega

theorem ofWord32_inj {v w : UInt32} (h : ofWord32 v = ofWord32 w) : v = w :=
  UInt32.toNat_inj.1 (@littleEndian_inj 4 _ _ v.toNat_lt w.toNat_lt h)

theorem ofWord64_inj {v w : UInt64} (h : ofWord64 v = ofWord64 w) : v = w :=
  UInt64.toNat_inj.1 (@littleEndian_inj 8 _ _ v.toNat_lt w.toNat_lt h)

end Bytes

end ChainCheckpoints
