import ChainCheckpoints.Proofs.Digest.Hex

/-!
# What Is Read as a Digest

Any text may be given for a digest, and a reader says what is wrong with it. Behind the marker there
must be 64 digits of either case and nothing else. The length is settled first and is counted in
bytes, so it may well be 64 when the text has fewer characters; then one of them is outside ASCII,
and none of the bytes of such a character is a digit. So a text that holds digits only is as long in
bytes as it is in characters, and the first byte that is no digit shows where a text of the right
length goes wrong.

One marker is dropped and no more. What is left may start with a marker again, and its letter is
then the byte that is no digit.

Two digits make a byte, and the digits of that byte are the two that were read, in lowercase. So a
digest that is read is written as the text that it was read from, but for the marker and the case.

## Main definitions

* `Hex.IsDigit`: the numbers of the digits.
* `Digest.Unmarked`: a text and what is left of it without a marker.
* `Digest.Reading`: what becomes of a text without its marker.

## Theorems

* `Hex.isDigit_utf8_iff`: a character outside ASCII has no digit among its bytes.
* `Hex.firstForeign?_eq_some`: the first byte that is no digit.
* `Hex.encode_pack`: digits are written as they were read, in lowercase.
* `Digest.reading_ofDigits?`, `Digest.Reading.eq_ofDigits?`: what becomes of a text.
* `Digest.ofHex?_exact`: every text is read as its digest or refused for its first fault.
-/

namespace ChainCheckpoints

/-- Either all have the property, or there is a first that does not have it. -/
theorem forall_or_first {α : Type} (P : α → Prop) (xs : List α) : (∀ x ∈ xs, P x) ∨
    ∃ before x after, xs = before ++ x :: after ∧ (∀ y ∈ before, P y) ∧ ¬ P x := by
  induction xs with
  | nil => exact .inl fun x hx => absurd hx List.not_mem_nil
  | cons x xs ih =>
    by_cases hx : P x
    · rcases ih with hall | ⟨before, y, after, hxs, hbefore, hy⟩
      · exact .inl (List.forall_mem_cons.2 ⟨hx, hall⟩)
      · refine .inr ⟨x :: before, y, after, ?_, List.forall_mem_cons.2 ⟨hx, hbefore⟩, hy⟩
        rw [hxs, List.cons_append]
    · exact .inr ⟨[], x, xs, rfl, fun y hy => absurd hy List.not_mem_nil, hx⟩

namespace Utf8

theorem length_ofString (text : String) : (ofString text).length = text.utf8ByteSize := by
  rw [← String.size_toByteArray, ← String.utf8Encode_toList, List.utf8Encode, List.size_toByteArray]
  rfl

end Utf8

namespace Hex

variable {code : Nat} {b : UInt8} {bs : Bytes} {c : Char} {cs : List Char}

/-- The numbers of the digits, in ASCII and in UTF-8 alike. -/
def IsDigit (code : Nat) : Prop :=
  ('0'.toNat ≤ code ∧ code ≤ '9'.toNat) ∨ ('a'.toNat ≤ code ∧ code ≤ 'f'.toNat) ∨
    ('A'.toNat ≤ code ∧ code ≤ 'F'.toNat)

instance : DecidablePred IsDigit :=
  fun _ => inferInstanceAs (Decidable (_ ∨ _ ∨ _))

theorem value?_eq_none_iff : value? code = none ↔ ¬ IsDigit code := by
  unfold value? IsDigit
  simp only [Char.reduceToNat]
  by_cases hnumber : 48 ≤ code ∧ code ≤ 57
  · simp only [hnumber, and_self, if_true, reduceCtorEq, true_or, not_true]
  by_cases hlower : 97 ≤ code ∧ code ≤ 102
  · simp only [hnumber, hlower, and_self, if_true, if_false, reduceCtorEq, true_or, or_true,
      not_true]
  by_cases hupper : 65 ≤ code ∧ code ≤ 70
  · simp only [hnumber, hlower, hupper, and_self, if_true, if_false, reduceCtorEq, or_true,
      not_true]
  · simp only [hnumber, hlower, hupper, if_false, or_self, not_false_eq_true]

theorem exists_value (h : IsDigit code) : ∃ n, value? code = some n := by
  rcases hvalue : value? code with _ | n
  · exact absurd h (value?_eq_none_iff.1 hvalue)
  · exact ⟨n, rfl⟩

theorem IsDigit.lt (h : IsDigit code) : code < 128 := by
  unfold IsDigit at h
  simp only [Char.reduceToNat] at h
  omega

/-- A digit stands for a number below sixteen, and is that number's digit but for the case. -/
theorem digit_of_value? {n : Nat} (h : value? c.toNat = some n) : n < 16 ∧ digit n = c.toLower := by
  have hdigit : IsDigit c.toNat := by
    refine Decidable.not_not.1 ?_
    intro hforeign
    rw [value?_eq_none_iff.2 hforeign] at h
    cases h
  have hall : ∀ code < 128, ∀ n ∈ value? code, n < 16 ∧ digit n = (Char.ofNat code).toLower := by
    decide
  have hc := hall c.toNat hdigit.lt n h
  rw [Char.ofNat_toNat] at hc
  exact hc

theorem utf8_of_lt (h : c.toNat < 128) : String.utf8EncodeChar c = [UInt8.ofNat c.toNat] := by
  have hle : c.val.toNat ≤ 127 := Nat.le_of_lt_succ h
  unfold String.utf8EncodeChar
  exact if_pos hle

/-- A character outside ASCII ends with a continuation. -/
theorem exists_continuation (h : 128 ≤ c.toNat) : ∃ b ∈ String.utf8EncodeChar c, 128 ≤ b.toNat := by
  have hlt : c.val.toNat % 64 + 128 < 2 ^ 8 := by omega
  refine ⟨UInt8.ofNat (c.val.toNat % 64 + 128), ?_, ?_⟩
  · have hone : ¬ c.val.toNat ≤ 127 := Nat.not_le.2 h
    unfold String.utf8EncodeChar
    simp only [if_neg hone]
    -- Two bytes, three or four.
    by_cases htwo : c.val.toNat ≤ 2047
    · simp only [if_pos htwo, List.mem_cons, true_or, or_true]
    by_cases hthree : c.val.toNat ≤ 65535
    · simp only [if_neg htwo, if_pos hthree, List.mem_cons, true_or, or_true]
    · simp only [if_neg htwo, if_neg hthree, List.mem_cons, true_or, or_true]
  · rw [UInt8.toNat_ofNat_of_lt' hlt]
    omega

/-- The bytes of a character are digits exactly if it is a digit. -/
theorem isDigit_utf8_iff : (∀ b ∈ String.utf8EncodeChar c, IsDigit b.toNat) ↔ IsDigit c.toNat := by
  by_cases hlt : c.toNat < 128
  · have hbyte : (UInt8.ofNat c.toNat).toNat = c.toNat :=
      UInt8.toNat_ofNat_of_lt' (Nat.lt_trans hlt (by decide))
    rw [utf8_of_lt hlt, List.forall_mem_singleton, hbyte]
  · constructor
    · intro hall
      rcases exists_continuation (Nat.not_lt.1 hlt) with ⟨b, hb, hle⟩
      exact absurd (hall b hb).lt (Nat.not_lt.2 hle)
    · intro h
      exact absurd h.lt hlt

theorem isDigit_ofChars_iff :
    (∀ b ∈ Utf8.ofChars cs, IsDigit b.toNat) ↔ ∀ c ∈ cs, IsDigit c.toNat := by
  unfold Utf8.ofChars
  rw [List.forall_mem_flatMap]
  exact forall₂_congr fun c _ => isDigit_utf8_iff

theorem length_ofChars (h : ∀ c ∈ cs, IsDigit c.toNat) : (Utf8.ofChars cs).length = cs.length := by
  induction cs with
  | nil => rfl
  | cons c cs ih =>
    rw [List.forall_mem_cons] at h
    have hrest : (cs.flatMap String.utf8EncodeChar).length = cs.length := ih h.2
    rw [Utf8.ofChars, List.flatMap_cons, utf8_of_lt h.1.lt, List.singleton_append, List.length_cons,
      hrest, List.length_cons]

theorem toNat_ofNat_of_digit (h : IsDigit code) : (UInt8.ofNat code).toNat = code :=
  UInt8.toNat_ofNat_of_lt' (Nat.lt_trans h.lt (by decide))

theorem firstForeign?_of_digits (h : ∀ b ∈ bs, IsDigit b.toNat) (rest : Bytes) (position : Nat) :
    firstForeign? (bs ++ rest) position = firstForeign? rest (position + bs.length) := by
  induction bs generalizing position with
  | nil => rfl
  | cons b bs ih =>
    rw [List.forall_mem_cons] at h
    rcases exists_value h.1 with ⟨n, hn⟩
    rw [List.cons_append, firstForeign?]
    simp only [hn]
    rw [ih h.2, List.length_cons]
    congr 1
    omega

theorem firstForeign?_eq_none (h : ∀ b ∈ bs, IsDigit b.toNat) : firstForeign? bs 0 = none := by
  have hnone := firstForeign?_of_digits h [] 0
  rw [List.append_nil] at hnone
  exact hnone

theorem firstForeign?_eq_some (h : ∀ d ∈ bs, IsDigit d.toNat) (hforeign : ¬ IsDigit b.toNat)
    (after : Bytes) : firstForeign? (bs ++ b :: after) 0 = some (b, bs.length) := by
  rw [firstForeign?_of_digits h, firstForeign?]
  simp only [value?_eq_none_iff.2 hforeign, Nat.zero_add]

/-- Two digits make a byte that is written with the same two, in lowercase. -/
theorem ofByte_of_value? {d : Char} {m n : Nat} (hm : value? c.toNat = some m)
    (hn : value? d.toNat = some n) :
    ofByte (UInt8.ofNat (16 * m + n)) = [c.toLower, d.toLower] := by
  rcases digit_of_value? hm with ⟨hmlt, hc⟩
  rcases digit_of_value? hn with ⟨hnlt, hd⟩
  have hlt : 16 * m + n < 2 ^ 8 := by omega
  have hbyte : (UInt8.ofNat (16 * m + n)).toNat = 16 * m + n := UInt8.toNat_ofNat_of_lt' hlt
  have hhigh : (16 * m + n) / 16 = m := by omega
  have hlow : (16 * m + n) % 16 = n := by omega
  rw [ofByte, hbyte, hhigh, hlow, hc, hd]

/-- Digits are written as they were read, in lowercase. -/
theorem encode_pack : ∀ cs : List Char, cs.length % 2 = 0 → (∀ c ∈ cs, IsDigit c.toNat) →
    encode (pack (Utf8.ofChars cs)) = cs.map Char.toLower
  | [], _, _ => rfl
  | [_], hodd, _ => absurd hodd (Nat.succ_ne_zero 0)
  | c :: d :: cs, heven, h => by
    rw [List.forall_mem_cons, List.forall_mem_cons] at h
    rcases h with ⟨hc, hd, hcs⟩
    rcases exists_value hc with ⟨m, hm⟩
    rcases exists_value hd with ⟨n, hn⟩
    have hrest : encode (pack (Utf8.ofChars cs)) = cs.map Char.toLower :=
      encode_pack cs (by simp only [List.length_cons] at heven; omega) hcs
    have hbytes : Utf8.ofChars (c :: d :: cs) =
        UInt8.ofNat c.toNat :: UInt8.ofNat d.toNat :: Utf8.ofChars cs := by
      simp only [Utf8.ofChars, List.flatMap_cons, utf8_of_lt hc.lt, utf8_of_lt hd.lt,
        List.cons_append, List.nil_append]
    rw [hbytes, pack, toNat_ofNat_of_digit hc, toNat_ofNat_of_digit hd, hm, hn, Option.getD_some,
      Option.getD_some, encode, List.flatMap_cons, ofByte_of_value? hm hn, ← encode, hrest]
    rfl

end Hex

namespace Digest

variable {text rest other : String} {d : Digest} {result : Except HexError Digest}

/-- What is left of a text when one marker in front of it is dropped, if there is one. -/
inductive Unmarked : (text rest : String) → Prop
  | marked (rest : String) : Unmarked ("0x" ++ rest) rest
  | bare {text : String} (hbare : ¬ ['0', 'x'] <+: text.toList) : Unmarked text text

/-- What becomes of a text without its marker: it holds 64 digits, it does not have 64 bytes, or one
    of its bytes is the first that is no digit. -/
inductive Reading (rest : String) : Except HexError Digest → Prop
  /-- The digest is written with the digits of the text, in lowercase. -/
  | digest {d : Digest} (hlength : rest.length = 64)
    (hdigits : ∀ c ∈ rest.toList, Hex.IsDigit c.toNat) (hlower : d.toHex = rest.toLower) :
    Reading rest (.ok d)
  | length (hsize : rest.utf8ByteSize ≠ 64) : Reading rest (.error (.length rest.utf8ByteSize))
  | digit {before after : Bytes} {b : UInt8} (hsize : rest.utf8ByteSize = 64)
    (hbytes : Utf8.ofString rest = before ++ b :: after)
    (hbefore : ∀ d ∈ before, Hex.IsDigit d.toNat) (hforeign : ¬ Hex.IsDigit b.toNat) :
    Reading rest (.error (.digit b before.length))

theorem Unmarked.toList (h : Unmarked text rest) : dropMarker text.toList = rest.toList := by
  cases h with
  | marked => rw [String.toList_append]; rfl
  | bare hbare =>
    rw [dropMarker]
    intro tail heq
    exact hbare ⟨tail, heq.symm⟩

theorem exists_unmarked (text : String) : ∃ rest, Unmarked text rest := by
  by_cases h : ['0', 'x'] <+: text.toList
  · rcases h with ⟨tail, htail⟩
    refine ⟨String.ofList tail, ?_⟩
    have hrest : (String.ofList tail).toList = tail := String.toList_ofList
    have htext : text = "0x" ++ String.ofList tail := by
      rw [← String.toList_inj, String.toList_append, hrest]
      exact htail.symm
    rw [htext]
    exact .marked _
  · exact ⟨text, .bare h⟩

theorem Unmarked.unique (h : Unmarked text rest) (h' : Unmarked text other) : other = rest := by
  rw [← String.toList_inj, ← h.toList, ← h'.toList]

theorem Unmarked.ofHex?_eq (h : Unmarked text rest) :
    ofHex? text = ofDigits? (Utf8.ofString rest) := by
  rw [ofHex?, h.toList, Utf8.ofString]

theorem toHex_inj {d e : Digest} (h : d.toHex = e.toHex) : d = e := by
  have hread := ofHex?_toHex d
  rw [h, ofHex?_toHex, Except.ok.injEq] at hread
  exact hread.symm

/-- A text of another length is refused for it. -/
theorem ofDigits?_of_size (h : rest.utf8ByteSize ≠ 64) :
    ofDigits? (Utf8.ofString rest) = .error (.length rest.utf8ByteSize) := by
  rw [← Utf8.length_ofString] at h ⊢
  exact dif_neg h

/-- A text of the right length is refused for the first byte that is no digit. -/
theorem ofDigits?_of_foreign {before after : Bytes} {b : UInt8} (hsize : rest.utf8ByteSize = 64)
    (hbytes : Utf8.ofString rest = before ++ b :: after)
    (hbefore : ∀ d ∈ before, Hex.IsDigit d.toNat) (hforeign : ¬ Hex.IsDigit b.toNat) :
    ofDigits? (Utf8.ofString rest) = .error (.digit b before.length) := by
  have hlength : (Utf8.ofString rest).length = 64 := (Utf8.length_ofString rest).trans hsize
  have hfirst : Hex.firstForeign? (Utf8.ofString rest) 0 = some (b, before.length) := by
    rw [hbytes]
    exact Hex.firstForeign?_eq_some hbefore hforeign after
  rw [ofDigits?, dif_pos hlength]
  split
  next b' position hfound =>
    rw [hfirst, Option.some.injEq, Prod.mk.injEq] at hfound
    rw [hfound.1, hfound.2]
  next hnone =>
    rw [hfirst] at hnone
    cases hnone

theorem exists_ofDigits? {digits : Bytes} (h : digits.length = 64)
    (hnone : Hex.firstForeign? digits 0 = none) :
    ∃ d, ofDigits? digits = .ok d ∧ d.bytes = Hex.pack digits := by
  rw [ofDigits?, dif_pos h]
  split
  next b position hfound =>
    rw [hnone] at hfound
    cases hfound
  next => exact ⟨_, rfl, rfl⟩

/-- A text of 64 digits is read as the digest that is written with them. -/
theorem exists_of_digits (hlength : rest.length = 64)
    (hdigits : ∀ c ∈ rest.toList, Hex.IsDigit c.toNat) :
    ∃ d, ofDigits? (Utf8.ofString rest) = .ok d ∧ d.toHex = rest.toLower := by
  have hchars : rest.toList.length = 64 := by
    rw [String.length_toList]
    exact hlength
  have hsize : (Utf8.ofString rest).length = 64 := (Hex.length_ofChars hdigits).trans hchars
  have hnone : Hex.firstForeign? (Utf8.ofString rest) 0 = none :=
    Hex.firstForeign?_eq_none (Hex.isDigit_ofChars_iff.2 hdigits)
  rcases exists_ofDigits? hsize hnone with ⟨d, hd, hbytes⟩
  refine ⟨d, hd, ?_⟩
  have heven : rest.toList.length % 2 = 0 := by omega
  have hlower : Hex.encode d.bytes = rest.toList.map Char.toLower := by
    rw [hbytes]
    exact Hex.encode_pack rest.toList heven hdigits
  have htext : rest.toLower.toList = rest.toList.map Char.toLower := String.toList_map
  rw [← String.toList_inj, toHex, String.toList_ofList, hlower, htext]

/-- Every text becomes a digest or has a fault. -/
theorem reading_ofDigits? (rest : String) : Reading rest (ofDigits? (Utf8.ofString rest)) := by
  by_cases hsize : rest.utf8ByteSize = 64
  · rcases forall_or_first (Hex.IsDigit ·.toNat) (Utf8.ofString rest) with
      hall | ⟨before, b, after, hbytes, hbefore, hforeign⟩
    · have hdigits : ∀ c ∈ rest.toList, Hex.IsDigit c.toNat := Hex.isDigit_ofChars_iff.1 hall
      have hchars : rest.length = 64 := by
        rw [← String.length_toList, ← Hex.length_ofChars hdigits]
        exact (Utf8.length_ofString rest).trans hsize
      rcases exists_of_digits hchars hdigits with ⟨d, hd, hlower⟩
      rw [hd]
      exact .digest hchars hdigits hlower
    · rw [ofDigits?_of_foreign hsize hbytes hbefore hforeign]
      exact .digit hsize hbytes hbefore hforeign
  · rw [ofDigits?_of_size hsize]
    exact .length hsize

/-- A text becomes one thing only. -/
theorem Reading.eq_ofDigits? (h : Reading rest result) :
    ofDigits? (Utf8.ofString rest) = result := by
  cases h with
  | @digest d hlength hdigits hlower =>
    rcases exists_of_digits hlength hdigits with ⟨e, he, hsame⟩
    rw [he, toHex_inj (hlower.trans hsame.symm)]
  | length hsize => exact ofDigits?_of_size hsize
  | digit hsize hbytes hbefore hforeign =>
    exact ofDigits?_of_foreign hsize hbytes hbefore hforeign

/-- One marker is dropped from a text and no more. What is left is a digest exactly if it holds 64
    digits and nothing else, and it is read as the digest that is written with these digits in
    lowercase, or refused for its length in bytes, or for the first byte that is no digit. A digest
    that is written is read back, with the marker and without. -/
theorem ofHex?_exact (text : String) :
    (∃ rest, Unmarked text rest ∧ (∀ other, Unmarked text other → other = rest) ∧
      ((∃ d, ofHex? text = .ok d) ↔
        rest.length = 64 ∧ ∀ c ∈ rest.toList, Hex.IsDigit c.toNat) ∧
      ∀ result, ofHex? text = result ↔ Reading rest result) ∧
    ∀ d : Digest, ofHex? d.toHex = .ok d ∧ ofHex? ("0x" ++ d.toHex) = .ok d := by
  rcases exists_unmarked text with ⟨rest, hrest⟩
  refine ⟨⟨rest, hrest, fun other => hrest.unique, ?_, ?_⟩, ?_⟩
  · rw [hrest.ofHex?_eq]
    constructor
    · intro hread
      rcases hread with ⟨d, hd⟩
      have hreading := reading_ofDigits? rest
      rw [hd] at hreading
      cases hreading with
      | digest hlength hdigits _ => exact ⟨hlength, hdigits⟩
    · intro h
      rcases exists_of_digits h.1 h.2 with ⟨d, hd, _⟩
      exact ⟨d, hd⟩
  · intro result
    rw [hrest.ofHex?_eq]
    constructor
    · intro hresult
      rw [← hresult]
      exact reading_ofDigits? rest
    · exact Reading.eq_ofDigits?
  · intro d
    have hbare : ofHex? d.toHex = .ok d := ofHex?_toHex d
    have hkept : dropMarker d.toHex.toList = d.toHex.toList := by
      rw [toHex, String.toList_ofList, dropMarker_encode]
    refine ⟨hbare, ?_⟩
    rw [(Unmarked.marked d.toHex).ofHex?_eq, Utf8.ofString, ← hkept]
    exact hbare

/-- Two markers, and as many zeros as would make the second one a part of the digits. -/
theorem ofHex?_exact_of_two_markers :
    let zeros := String.ofList (List.replicate 62 '0')
    let text := "0x" ++ ("0x" ++ zeros)
    Unmarked text ("0x" ++ zeros) ∧ ofHex? text = .error (.digit 120 1) ∧
      ¬ ∃ d, ofHex? text = .ok d := by
  intro zeros text
  have hunmarked : Unmarked text ("0x" ++ zeros) := .marked _
  rcases (ofHex?_exact text).1 with ⟨rest, _, hunique, hdigest, hreading⟩
  obtain rfl : "0x" ++ zeros = rest := hunique _ hunmarked
  have hzeros : zeros.toList = List.replicate 62 '0' := String.toList_ofList
  have hchars : ("0x" ++ zeros).toList = ['0', 'x'] ++ List.replicate 62 '0' := by
    rw [String.toList_append, hzeros]
    rfl
  have hbytes : Utf8.ofString ("0x" ++ zeros) = [48] ++ 120 :: List.replicate 62 48 := by
    rw [Utf8.ofString, hchars]
    rfl
  have hsize : ("0x" ++ zeros).utf8ByteSize = 64 := by
    rw [← Utf8.length_ofString, hbytes]
    rfl
  refine ⟨hunmarked, ?_, ?_⟩
  · have hzero : ∀ d ∈ ([48] : Bytes), Hex.IsDigit d.toNat :=
      List.forall_mem_singleton.2 (by decide)
    exact (hreading _).2 (.digit hsize hbytes hzero (by decide))
  · rw [hdigest]
    intro h
    have hmem : 'x' ∈ ("0x" ++ zeros).toList := by
      rw [hchars]
      exact List.mem_cons_of_mem '0' List.mem_cons_self
    exact absurd (h.2 'x' hmem) (by decide)

end Digest

end ChainCheckpoints
