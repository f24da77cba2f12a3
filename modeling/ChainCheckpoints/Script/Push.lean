import ChainCheckpoints.Bytes

/-!
# Pushes

A script moves data onto its stack by pushes. There are three forms: a single zero byte for the
empty item, a length byte of at most 75 followed by the item, and the marker 76 with a length byte
of its own. The first byte tells the forms apart and fixes how many bytes follow, so a script that
holds nothing but pushes falls apart into them in one way only.

`Push` keeps the form along with the item. Two pushes of the same item in different forms are
different pushes, and that is what makes reading lossless.

## Main definitions

* `Push`: a push, by its form.
* `Push.encode`: its bytes.
* `Push.Fits`: whether the item's length suits the form.
* `Push.next?`: the push at the front of a script.
* `Push.readAll?`: a script as pushes and nothing else.

## Theorems

* `Push.of_next?_eq_some`: what was read stood at the front, in a form that suits it.
* `Push.length_of_next?`: reading a push uses bytes up.
-/

namespace ChainCheckpoints

/-- A push, by its form. -/
inductive Push
  /-- The empty item, in one byte. -/
  | empty
  /-- An item preceded by its length. -/
  | direct (item : Bytes)
  /-- An item preceded by a marker and its length. -/
  | counted (item : Bytes)
deriving DecidableEq

namespace Push

/-- The longest item that its length alone can introduce. -/
def maxDirect : Nat := 75

/-- The byte that announces a length byte. -/
def marker : UInt8 := 76

/-- What is pushed. -/
def item : Push → Bytes
  | .empty => []
  | .direct item => item
  | .counted item => item

/-- The item's length suits the form. -/
def Fits : Push → Prop
  | .empty => True
  | .direct item => 1 ≤ item.length ∧ item.length ≤ maxDirect
  | .counted item => item.length ≤ 255

/-- The bytes of a push. -/
def encode : Push → Bytes
  | .empty => [0]
  | .direct item => UInt8.ofNat item.length :: item
  | .counted item => marker :: UInt8.ofNat item.length :: item

/-- The first `n` bytes and those after them, if there are that many. -/
def cut? (n : Nat) (s : Bytes) : Option (Bytes × Bytes) :=
  if n ≤ s.length then some (s.take n, s.drop n) else none

/-- The push at the front of a script and what follows it. There is none if the script is empty,
    starts with another operation or ends too early. -/
def next? : Bytes → Option (Push × Bytes)
  | [] => none
  | op :: rest =>
    if op = 0 then some (.empty, rest)
    else if op.toNat ≤ maxDirect then
      (cut? op.toNat rest).map fun (item, rest) => (.direct item, rest)
    else if op = marker then
      match rest with
      | [] => none
      | length :: rest => (cut? length.toNat rest).map fun (item, rest) => (.counted item, rest)
    else none

theorem cut?_eq_some_iff {n : Nat} {s item rest : Bytes} :
    cut? n s = some (item, rest) ↔ item.length = n ∧ s = item ++ rest := by
  simp only [cut?, Option.ite_none_right_eq_some, Option.some.injEq, Prod.mk.injEq]
  constructor
  · rintro ⟨hn, rfl, rfl⟩
    simp [hn]
  · rintro ⟨rfl, rfl⟩
    simp

/-- A push that was read stood at the front, in a form that suits it. -/
theorem of_next?_eq_some {s rest : Bytes} {p : Push} (h : next? s = some (p, rest)) :
    p.Fits ∧ s = p.encode ++ rest := by
  rcases s with _ | ⟨op, s⟩
  · simp [next?] at h
  simp only [next?] at h
  split at h
  next hop =>
    simp only [Option.some.injEq, Prod.mk.injEq] at h
    obtain ⟨rfl, rfl⟩ := h
    simp [Fits, encode, hop]
  next hop =>
    have pos : op.toNat ≠ 0 := fun h0 => hop (UInt8.toNat_inj.1 h0)
    split at h
    next hdirect =>
      simp only [Option.map_eq_some_iff, Prod.exists, Prod.mk.injEq] at h
      obtain ⟨item, rest', hcut, rfl, rfl⟩ := h
      obtain ⟨hlength, rfl⟩ := cut?_eq_some_iff.1 hcut
      simp only [Fits, encode, hlength, UInt8.ofNat_toNat, List.cons_append, and_true]
      omega
    next =>
      split at h
      next hmarker =>
        rcases s with _ | ⟨size, s⟩
        · simp at h
        simp only [Option.map_eq_some_iff, Prod.exists, Prod.mk.injEq] at h
        obtain ⟨item, rest', hcut, rfl, rfl⟩ := h
        obtain ⟨hlength, rfl⟩ := cut?_eq_some_iff.1 hcut
        have := size.toNat_lt
        simp only [Fits, encode, hlength, hmarker, UInt8.ofNat_toNat, List.cons_append, and_true]
        omega
      next => simp at h

theorem encode_ne_nil (p : Push) : p.encode ≠ [] := by
  cases p <;> simp [encode]

theorem length_of_next? {s rest : Bytes} {p : Push} (h : next? s = some (p, rest)) :
    rest.length < s.length := by
  have := List.length_pos_iff.2 p.encode_ne_nil
  simp only [(of_next?_eq_some h).2, List.length_append]
  omega

/-- A script as pushes and nothing else. -/
def readAll? (s : Bytes) : Option (List Push) :=
  if s = [] then some []
  else
    match _h : next? s with
    | none => none
    | some (push, rest) => (readAll? rest).map (push :: ·)
termination_by s.length
decreasing_by exact length_of_next? _h

end Push

end ChainCheckpoints
