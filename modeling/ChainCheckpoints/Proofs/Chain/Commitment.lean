import ChainCheckpoints.Chain.Transaction

/-!
# An Id Commits to Every Field

The layout of a transaction is nested: scripts of any length stand between fixed fields, inside lists
of any length. It is the counts in front that keep the parts from sliding into one another. So each
part is shown to end where it ends, whatever follows it: two layouts that begin alike are layouts of
the same part, and what follows them is the same too. Statements of this form chain from field to
field, from item to item, and from one list to the next.

A count has eight bytes, so this holds of lists and scripts with fewer than `2 ^ 64` items. The digest
of the layout commits to the transaction as far as the hash commits to what is hashed.

## Main definitions

* `Transaction.Fits`: every list and every script of a transaction can be counted in eight bytes.
* `Transaction.Collides`: transactions with different layouts and the same digest.

## Theorems

* `Bytes.counted_append_inj`: a byte string with its length in front ends where it ends.
* `Bytes.listed_append_inj`: so does a list with its length in front, if its items do.
* `Input.encode_append_inj`, `Output.encode_append_inj`: so do inputs and outputs.
* `Transaction.encode_append_inj`: so do transactions.
* `Transaction.id_commits`: transactions are told apart by their layouts, and by their ids unless the
  hash is broken.
-/

namespace ChainCheckpoints

namespace Bytes

variable {bs cs r s : Bytes}

theorem ofLength_inj {m n : Nat} (hm : m < UInt64.size) (hn : n < UInt64.size)
    (h : ofLength m = ofLength n) : m = n :=
  @littleEndian_inj 8 _ _ hm hn h

/-- A byte string with its length in front can be followed by anything. -/
theorem counted_append_inj (hbs : bs.length < UInt64.size) (hcs : cs.length < UInt64.size)
    (h : counted bs ++ r = counted cs ++ s) : bs = cs ∧ r = s := by
  simp only [counted, List.append_assoc] at h
  rcases List.append_inj h rfl with ⟨hlength, h⟩
  exact List.append_inj h (ofLength_inj hbs hcs hlength)

section

variable {α : Type} {encode : α → Bytes} {xs ys : List α}

/-- Items that can be followed by anything can be laid side by side, if it is known how many there
    are. -/
theorem flatMap_append_inj
    (hitem : ∀ x ∈ xs, ∀ y ∈ ys, ∀ r s, encode x ++ r = encode y ++ s → x = y ∧ r = s)
    (hlength : xs.length = ys.length) (h : xs.flatMap encode ++ r = ys.flatMap encode ++ s) :
    xs = ys ∧ r = s := by
  induction xs generalizing ys with
  | nil =>
    rw [List.length_eq_zero_iff.1 hlength.symm] at h ⊢
    exact ⟨rfl, h⟩
  | cons x xs ih =>
    rcases ys with _ | ⟨y, ys⟩
    · cases hlength
    simp only [List.flatMap_cons, List.append_assoc] at h
    -- The first items start the same text, so they are the same, and so is all that follows them.
    rcases hitem x List.mem_cons_self y List.mem_cons_self _ _ h with ⟨rfl, htail⟩
    have hitems : ∀ z ∈ xs, ∀ w ∈ ys, ∀ r s, encode z ++ r = encode w ++ s → z = w ∧ r = s :=
      fun z hz w hw => hitem z (List.mem_cons_of_mem x hz) w (List.mem_cons_of_mem x hw)
    rcases ih hitems (Nat.succ.inj hlength) htail with ⟨rfl, hrest⟩
    exact ⟨rfl, hrest⟩

/-- A list with its length in front can be followed by anything, if its items can. -/
theorem listed_append_inj
    (hitem : ∀ x ∈ xs, ∀ y ∈ ys, ∀ r s, encode x ++ r = encode y ++ s → x = y ∧ r = s)
    (hxs : xs.length < UInt64.size) (hys : ys.length < UInt64.size)
    (h : ofLength xs.length ++ (xs.flatMap encode ++ r)
      = ofLength ys.length ++ (ys.flatMap encode ++ s)) :
    xs = ys ∧ r = s := by
  rcases List.append_inj h rfl with ⟨hlength, h⟩
  exact flatMap_append_inj hitem (ofLength_inj hxs hys hlength) h

end

end Bytes

variable {r s : Bytes}

theorem Outpoint.encode_append_inj {o p : Outpoint} (h : o.encode ++ r = p.encode ++ s) :
    o = p ∧ r = s := by
  rcases o with ⟨txid, index⟩
  rcases p with ⟨txid', index'⟩
  simp only [encode, List.append_assoc] at h
  rcases List.append_inj h (by rw [Digest.length_bytes, Digest.length_bytes]) with ⟨htxid, h⟩
  rcases List.append_inj h rfl with ⟨hindex, hrest⟩
  rw [mk.injEq]
  exact ⟨⟨Digest.ext htxid, Bytes.ofWord32_inj hindex⟩, hrest⟩

theorem Input.encode_append_inj {i j : Input} (hi : i.script.length < UInt64.size)
    (hj : j.script.length < UInt64.size) (h : i.encode ++ r = j.encode ++ s) :
    i = j ∧ r = s := by
  rcases i with ⟨source, script, sequence⟩
  rcases j with ⟨source', script', sequence'⟩
  simp only [encode, List.append_assoc] at h
  rcases Outpoint.encode_append_inj h with ⟨hsource, h⟩
  rcases Bytes.counted_append_inj hi hj h with ⟨hscript, h⟩
  rcases List.append_inj h rfl with ⟨hsequence, hrest⟩
  rw [mk.injEq]
  exact ⟨⟨hsource, hscript, Bytes.ofWord32_inj hsequence⟩, hrest⟩

theorem Output.encode_append_inj {o p : Output} (ho : o.script.length < UInt64.size)
    (hp : p.script.length < UInt64.size) (h : o.encode ++ r = p.encode ++ s) :
    o = p ∧ r = s := by
  rcases o with ⟨value, script⟩
  rcases p with ⟨value', script'⟩
  simp only [encode, List.append_assoc] at h
  rcases List.append_inj h rfl with ⟨hvalue, h⟩
  rcases Bytes.counted_append_inj ho hp h with ⟨hscript, hrest⟩
  rw [mk.injEq]
  exact ⟨⟨Bytes.ofWord64_inj hvalue, hscript⟩, hrest⟩

namespace Transaction

/-- Every list and every script can be counted in eight bytes. -/
structure Fits (t : Transaction) : Prop where
  inputs : t.inputs.length < UInt64.size
  outputs : t.outputs.length < UInt64.size
  inputScripts : ∀ i ∈ t.inputs, i.script.length < UInt64.size
  outputScripts : ∀ o ∈ t.outputs, o.script.length < UInt64.size

/-- The layouts of two transactions break the hash: they are different and have the same digest. -/
structure Collides (t u : Transaction) : Prop where
  ne : t.encode ≠ u.encode
  digest : Digest.ofBytes t.encode = Digest.ofBytes u.encode

variable {t u : Transaction}

theorem encode_append_inj (ht : t.Fits) (hu : u.Fits) (h : t.encode ++ r = u.encode ++ s) :
    t = u ∧ r = s := by
  rcases t with ⟨version, inputs, outputs, lockTime⟩
  rcases u with ⟨version', inputs', outputs', lockTime'⟩
  simp only [encode, List.append_assoc] at h
  -- From here on the fields come off the front one by one.
  rcases List.append_inj h rfl with ⟨hversion, h⟩
  have hinput : ∀ i ∈ inputs, ∀ j ∈ inputs', ∀ r s,
      i.encode ++ r = j.encode ++ s → i = j ∧ r = s :=
    fun i hi j hj _ _ => Input.encode_append_inj (ht.inputScripts i hi) (hu.inputScripts j hj)
  rcases Bytes.listed_append_inj hinput ht.inputs hu.inputs h with ⟨hinputs, h⟩
  have houtput : ∀ o ∈ outputs, ∀ p ∈ outputs', ∀ r s,
      o.encode ++ r = p.encode ++ s → o = p ∧ r = s :=
    fun o ho p hp _ _ => Output.encode_append_inj (ht.outputScripts o ho) (hu.outputScripts p hp)
  rcases Bytes.listed_append_inj houtput ht.outputs hu.outputs h with ⟨houtputs, h⟩
  rcases List.append_inj h rfl with ⟨hlockTime, hrest⟩
  rw [mk.injEq]
  exact ⟨⟨Bytes.ofWord32_inj hversion, hinputs, houtputs, Bytes.ofWord32_inj hlockTime⟩, hrest⟩

theorem encode_inj (ht : t.Fits) (hu : u.Fits) (h : t.encode = u.encode) : t = u := by
  have hempty : t.encode ++ [] = u.encode ++ [] := by rw [h]
  exact (encode_append_inj ht hu hempty).1

/-- Transactions are told apart by their layouts. So they are told apart by their ids, or their
    layouts break the hash. -/
theorem id_commits (ht : t.Fits) (hu : u.Fits) :
    (t.encode = u.encode → t = u) ∧ (t.id = u.id → t = u ∨ t.Collides u) := by
  refine ⟨encode_inj ht hu, fun hid => ?_⟩
  by_cases heq : t.encode = u.encode
  · exact .inl (encode_inj ht hu heq)
  · exact .inr ⟨heq, hid⟩

/-- A byte of the script of an input, and the same byte in the script of an output. Without the
    lengths in front the layouts would be the same but for the fields in between. -/
theorem id_commits_of_moved_byte :
    let t : Transaction := { inputs := [{ script := [0x51] }], outputs := [{}] }
    let u : Transaction := { inputs := [{}], outputs := [{ script := [0x51] }] }
    t.Fits ∧ u.Fits ∧ (t.encode = u.encode → t = u) ∧ (t.id = u.id → t = u ∨ t.Collides u) := by
  intro t u
  have ht : t.Fits := ⟨by decide, by decide, by decide, by decide⟩
  have hu : u.Fits := ⟨by decide, by decide, by decide, by decide⟩
  exact ⟨ht, hu, id_commits ht hu⟩

end Transaction

end ChainCheckpoints
