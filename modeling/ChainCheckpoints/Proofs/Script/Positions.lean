import ChainCheckpoints.Proofs.Script.Template

/-!
# Scripts Read by Positions

A script may be any bytes whatever, and a classifier that is to be fast does not take a script apart:
it looks at the bytes at some positions, counts positions from the end and cuts ranges out. Each of
these may reach outside of a short script. Here is such a classifier, where every read says so if
there is nothing to read. None does: each test asks for the length first, or has found the bytes
already that it goes on from.

The tests are made in the order of the templates, and a test stops where its answer is known. Only
with several keys both ends of the script are read before either of them is judged.

## Main definitions

* `Script.OutOfRange`: a read outside of a byte string.
* `Script.ByPosition.entryAt`, `Script.ByPosition.fromEnd`, `Script.ByPosition.range`: the reads.
* `Script.ByPosition.pushes`: the items that a script pushes.
* `Script.ByPosition.template`: the template that a script follows.

## Theorems

* `Script.ByPosition.next_eq`, `Script.ByPosition.pushes_eq`: pushes are read within the script.
* `Script.ByPosition.template_eq`: every script gets its template.
* `Script.template_language`: the templates and their scripts.
-/

namespace ChainCheckpoints

namespace Script

/-- A read outside of what there is. -/
inductive OutOfRange
  /-- There is nothing at the position. -/
  | position (i size : Nat)
  /-- The range ends behind the end, or before it starts. -/
  | range (start stop size : Nat)
  /-- The position lies before the start. -/
  | fromEnd (n size : Nat)
deriving DecidableEq

namespace ByPosition

variable {α β : Type} {s front body back rest : Bytes} {start stop n i : Nat} {op : UInt8}

/-! ### Reads -/

/-- The entry at a position. -/
def entryAt (xs : List α) (i : Nat) : Except OutOfRange α :=
  match xs[i]? with
  | some x => .ok x
  | none => .error (.position i xs.length)

/-- The position that is `n` entries before the end. -/
def fromEnd (xs : List α) (n : Nat) : Except OutOfRange Nat :=
  if n ≤ xs.length then .ok (xs.length - n) else .error (.fromEnd n xs.length)

/-- The bytes from one position up to another. -/
def range (s : Bytes) (start stop : Nat) : Except OutOfRange Bytes :=
  if start ≤ stop ∧ stop ≤ s.length then .ok ((s.take stop).drop start)
  else .error (.range start stop s.length)

/-- Whether the byte at a position is the given one. -/
def holds (s : Bytes) (i : Nat) (op : UInt8) : Except OutOfRange Bool :=
  (entryAt s i).map (· == op)

/-- Whether the bytes from a position on are the given ones. The first that is not decides. -/
def spells (s : Bytes) : (i : Nat) → (ops : List UInt8) → Except OutOfRange Bool
  | _, [] => .ok true
  | i, op :: ops => holds s i op <&&> spells s (i + 1) ops

/-- After a read within the script the reading goes on with what has been read. -/
theorem bind_eq (a : α) (f : α → Except OutOfRange β) : (Except.ok a >>= f) = f a :=
  rfl

theorem entryAt_eq {xs : List α} {x : α} (h : xs[i]? = some x) : entryAt xs i = .ok x := by
  simp only [entryAt, h]

theorem fromEnd_eq {xs : List α} (h : xs.length = i + n) : fromEnd xs n = .ok i := by
  rw [fromEnd, if_pos (by omega), h, Nat.add_sub_cancel]

theorem range_eq (hs : s = front ++ body ++ back) (hstart : start = front.length)
    (hstop : stop = front.length + body.length) : range s start stop = .ok body := by
  have hlength : (front ++ body).length = stop := by rw [List.length_append, hstop]
  have hle : start ≤ stop ∧ stop ≤ s.length := by
    rw [hs, List.length_append, hlength]
    omega
  rw [range, if_pos hle, hs, ← hlength, List.take_left, hstart, List.drop_left]

theorem and_eq (p q : Bool) : (Except.ok p <&&> Except.ok q : Except OutOfRange Bool) = .ok (p && q) := by
  cases p <;> rfl

theorem or_eq (p q : Bool) : (Except.ok p <||> Except.ok q : Except OutOfRange Bool) = .ok (p || q) := by
  cases p <;> rfl

theorem holds_eq {b : UInt8} (h : s[i]? = some b) : holds s i op = .ok (b == op) := by
  rw [holds, entryAt_eq h]
  rfl

theorem spells_eq {ops : List UInt8} (h : i + ops.length ≤ s.length) :
    spells s i ops = .ok ((s.drop i).take ops.length == ops) := by
  induction ops generalizing i with
  | nil => rfl
  | cons op ops ih =>
    simp only [List.length_cons] at h
    have hlt : i < s.length := by omega
    rw [spells, holds_eq (List.getElem?_eq_getElem hlt), ih (by omega), and_eq,
      List.drop_eq_getElem_cons hlt, List.length_cons, List.take_succ_cons, List.cons_beq_cons]

/-- A script of known length starts and ends with the given bytes. -/
theorem spells_ends_eq {front back : Bytes} (hlength : s.length = n + back.length)
    (hfront : front.length ≤ n) :
    (spells s 0 front <&&> spells s n back) =
      .ok (decide (s.take front.length = front ∧ s.drop n = back)) := by
  have hback : (s.drop n).take back.length = s.drop n :=
    List.take_of_length_le (by simp [hlength])
  rw [spells_eq (by omega), spells_eq (by omega), and_eq, hback, List.drop_zero, Except.ok.injEq,
    Bool.eq_iff_iff]
  simp

/-! ### Pushes -/

/-- How long the item is that an operation pushes, and what follows the length. -/
def announce? (op : UInt8) (rest : Bytes) : Option (Nat × Bytes) :=
  if op = 0 then some (0, rest)
  else if op.toNat ≤ Push.maxDirect then some (op.toNat, rest)
  else if op = Push.marker then
    match rest with
    | [] => none
    | length :: rest => some (length.toNat, rest)
  else none

/-- The first `n` bytes and those after them, if there are that many. -/
def cut (s : Bytes) (n : Nat) : Except OutOfRange (Option (Bytes × Bytes)) :=
  if s.length < n then .ok none
  else do
    let item ← range s 0 n
    let rest ← range s n s.length
    return some (item, rest)

/-- The item that is pushed at the front of a script and what follows it, if there is one. -/
def next (s : Bytes) : Except OutOfRange (Option (Bytes × Bytes)) :=
  match s with
  | [] => .ok none
  | op :: rest =>
    match announce? op rest with
    | none => .ok none
    | some (n, rest) => cut rest n

theorem cut_eq (s : Bytes) (n : Nat) : cut s n = .ok (Push.cut? n s) := by
  by_cases hlt : s.length < n
  · rw [cut, if_pos hlt, Push.cut?, if_neg (Nat.not_le.2 hlt)]
  · have hle : n ≤ s.length := Nat.not_lt.1 hlt
    have htake : (s.take n).length = n := List.length_take_of_le hle
    have hfront : s = [] ++ s.take n ++ s.drop n := (List.take_append_drop n s).symm
    have hback : s = s.take n ++ s.drop n ++ [] := by rw [List.append_nil, List.take_append_drop]
    have hitem : range s 0 n = .ok (s.take n) :=
      range_eq hfront rfl (by rw [htake]; exact n.zero_add.symm)
    have hrest : range s n s.length = .ok (s.drop n) :=
      range_eq hback htake.symm (by rw [htake, List.length_drop]; omega)
    rw [cut, if_neg hlt, hitem, hrest, Push.cut?, if_pos hle]
    rfl

theorem next_eq (s : Bytes) :
    next s = .ok ((Push.next? s).map fun (p, rest) => (p.item, rest)) := by
  rcases s with _ | ⟨op, rest⟩
  · rfl
  by_cases hzero : op = 0
  · rw [hzero]
    exact cut_eq rest 0
  by_cases hdirect : op.toNat ≤ Push.maxDirect
  · simp only [next, announce?, Push.next?, if_neg hzero, if_pos hdirect, cut_eq]
    rcases Push.cut? op.toNat rest with _ | ⟨item, rest'⟩ <;> rfl
  by_cases hmarker : op = Push.marker
  · rcases rest with _ | ⟨length, rest⟩
    · simp only [next, announce?, Push.next?, if_neg hzero, if_neg hdirect, if_pos hmarker]
      rfl
    · simp only [next, announce?, Push.next?, if_neg hzero, if_neg hdirect, if_pos hmarker, cut_eq]
      rcases Push.cut? length.toNat rest with _ | ⟨item, rest'⟩ <;> rfl
  · simp only [next, announce?, Push.next?, if_neg hzero, if_neg hdirect, if_neg hmarker]
    rfl

/-- The items that a script pushes, if it does nothing else. -/
def pushes (s : Bytes) : Except OutOfRange (Option (List Bytes)) :=
  if s = [] then .ok (some [])
  else
    match _h : next s with
    | .error e => .error e
    | .ok none => .ok none
    | .ok (some (item, rest)) => (pushes rest).map (Option.map (item :: ·))
termination_by s.length
decreasing_by
  rw [next_eq, Except.ok.injEq, Option.map_eq_some_iff] at _h
  rcases _h with ⟨⟨p, rest'⟩, hnext, heq⟩
  cases heq
  exact Push.length_of_next? hnext

theorem pushes_eq (s : Bytes) : pushes s = .ok ((Push.readAll? s).map (List.map Push.item)) := by
  induction s using Push.next_induction with
  | nil =>
    rw [Push.readAll?_nil, pushes, if_pos rfl]
    rfl
  | stuck s hne hnext =>
    -- The loop keeps the equation of its step, and two of its three cases contradict this one.
    have hstep : next s = .ok none := by rw [next_eq, hnext, Option.map_none]
    rw [Push.readAll?_of_stuck hne hnext, pushes, if_neg hne]
    split
    next h => cases hstep.symm.trans h
    next => rfl
    next h => cases hstep.symm.trans h
  | push s p rest hnext ih =>
    have hstep : next s = .ok (some (p.item, rest)) := by rw [next_eq, hnext, Option.map_some]
    have hne : s ≠ [] := by
      rintro rfl
      cases hnext
    rw [Push.readAll?_of_next? hnext, pushes, if_neg hne]
    split
    next h => cases hstep.symm.trans h
    next h => cases hstep.symm.trans h
    next item rest' h =>
      cases hstep.symm.trans h
      rw [ih]
      rcases Push.readAll? rest with _ | ps <;> rfl

/-! ### Templates -/

def isKey (key : Bytes) : Except OutOfRange Bool :=
  if key.length = 33 then holds key 0 2 <||> holds key 0 3
  else if key.length = 65 then holds key 0 4
  else .ok false

theorem isKey_eq (key : Bytes) : isKey key = .ok (Script.isKey key) := by
  rcases key with _ | ⟨mark, rest⟩
  · rfl
  by_cases hshort : rest.length = 32
  · rw [isKey, if_pos (by rw [List.length_cons, hshort]), holds_eq rfl, holds_eq rfl, or_eq,
      Except.ok.injEq, Bool.eq_iff_iff]
    simp [Script.isKey, hshort]
  by_cases hlong : rest.length = 64
  · rw [isKey, if_neg (by simp [hlong]), if_pos (by rw [List.length_cons, hlong]), holds_eq rfl,
      Except.ok.injEq, Bool.eq_iff_iff]
    simp [Script.isKey, hlong]
  · rw [isKey, if_neg (by simp [hshort]), if_neg (by simp [hlong])]
    simp [Script.isKey, hshort, hlong]

def isPubKeyHash (s : Bytes) : Except OutOfRange Bool :=
  if s.length = 25 then
    spells s 0 [opDup, opHash160, 20] <&&> spells s 23 [opEqualVerify, opCheckSig]
  else .ok false

theorem isPubKeyHash_eq (s : Bytes) : isPubKeyHash s = .ok (Script.isPubKeyHash s) := by
  by_cases hlength : s.length = 25
  · rw [isPubKeyHash, if_pos hlength, spells_ends_eq hlength (by decide)]
    simp [Script.isPubKeyHash, hlength]
  · rw [isPubKeyHash, if_neg hlength]
    simp [Script.isPubKeyHash, hlength]

def isScriptHash (s : Bytes) : Except OutOfRange Bool :=
  if s.length = 23 then spells s 0 [opHash160, 20] <&&> spells s 22 [opEqual] else .ok false

theorem isScriptHash_eq (s : Bytes) : isScriptHash s = .ok (Script.isScriptHash s) := by
  by_cases hlength : s.length = 23
  · rw [isScriptHash, if_pos hlength, spells_ends_eq hlength (by decide)]
    simp [Script.isScriptHash, hlength]
  · rw [isScriptHash, if_neg hlength]
    simp [Script.isScriptHash, hlength]

def isPubKey (s : Bytes) : Except OutOfRange Bool :=
  let body := s.dropLast
  if s.getLast? = some opCheckSig ∧ body ≠ [] then do
    let length ← entryAt body 0
    let size ← fromEnd body 1
    if length.toNat = size then isKey (← range body 1 body.length) else .ok false
  else .ok false

theorem isPubKey_eq (s : Bytes) : isPubKey s = .ok (Script.isPubKey s) := by
  by_cases hlast : s.getLast? = some opCheckSig
  · rcases hbody : s.dropLast with _ | ⟨length, key⟩
    · simp [isPubKey, Script.isPubKey, hbody]
    · have hfirst : entryAt (length :: key) 0 = .ok length := rfl
      have hsize : fromEnd (length :: key) 1 = .ok key.length := fromEnd_eq rfl
      have hparts : length :: key = [length] ++ key ++ [] := (List.append_nil _).symm
      have hkey : range (length :: key) 1 (length :: key).length = .ok key :=
        range_eq hparts rfl (Nat.add_comm key.length 1)
      simp only [isPubKey, hlast, hbody, ne_eq, reduceCtorEq, not_false_eq_true, and_self, if_true,
        hfirst, hsize, hkey, bind_eq, isKey_eq]
      by_cases hlength : length.toNat = key.length
      · simp [Script.isPubKey, hlast, hbody, hlength]
      · simp [Script.isPubKey, hlast, hbody, hlength]
  · simp [isPubKey, Script.isPubKey, hlast]

def isMultiSig (s : Bytes) : Except OutOfRange Bool :=
  if s.length < 3 then .ok false
  else do
    let last ← entryAt s (← fromEnd s 1)
    if last = opCheckMultiSig then
      let first ← entryAt s 0
      let lastButOne ← entryAt s (← fromEnd s 2)
      match number? first, number? lastButOne with
      | some required, some total =>
        if required ≤ total ∧ total ≤ 3 then
          match ← pushes (← range s 1 (← fromEnd s 2)) with
          | none => .ok false
          | some keys => if keys.length = total then keys.allM isKey else .ok false
        else .ok false
      | _, _ => .ok false
    else .ok false

theorem allM_isKey_eq (keys : List Bytes) : keys.allM isKey = .ok (keys.all Script.isKey) := by
  induction keys with
  | nil => rfl
  | cons key keys ih =>
    rw [List.allM, isKey_eq, bind_eq, List.all_cons]
    cases Script.isKey key with
    | true => exact ih
    | false => rfl

theorem isMultiSig_eq (s : Bytes) : isMultiSig s = .ok (Script.isMultiSig s) := by
  rcases hframe : frame? s with _ | ⟨first, body, lastButOne, last⟩
  · rw [isMultiSig, if_pos (frame?_eq_none_iff.1 hframe)]
    simp only [Script.isMultiSig, hframe]
  -- A script of three bytes or more has a first, a last and a last byte but one, all of them apart.
  have hs : s = [first] ++ body ++ [lastButOne, last] := frame?_eq_some_iff.1 hframe
  have hlength : s.length = body.length + 3 := by
    rw [hs]
    simp
  have hfirst : entryAt s 0 = .ok first := entryAt_eq (by rw [hs]; rfl)
  have hlast : entryAt s (body.length + 2) = .ok last := entryAt_eq (by rw [hs]; simp)
  have hlastButOne : entryAt s (body.length + 1) = .ok lastButOne :=
    entryAt_eq (by rw [hs]; simp)
  have hend : fromEnd s 1 = .ok (body.length + 2) := fromEnd_eq hlength
  have hstop : fromEnd s 2 = .ok (body.length + 1) := fromEnd_eq hlength
  have hbody : range s 1 (body.length + 1) = .ok body :=
    range_eq hs rfl (Nat.add_comm body.length 1)
  have hlong : ¬ s.length < 3 := by omega
  simp only [isMultiSig, if_neg hlong, hend, hlast, hfirst, hstop, hlastButOne, hbody, pushes_eq,
    allM_isKey_eq, bind_eq, Script.isMultiSig, hframe]
  rcases number? first with _ | required
  · simp only [ite_self]
  rcases htotal : number? lastButOne with _ | total
  · simp only [ite_self]
  rcases Push.readAll? body with _ | keys
  · simp only [Option.map_none, ite_self]
  -- A number never counts more than three keys.
  have hmax : total ≤ 3 := (number?_eq_some_iff.1 htotal).2.1
  by_cases hcheck : last = opCheckMultiSig
  · by_cases hle : required ≤ total
    · by_cases hcount : keys.length = total
      · simp only [if_pos hcheck, if_pos (And.intro hle hmax), Option.map_some, List.length_map,
          if_pos hcount, Except.ok.injEq]
        rw [Bool.eq_iff_iff]
        simp [hcheck, hle, hcount]
      · simp [hcheck, hle, hmax, hcount]
    · simp [hcheck, hle]
  · simp [hcheck]

def isNullData (s : Bytes) : Except OutOfRange Bool :=
  match s with
  | [] => .ok false
  | op :: rest =>
    if op = opReturn then
      if rest = [] then .ok true
      else do
        match ← pushes rest with
        | none => .ok false
        | some items =>
          if items.length = 1 then
            let item ← entryAt items 0
            .ok (item.length ≤ maxData)
          else .ok false
    else .ok false

theorem isNullData_eq (s : Bytes) : isNullData s = .ok (Script.isNullData s) := by
  rcases s with _ | ⟨op, rest⟩
  · rfl
  by_cases hop : op = opReturn
  · rcases rest with _ | ⟨b, rest⟩
    · simp [isNullData, Script.isNullData, hop]
    simp only [isNullData, Script.isNullData, if_pos hop, pushes_eq, bind_eq, reduceCtorEq, if_false]
    rcases Push.readAll? (b :: rest) with _ | _ | ⟨p, _ | ⟨q, ps⟩⟩
    · simp [hop]
    · simp [hop]
    · simp [hop, entryAt, bind_eq]
    · simp [hop]
  · simp [isNullData, Script.isNullData, hop]

/-- The template that a script follows. -/
def template (s : Bytes) : Except OutOfRange Template := do
  if ← isPubKeyHash s then .ok .pubKeyHash
  else if ← isScriptHash s then .ok .scriptHash
  else if ← isPubKey s then .ok .pubKey
  else if ← isMultiSig s then .ok .multiSig
  else if ← isNullData s then .ok .nullData
  else .ok .nonStandard

theorem template_eq (s : Bytes) : template s = .ok (Script.template s) := by
  simp only [template, isPubKeyHash_eq, isScriptHash_eq, isPubKey_eq, isMultiSig_eq, isNullData_eq,
    bind_eq, Script.template, apply_ite (Except.ok (ε := OutOfRange))]

end ByPosition

/-- A script has the template that it follows, and there is one such template at most. The tests may
    be made in any order, and a classifier that reads by positions never leaves the script. -/
theorem template_language (s : Bytes) :
    (∀ t, template s = t ↔ Follows t s ∨ (t = .nonStandard ∧ ∀ t', ¬ Follows t' s)) ∧
      (∀ t t', Follows t s → Follows t' s → t = t') ∧
      (∀ templates : List Template, templates.Perm order → firstPassed templates s = template s) ∧
      ByPosition.template s = .ok (template s) := by
  refine ⟨fun t => template_eq_iff, fun t t' => Follows.unique, fun templates hperm => ?_,
    ByPosition.template_eq s⟩
  exact (firstPassed_eq_iff hperm).2 (template_eq_iff.1 rfl)

/-- One signature by one key, which is pushed in the longer form. -/
theorem template_language_of_counted_key :
    let key : Bytes := 2 :: List.replicate 32 7
    let s : Bytes := [0x51, 0x4c, 33] ++ key ++ [0x51, 0xae]
    let templates : List Template := [.nullData, .multiSig, .pubKey, .scriptHash, .pubKeyHash]
    Follows .multiSig s ∧ templates.Perm order ∧
      template s = .multiSig ∧ firstPassed templates s = .multiSig ∧
      ByPosition.template s = .ok .multiSig := by
  intro key s templates
  have hkeys : ∀ p ∈ [Push.counted key], Key p.item := by
    intro p hp
    rw [List.mem_singleton.1 hp]
    exact .inl ⟨rfl, .inl rfl⟩
  have hfollows : Follows .multiSig s :=
    @Follows.multiSig 1 [.counted key] (by decide) (by decide) (by decide) hkeys
  have hperm : templates.Perm order := by decide
  rcases template_language s with ⟨hiff, _, horder, hreads⟩
  have htemplate : template s = .multiSig := (hiff .multiSig).2 (.inl hfollows)
  exact ⟨hfollows, hperm, htemplate, (horder templates hperm).trans htemplate,
    hreads.trans (by rw [htemplate])⟩

end Script

end ChainCheckpoints
