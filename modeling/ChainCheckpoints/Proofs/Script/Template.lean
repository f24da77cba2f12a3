import ChainCheckpoints.Proofs.Script.Push
import ChainCheckpoints.Script.Template

/-!
# The Languages of the Templates

Each template is a set of scripts that can be written down without a test for it: the operations, and
between them the items that may vary. The tests accept these sets.

The first byte of a script is enough to tell which template it can follow. For a key that is the
length of the push, 33 or 65; it is a number in front of several keys; and the other templates start
with an operation of their own. So no script follows two templates, and a script gets the same
template in whatever order the tests are made.

## Main definitions

* `Script.Key`: the layout of a public key.
* `Script.Follows`: the scripts of each template.
* `Script.announced`: the template that a script may follow by its first byte.
* `Script.passes`: whether a script passes the test for a template.
* `Script.firstPassed`: the first of some templates whose test is passed.

## Theorems

* `Script.isPubKeyHash_iff`, `Script.isScriptHash_iff`, `Script.isPubKey_iff`,
  `Script.isMultiSig_iff`, `Script.isNullData_iff`: each test accepts the scripts of its template.
* `Script.Follows.unique`: no script follows two templates.
* `Script.firstPassed_eq_iff`: what is found in any order of the tests.
* `Script.template_eq_firstPassed`: the order in which they are made.
-/

namespace ChainCheckpoints

namespace Script

variable {s key : Bytes} {t t' : Template} {first lastButOne last op : UInt8} {body : Bytes}
  {p : Push} {n : Nat}

/-- A public key has 33 bytes and starts with 2 or 3, or has 65 bytes and starts with 4. -/
def Key (key : Bytes) : Prop :=
  (key.length = 33 ∧ (key.head? = some 2 ∨ key.head? = some 3)) ∨
    (key.length = 65 ∧ key.head? = some 4)

/-- The operation that stands for a small number. -/
def opNumber (n : Nat) : UInt8 :=
  .ofNat (0x50 + n)

/-- The scripts of each template. A script that is in none of them is non-standard. -/
inductive Follows : Template → Bytes → Prop
  | pubKeyHash {hash : Bytes} (hlength : hash.length = 20) :
    Follows .pubKeyHash ([opDup, opHash160, 20] ++ hash ++ [opEqualVerify, opCheckSig])
  | scriptHash {hash : Bytes} (hlength : hash.length = 20) :
    Follows .scriptHash ([opHash160, 20] ++ hash ++ [opEqual])
  | pubKey {key : Bytes} (hkey : Key key) :
    Follows .pubKey ((Push.direct key).encode ++ [opCheckSig])
  /-- A key may be pushed in any form that holds it. -/
  | multiSig {required : Nat} {keys : List Push} (hpos : 1 ≤ required)
    (hle : required ≤ keys.length) (hmax : keys.length ≤ 3) (hkeys : ∀ p ∈ keys, Key p.item) :
    Follows .multiSig
      (opNumber required :: (keys.flatMap Push.encode ++ [opNumber keys.length, opCheckMultiSig]))
  | bareReturn : Follows .nullData [opReturn]
  | dataReturn {p : Push} (hfits : p.Fits) (hdata : p.item.length ≤ maxData) :
    Follows .nullData (opReturn :: p.encode)

theorem isKey_iff : isKey key = true ↔ Key key := by
  rcases key with _ | ⟨mark, rest⟩
  · simp [isKey, Key]
  · simp [isKey, Key]

theorem Key.length (h : Key key) : key.length = 33 ∨ key.length = 65 :=
  h.imp And.left And.left

theorem Key.fits (h : Key p.item) : p.Fits := by
  have hlength := h.length
  cases p with
  | empty => trivial
  | direct item =>
    simp only [Push.item] at hlength
    simp only [Push.Fits, Push.maxDirect]
    omega
  | counted item =>
    simp only [Push.item] at hlength
    simp only [Push.Fits]
    omega

/-- Some operations, the 20 bytes of a hash, and the operations after it. -/
theorem split_hash (s : Bytes) (n : Nat) :
    s = s.take n ++ (s.drop n).take 20 ++ s.drop (n + 20) := by
  rw [List.append_assoc, ← List.drop_drop, List.take_append_drop, List.take_append_drop]

theorem isPubKeyHash_iff : isPubKeyHash s = true ↔ Follows .pubKeyHash s := by
  simp only [isPubKeyHash, decide_eq_true_eq]
  constructor
  · rintro ⟨hlength, hstart, hend⟩
    rw [split_hash s 3, hstart, hend]
    exact .pubKeyHash (by rw [List.length_take, List.length_drop, hlength]; rfl)
  · intro h
    cases h with
    | pubKeyHash hlength => simp [hlength]

theorem isScriptHash_iff : isScriptHash s = true ↔ Follows .scriptHash s := by
  simp only [isScriptHash, decide_eq_true_eq]
  constructor
  · rintro ⟨hlength, hstart, hend⟩
    rw [split_hash s 2, hstart, hend]
    exact .scriptHash (by rw [List.length_take, List.length_drop, hlength]; rfl)
  · intro h
    cases h with
    | scriptHash hlength => simp [hlength]

theorem isPubKey_iff : isPubKey s = true ↔ Follows .pubKey s := by
  simp only [isPubKey, Bool.and_eq_true, beq_iff_eq]
  constructor
  · rintro ⟨hlast, hpush⟩
    rcases List.getLast?_eq_some_iff.1 hlast with ⟨body, rfl⟩
    rw [List.dropLast_concat] at hpush
    rcases body with _ | ⟨length, key⟩
    · cases hpush
    · rcases of_decide_eq_true hpush with ⟨hlength, hkey⟩
      have hdirect : length = UInt8.ofNat key.length := by
        rw [← hlength, UInt8.ofNat_toNat]
      rw [hdirect]
      exact .pubKey (isKey_iff.1 hkey)
  · intro h
    cases h with
    | @pubKey key hkey =>
      have hlt : key.length < 256 := by
        have hlength := hkey.length
        omega
      refine ⟨List.getLast?_concat, ?_⟩
      rw [List.dropLast_concat]
      exact decide_eq_true ⟨UInt8.toNat_ofNat_of_lt' hlt, isKey_iff.2 hkey⟩

theorem number?_eq_some_iff : number? op = some n ↔ 1 ≤ n ∧ n ≤ 3 ∧ op = opNumber n := by
  simp only [number?, Option.ite_none_right_eq_some, Option.some.injEq, UInt8.le_iff_toNat_le]
  have hone : opOne.toNat = 0x51 := rfl
  have hthree : opThree.toNat = 0x53 := rfl
  constructor
  · rintro ⟨⟨hlow, hhigh⟩, hn⟩
    have hop : op.toNat = 0x50 + n := by omega
    refine ⟨by omega, by omega, ?_⟩
    rw [opNumber, ← hop, UInt8.ofNat_toNat]
  · rintro ⟨hpos, hmax, rfl⟩
    have hlt : 0x50 + n < 256 := by omega
    have hop : (opNumber n).toNat = 0x50 + n := UInt8.toNat_ofNat_of_lt' hlt
    omega

theorem frame?_eq_some_iff : frame? s = some (first, body, lastButOne, last) ↔
    s = first :: (body ++ [lastButOne, last]) := by
  constructor
  · intro h
    rcases s with _ | ⟨op, rest⟩
    · cases h
    rcases hreverse : rest.reverse with _ | ⟨last', _ | ⟨lastButOne', front⟩⟩
    · simp only [frame?, hreverse, reduceCtorEq] at h
    · simp only [frame?, hreverse, reduceCtorEq] at h
    · simp only [frame?, hreverse, Option.some.injEq, Prod.mk.injEq] at h
      rcases h with ⟨rfl, rfl, rfl, rfl⟩
      have hrest : rest = (last' :: lastButOne' :: front).reverse := by
        rw [← hreverse, List.reverse_reverse]
      simp [hrest]
  · rintro rfl
    simp [frame?]

theorem frame?_eq_none_iff : frame? s = none ↔ s.length < 3 := by
  rcases s with _ | ⟨op, rest⟩
  · exact ⟨fun _ => by decide, fun _ => rfl⟩
  have hlength : rest.length = rest.reverse.length := rest.length_reverse.symm
  rcases hreverse : rest.reverse with _ | ⟨last', _ | ⟨lastButOne', front⟩⟩
  · simp [frame?, hreverse, hlength]
  · simp [frame?, hreverse, hlength]
  · simp [frame?, hreverse, hlength]

theorem isMultiSig_iff : isMultiSig s = true ↔ Follows .multiSig s := by
  constructor
  · intro h
    rcases hframe : frame? s with _ | ⟨first, body, lastButOne, last⟩
    · simp only [isMultiSig, hframe, Bool.false_eq_true] at h
    rcases hrequired : number? first with _ | required
    · simp only [isMultiSig, hframe, hrequired, Bool.false_eq_true] at h
    rcases htotal : number? lastButOne with _ | total
    · simp only [isMultiSig, hframe, hrequired, htotal, Bool.false_eq_true] at h
    rcases hpushes : Push.readAll? body with _ | pushes
    · simp only [isMultiSig, hframe, hrequired, htotal, hpushes, Bool.false_eq_true] at h
    simp only [isMultiSig, hframe, hrequired, htotal, hpushes, decide_eq_true_eq,
      List.all_eq_true, isKey_iff] at h
    rcases h with ⟨rfl, hle, rfl, hkeys⟩
    rcases number?_eq_some_iff.1 hrequired with ⟨hpos, _, rfl⟩
    rcases number?_eq_some_iff.1 htotal with ⟨_, hmax, rfl⟩
    rw [frame?_eq_some_iff.1 hframe, (Push.readAll?_eq_some_iff.1 hpushes).2]
    exact .multiSig hpos hle hmax hkeys
  · intro h
    cases h with
    | @multiSig required keys hpos hle hmax hkeys =>
      have hrequired : number? (opNumber required) = some required :=
        number?_eq_some_iff.2 ⟨hpos, Nat.le_trans hle hmax, rfl⟩
      have htotal : number? (opNumber keys.length) = some keys.length :=
        number?_eq_some_iff.2 ⟨Nat.le_trans hpos hle, hmax, rfl⟩
      -- Keys fit the forms that they are pushed in, so the pushes between the numbers are read back.
      have hpushes : Push.readAll? (keys.flatMap Push.encode) = some keys :=
        Push.readAll?_flatMap_encode fun p hp => (hkeys p hp).fits
      have hall : ∀ p ∈ keys, isKey p.item = true := fun p hp => isKey_iff.2 (hkeys p hp)
      simp only [isMultiSig, frame?_eq_some_iff.2 rfl, hrequired, htotal, hpushes, hle,
        decide_eq_true_eq, List.all_eq_true]
      exact ⟨trivial, trivial, trivial, hall⟩

theorem isNullData_iff : isNullData s = true ↔ Follows .nullData s := by
  rcases s with _ | ⟨op, rest⟩
  · exact ⟨fun h => (by cases h), fun h => (by cases h)⟩
  simp only [isNullData, Bool.and_eq_true, beq_iff_eq, Bool.or_eq_true, List.isEmpty_iff]
  constructor
  · rintro ⟨rfl, rfl | hpush⟩
    · exact .bareReturn
    · split at hpush
      next p hread =>
        rcases Push.readAll?_eq_singleton_iff.1 hread with ⟨hfits, rfl⟩
        exact .dataReturn hfits (of_decide_eq_true hpush)
      next => cases hpush
  · intro h
    cases h with
    | bareReturn => exact ⟨rfl, .inl rfl⟩
    | dataReturn hfits hdata =>
      refine ⟨rfl, .inr ?_⟩
      simp only [Push.readAll?_eq_singleton_iff.2 ⟨hfits, rfl⟩, hdata, decide_true]

/-- The template that a script may follow by its first byte. -/
def announced (op : UInt8) : Template :=
  if op = opDup then .pubKeyHash
  else if op = opHash160 then .scriptHash
  else if op = 33 ∨ op = 65 then .pubKey
  else if opOne ≤ op ∧ op ≤ opThree then .multiSig
  else if op = opReturn then .nullData
  else .nonStandard

theorem Follows.announced (h : Follows t s) : s.head?.map announced = some t := by
  cases h with
  | pubKeyHash => rfl
  | scriptHash => rfl
  -- A script with one key starts with the length of the key.
  | pubKey hkey =>
    simp only [Push.encode, List.cons_append, List.head?_cons, Option.map_some]
    rcases hkey.length with hlength | hlength
    · rw [hlength]
      rfl
    · rw [hlength]
      rfl
  | @multiSig required keys hpos hle hmax _ =>
    simp only [List.head?_cons, Option.map_some]
    have hrequired : required = 1 ∨ required = 2 ∨ required = 3 := by omega
    rcases hrequired with rfl | rfl | rfl <;> rfl
  | bareReturn => rfl
  | dataReturn => rfl

theorem Follows.unique (h : Follows t s) (h' : Follows t' s) : t = t' :=
  Option.some.inj (h.announced.symm.trans h'.announced)

/-- Whether a script passes the test for a template. There is none for non-standard scripts. -/
def passes (s : Bytes) : Template → Bool
  | .pubKeyHash => isPubKeyHash s
  | .scriptHash => isScriptHash s
  | .pubKey => isPubKey s
  | .multiSig => isMultiSig s
  | .nullData => isNullData s
  | .nonStandard => false

theorem passes_iff : passes s t = true ↔ Follows t s := by
  cases t with
  | pubKeyHash => exact isPubKeyHash_iff
  | scriptHash => exact isScriptHash_iff
  | pubKey => exact isPubKey_iff
  | multiSig => exact isMultiSig_iff
  | nullData => exact isNullData_iff
  | nonStandard => exact ⟨fun h => (by cases h), fun h => (by cases h)⟩

/-- The templates in the order in which they are tried. -/
def order : List Template :=
  [.pubKeyHash, .scriptHash, .pubKey, .multiSig, .nullData]

/-- The first of some templates whose test is passed. -/
def firstPassed (templates : List Template) (s : Bytes) : Template :=
  (templates.find? (passes s)).getD .nonStandard

/-- In any order of the templates, the one that a script follows is found, and it is non-standard if
    it follows none. -/
theorem firstPassed_eq_iff {templates : List Template} (hperm : templates.Perm order) :
    firstPassed templates s = t ↔ Follows t s ∨ (t = .nonStandard ∧ ∀ t, ¬ Follows t s) := by
  rcases hfind : templates.find? (passes s) with _ | found
  -- Every template that a script can follow is among the ones tried.
  · have hnone (t : Template) : ¬ Follows t s := by
      intro hfollows
      have hmem : t ∈ order := by cases hfollows <;> decide
      exact List.find?_eq_none.1 hfind t (hperm.mem_iff.2 hmem) (passes_iff.2 hfollows)
    rw [firstPassed, hfind]
    exact ⟨fun h => .inr ⟨h.symm, hnone⟩, fun h => h.elim (fun h => (hnone t h).elim) (·.1.symm)⟩
  · have hfollows : Follows found s := passes_iff.1 (List.find?_some hfind)
    rw [firstPassed, hfind]
    constructor
    · rintro rfl
      exact .inl hfollows
    · rintro (h | ⟨_, hnone⟩)
      · exact hfollows.unique h
      · exact (hnone found hfollows).elim

theorem template_eq_firstPassed (s : Bytes) : template s = firstPassed order s := by
  simp only [template, firstPassed, order, List.find?_cons, passes]
  cases isPubKeyHash s with
  | true => rfl
  | false =>
    cases isScriptHash s with
    | true => rfl
    | false =>
      cases isPubKey s with
      | true => rfl
      | false =>
        cases isMultiSig s with
        | true => rfl
        | false => cases isNullData s <;> rfl

theorem template_eq_iff : template s = t ↔ Follows t s ∨ (t = .nonStandard ∧ ∀ t, ¬ Follows t s) := by
  rw [template_eq_firstPassed]
  exact firstPassed_eq_iff (.refl order)

end Script

end ChainCheckpoints
