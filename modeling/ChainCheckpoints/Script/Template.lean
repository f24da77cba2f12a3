import ChainCheckpoints.Script.Push

/-!
# Output Templates

The scripts that lock outputs follow five templates by convention; a script of any other shape is
non-standard. Each template ends or starts in an operation that no other template has in that place,
so no script follows two of them and the order in which they are tried does not matter.

## Main definitions

* `Template`: the five templates, and none of them.
* `Script.template`: the template that a script follows.
* `Script.isStandard`: whether it follows any.
* `Script.payToPubKeyHash`: a script of the commonest template.
-/

namespace ChainCheckpoints

/-- What a locking script asks for. -/
inductive Template
  /-- None of the known templates. -/
  | nonStandard
  /-- A signature by a given key. -/
  | pubKey
  /-- A key with a given hash, and a signature by it. -/
  | pubKeyHash
  /-- A script with a given hash, and whatever that script asks for. -/
  | scriptHash
  /-- Signatures by some of the given keys. -/
  | multiSig
  /-- Nothing: the output carries data and cannot be spent. -/
  | nullData
deriving DecidableEq

namespace Template

def isStandard (t : Template) : Bool :=
  t ≠ .nonStandard

end Template

namespace Script

/-! The operations that the templates are made of, by their bytes. -/

def opOne : UInt8 := 0x51
def opThree : UInt8 := 0x53
def opReturn : UInt8 := 0x6a
def opDup : UInt8 := 0x76
def opEqual : UInt8 := 0x87
def opEqualVerify : UInt8 := 0x88
def opHash160 : UInt8 := 0xa9
def opCheckSig : UInt8 := 0xac
def opCheckMultiSig : UInt8 := 0xae

/-- The most data that an unspendable output may carry. -/
def maxData : Nat := 80

/-- A public key: 32 bytes behind a mark of the sign, or 64 bytes behind a mark of the full form. -/
def isKey : Bytes → Bool
  | [] => false
  | mark :: rest =>
    (rest.length = 32 ∧ (mark = 2 ∨ mark = 3)) ∨ (rest.length = 64 ∧ mark = 4)

/-- A script that pays to the holder of the key with the given hash. -/
def payToPubKeyHash (hash : Bytes) : Bytes :=
  [opDup, opHash160, 20] ++ hash ++ [opEqualVerify, opCheckSig]

def isPubKeyHash (s : Bytes) : Bool :=
  s.length = 25 ∧ s.take 3 = [opDup, opHash160, 20] ∧ s.drop 23 = [opEqualVerify, opCheckSig]

def isScriptHash (s : Bytes) : Bool :=
  s.length = 23 ∧ s.take 2 = [opHash160, 20] ∧ s.drop 22 = [opEqual]

/-- One key, pushed directly, and a signature check. -/
def isPubKey (s : Bytes) : Bool :=
  s.getLast? == some opCheckSig &&
    match s.dropLast with
    | [] => false
    | length :: key => length.toNat = key.length ∧ isKey key

/-- The number that an operation stands for, as far as the templates use numbers. -/
def number? (op : UInt8) : Option Nat :=
  if opOne ≤ op ∧ op ≤ opThree then some (op.toNat - 0x50) else none

/-- The operations around the keys: the first, the last but one, and the last, with the bytes
    between the first and the last but one. -/
def frame? (s : Bytes) : Option (UInt8 × Bytes × UInt8 × UInt8) :=
  match s with
  | [] => none
  | first :: rest =>
    match rest.reverse with
    | last :: lastButOne :: body => some (first, body.reverse, lastButOne, last)
    | _ => none

/-- How many signatures are needed, the keys, how many keys there are, and a check of them all. -/
def isMultiSig (s : Bytes) : Bool :=
  match frame? s with
  | none => false
  | some (first, body, lastButOne, last) =>
    match number? first, number? lastButOne, Push.readAll? body with
    | some required, some total, some pushes =>
      last = opCheckMultiSig ∧ required ≤ total ∧ pushes.length = total
        ∧ pushes.all (isKey ·.item)
    | _, _, _ => false

/-- A return, alone or with one push of limited data. -/
def isNullData : Bytes → Bool
  | [] => false
  | op :: rest =>
    op == opReturn && (rest.isEmpty ||
      match Push.readAll? rest with
      | some [push] => push.item.length ≤ maxData
      | _ => false)

/-- The template that a script follows. -/
def template (s : Bytes) : Template :=
  if isPubKeyHash s then .pubKeyHash
  else if isScriptHash s then .scriptHash
  else if isPubKey s then .pubKey
  else if isMultiSig s then .multiSig
  else if isNullData s then .nullData
  else .nonStandard

end Script

end ChainCheckpoints
