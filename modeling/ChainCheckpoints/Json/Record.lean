import ChainCheckpoints.Json.Basic

/-!
# Typed Values in JSON

The readers and writers that the formats of this library are built from. Numbers must be plain
naturals in the range of their type. A byte string is written as an array of its bytes, and read
from such an array or from a string, in which controls need no escape.

A record is written as an object with its fields in order. It is read from an object, where unknown
names are ignored, or from an array of its fields in order. A known name must not be repeated, and
every name must be text, even an unknown one. A value that is ignored must keep to the grammar.

## Main definitions

* `Json.word32?`, `Json.word64?`, `Json.byte?`, `Json.list?`, `Json.text?`, `Json.bytes?`,
  `Json.digest?`: the readers of simple types.
* `Json.ofWord32`, `Json.ofWord64`, `Json.ofBytes`: the writers that go with them.
* `Json.fields?`: the fields of a record, each of which may be missing.
* `Json.record?`: the fields of a record, all of which are there.
-/

namespace ChainCheckpoints

namespace Json

def ofWord32 (w : UInt32) : Json :=
  .natural w.toNat

def ofWord64 (w : UInt64) : Json :=
  .natural w.toNat

/-- A byte string as an array. -/
def ofBytes (bs : Bytes) : Json :=
  .array (bs.map fun b => .natural b.toNat)

/-- A natural below a bound. -/
def below? (bound : Nat) : Json → Option Nat
  | .natural n => if n < bound then some n else none
  | _ => none

def byte? (j : Json) : Option UInt8 :=
  (j.below? UInt8.size).map UInt8.ofNat

def word32? (j : Json) : Option UInt32 :=
  (j.below? UInt32.size).map UInt32.ofNat

def word64? (j : Json) : Option UInt64 :=
  (j.below? UInt64.size).map UInt64.ofNat

/-- An array whose items are all of one type. -/
def list? {α : Type} (item? : Json → Option α) : Json → Option (List α)
  | .array items => items.mapM item?
  | _ => none

def text? : Json → Option String
  | .string glyphs => Glyph.text? glyphs
  | _ => none

/-- A byte string, from its bytes or from a string. -/
def bytes? : Json → Option Bytes
  | .array items => items.mapM byte?
  | .string glyphs => some (Glyph.bytes glyphs)
  | _ => none

/-- A digest, from its 32 bytes. -/
def digest? (j : Json) : Option Digest := do
  let bytes ← j.list? byte?
  if h : bytes.length = 32 then return ⟨bytes, h⟩ else none

/-- The value of a name in an object, unless it is repeated. -/
def valueOf? (fields : List (String × Json)) (name : String) : Option (Option Json) :=
  match fields.filter (·.1 = name) with
  | [] => some none
  | [(_, value)] => some (some value)
  | _ => none

/-- The fields of a record, in the order of the given names. A field may be missing from an object,
    and the last ones may be missing from an array. -/
def fields? (names : List String) : Json → Option (List (Option Json))
  | .array items =>
    if items.length ≤ names.length then
      some (items.map some ++ List.replicate (names.length - items.length) none)
    else none
  | .object fields => do
    -- All names are looked at before any is known to be wanted.
    let named ← fields.mapM fun (name, value) => (Glyph.text? name).map (·, value)
    if named.all fun (name, value) => name ∈ names ∨ value.isStrict then
      names.mapM (valueOf? named)
    else none
  | _ => none

/-- The fields of a record, in the order of the given names, with none missing. -/
def record? (names : List String) (j : Json) : Option (List Json) := do
  let fields ← j.fields? names
  fields.mapM id

end Json

end ChainCheckpoints
