import ChainCheckpoints.Digest.Hex

/-!
# JSON Values

What a JSON text says, as far as anything here can tell two texts apart. The order of fields is
kept, and so are repeated names, since a record may not have them. Of numbers only the plain
naturals are kept apart: no reader takes any other.

A string is a list of glyphs. A glyph is a character, or one of two things that text cannot hold:
half of a surrogate pair whose other half is missing, which only an escape can bring in, and a
control that is not escaped. The grammar admits halves and forbids bare controls. Byte strings take
both.

## Main definitions

* `Glyph`: a unit of a string.
* `Glyph.cons`: a glyph in front of others, where two halves may become a character.
* `Glyph.text?`, `Glyph.bytes`: a string as text, and as bytes.
* `Json`: a value.
* `Json.isStrict`: whether a value keeps to the grammar.
-/

namespace ChainCheckpoints

/-- A unit of a JSON string. -/
inductive Glyph
  | char (c : Char)
  /-- Half of a surrogate pair, by its number. -/
  | half (code : UInt16)
  /-- A control that is not escaped, by its number. -/
  | bare (code : Fin 32)
deriving DecidableEq

namespace Glyph

/-- The first half of a pair. -/
def isLead (code : UInt16) : Bool :=
  0xd800 ≤ code ∧ code ≤ 0xdbff

/-- The second half of a pair. -/
def isTrail (code : UInt16) : Bool :=
  0xdc00 ≤ code ∧ code ≤ 0xdfff

/-- The glyph that a 16-bit number stands for. -/
def ofCode (code : UInt16) : Glyph :=
  if isLead code ∨ isTrail code then .half code else .char (Char.ofNat code.toNat)

/-- The character that a pair stands for. -/
def pair (lead trail : UInt16) : Char :=
  Char.ofNat (0x10000 + (lead.toNat - 0xd800) * 0x400 + (trail.toNat - 0xdc00))

/-- A glyph in front of others. A first half becomes a character with a second one behind it. -/
def cons (g : Glyph) (rest : List Glyph) : List Glyph :=
  match g, rest with
  | .half lead, .half trail :: after =>
    if isLead lead ∧ isTrail trail then .char (pair lead trail) :: after else g :: rest
  | _, _ => g :: rest

/-- The glyphs of a text. -/
def ofString (text : String) : List Glyph :=
  text.toList.map .char

def char? : Glyph → Option Char
  | .char c => some c
  | .half _ | .bare _ => none

/-- Whether the grammar admits a glyph. -/
def isStrict : Glyph → Bool
  | .char _ | .half _ => true
  | .bare _ => false

/-- A string as text. A half or a bare control makes it no text. -/
def text? (glyphs : List Glyph) : Option String :=
  (glyphs.mapM char?).map String.ofList

/-- A string as bytes, where halves and bare controls count like characters. -/
def bytes (glyphs : List Glyph) : Bytes :=
  glyphs.flatMap fun
    | .char c => Utf8.ofChars [c]
    | .half code => Utf8.ofHalf code
    | .bare code => [UInt8.ofNat code]

end Glyph

/-- A JSON value. -/
inductive Json
  | null
  | bool (value : Bool)
  | natural (value : Nat)
  /-- A number that is not written as a plain natural: with a sign, a fraction or an exponent. -/
  | otherNumber
  | string (glyphs : List Glyph)
  | array (items : List Json)
  | object (fields : List (List Glyph × Json))

namespace Json

instance : Inhabited Json := ⟨.null⟩

/-- The string that holds a text. -/
def text (t : String) : Json :=
  .string (Glyph.ofString t)

/-- An object with the given names, in this order. -/
def record (fields : List (String × Json)) : Json :=
  .object (fields.map fun (name, value) => (Glyph.ofString name, value))

mutual

/-- Whether no string in a value holds a bare control. -/
def isStrict : Json → Bool
  | .string glyphs => glyphs.all Glyph.isStrict
  | .array items => areStrict items
  | .object fields => haveStrict fields
  | .null | .bool _ | .natural _ | .otherNumber => true

/-- The same for the items of an array. -/
def areStrict : List Json → Bool
  | [] => true
  | item :: rest => isStrict item && areStrict rest

/-- The same for the names and values of an object. -/
def haveStrict : List (List Glyph × Json) → Bool
  | [] => true
  | (name, value) :: rest => name.all Glyph.isStrict && isStrict value && haveStrict rest

end

end Json

end ChainCheckpoints
