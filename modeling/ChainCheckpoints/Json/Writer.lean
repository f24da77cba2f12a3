import ChainCheckpoints.Json.Basic

/-!
# Writing JSON

The compact text of a value: no blanks, fields in their order. A string escapes what it must and
nothing else. Five controls have short escapes, the other ones are given by number, and everything
from the space on stands as it is, but for the quote and the backslash.

A number that is no plain natural has lost its digits, and any such number reads back as the same
value, so the shortest is written.

## Main definitions

* `Json.render`: the text of a value, as characters.
* `Json.toText`: the text of a value.
-/

namespace ChainCheckpoints

namespace Json

/-- A 16-bit number as an escape. -/
def escape (code : Nat) : List Char :=
  ['\\', 'u', Hex.digit (code / 4096), Hex.digit (code / 256 % 16), Hex.digit (code / 16 % 16),
    Hex.digit (code % 16)]

/-- A glyph inside a string. -/
def renderGlyph : Glyph → List Char
  | .half code => escape code.toNat
  | .bare code => [Char.ofNat code]
  | .char c =>
    if c = '\x22' then ['\\', '\x22']
    else if c = '\\' then ['\\', '\\']
    else if c = '\x08' then ['\\', 'b']
    else if c = '\x0c' then ['\\', 'f']
    else if c = '\n' then ['\\', 'n']
    else if c = '\r' then ['\\', 'r']
    else if c = '\t' then ['\\', 't']
    else if c.toNat < 0x20 then escape c.toNat
    else [c]

def renderString (glyphs : List Glyph) : List Char :=
  '\x22' :: glyphs.flatMap renderGlyph ++ ['\x22']

mutual

/-- The text of a value. -/
def render : Json → List Char
  | .null => ['n', 'u', 'l', 'l']
  | .bool true => ['t', 'r', 'u', 'e']
  | .bool false => ['f', 'a', 'l', 's', 'e']
  | .natural n => Nat.toDigits 10 n
  | .otherNumber => ['-', '0']
  | .string glyphs => renderString glyphs
  | .array items => '[' :: renderItems items ++ [']']
  | .object fields => '\x7b' :: renderFields fields ++ ['\x7d']

/-- The items of an array, with commas between them. -/
def renderItems : List Json → List Char
  | [] => []
  | [item] => render item
  | item :: rest => render item ++ ',' :: renderItems rest

/-- The fields of an object, with commas between them. -/
def renderFields : List (List Glyph × Json) → List Char
  | [] => []
  | [(name, value)] => renderString name ++ ':' :: render value
  | (name, value) :: rest =>
    renderString name ++ ':' :: render value ++ ',' :: renderFields rest

end

/-- The text of a value. -/
def toText (j : Json) : String :=
  String.ofList j.render

end Json

end ChainCheckpoints
