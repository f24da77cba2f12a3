import ChainCheckpoints.Bytes

/-!
# UTF-8

The bytes of a text. A character takes one to four bytes, and lengths of texts are counted in
bytes here.

Text that arrives as escapes can hold half of a surrogate pair, which no character stands for. Where
such text is wanted as bytes, the half takes the three bytes that its number would take if it were a
character.

## Main definitions

* `Utf8.ofChars`, `Utf8.ofString`: the bytes of a text.
* `Utf8.ofHalf`: the bytes of half a surrogate pair.
-/

namespace ChainCheckpoints

namespace Utf8

/-- The bytes of a text, character by character. -/
def ofChars (text : List Char) : Bytes :=
  text.flatMap String.utf8EncodeChar

/-- The bytes of a string. -/
def ofString (text : String) : Bytes :=
  ofChars text.toList

/-- The three bytes of half a surrogate pair: four, six and six bits behind the marks of a lead byte
    and two continuation bytes. -/
def ofHalf (half : UInt16) : Bytes :=
  let n := half.toNat
  [UInt8.ofNat (0xe0 + n / 4096), UInt8.ofNat (0x80 + n / 64 % 64), UInt8.ofNat (0x80 + n % 64)]

end Utf8

end ChainCheckpoints
