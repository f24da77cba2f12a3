import ChainCheckpoints.Json.Basic

/-!
# Reading JSON

The grammar of JSON: one value with blanks around it and nothing else. There are four blanks. A
string knows eight short escapes besides the numbered one. A number has no leading zeros, and digits
on both sides of its point. A text outside the grammar has no value, and no reason is given.

In one point the reader is wider than the grammar: a string may hold bare controls. They stay apart
from escaped ones, so that they can be refused wherever no byte string is wanted.

Values nest, so reading takes a fuel. Each step into or along a container uses up a character of the
text, and twice the length of the text is enough for all of them.

## Main definitions

* `Json.value?`: the value at the front of a text.
* `Json.ofText?`: the value of a whole text.
-/

namespace ChainCheckpoints

namespace Json

def isBlank (c : Char) : Bool :=
  c = ' ' ∨ c = '\t' ∨ c = '\n' ∨ c = '\r'

def skipBlanks (s : List Char) : List Char :=
  s.dropWhile isBlank

/-- The character that a short escape stands for. -/
def shortEscape? : Char → Option Char
  | '\x22' => some '\x22'
  | '\\' => some '\\'
  | '/' => some '/'
  | 'b' => some '\x08'
  | 'f' => some '\x0c'
  | 'n' => some '\n'
  | 'r' => some '\r'
  | 't' => some '\t'
  | _ => none

/-- The number that four hexadecimal digits stand for. -/
def code? (a b c d : Char) : Option UInt16 := do
  let a ← Hex.value? a.toNat
  let b ← Hex.value? b.toNat
  let c ← Hex.value? c.toNat
  let d ← Hex.value? d.toNat
  return UInt16.ofNat (a * 4096 + b * 256 + c * 16 + d)

/-- The glyph of a character that stands in a string as it is. -/
def literal (c : Char) : Glyph :=
  if h : c.toNat < 32 then .bare ⟨c.toNat, h⟩ else .char c

/-- The rest of a string after its opening quote, and what follows the closing one. -/
def glyphs? : List Char → Option (List Glyph × List Char)
  | [] => none
  | '\x22' :: rest => some ([], rest)
  -- A numbered escape that is cut short falls through to the short ones, and `u` is none of these.
  | '\\' :: 'u' :: a :: b :: c :: d :: rest => do
    let code ← code? a b c d
    let (glyphs, rest) ← glyphs? rest
    return (Glyph.cons (.ofCode code) glyphs, rest)
  | '\\' :: e :: rest => do
    let c ← shortEscape? e
    let (glyphs, rest) ← glyphs? rest
    return (.char c :: glyphs, rest)
  | '\\' :: [] => none
  | c :: rest => do
    let (glyphs, rest) ← glyphs? rest
    return (literal c :: glyphs, rest)

/-- The digits at the front of a text, of which there must be one at least, and what follows. -/
def digits? (s : List Char) : Option (List Char × List Char) :=
  match s.takeWhile Char.isDigit with
  | [] => none
  | digits => some (digits, s.dropWhile Char.isDigit)

/-- The digits before the point: a zero alone, or digits that do not start with one. -/
def whole? : List Char → Option (List Char × List Char)
  | '0' :: rest => some (['0'], rest)
  | s => digits? s

/-- What follows the digits before the point: whether a point with digits comes next, and what
    follows. -/
def fraction? : List Char → Option (Bool × List Char)
  | '.' :: rest => (digits? rest).map fun (_, rest) => (true, rest)
  | s => some (false, s)

/-- The same for an exponent. -/
def exponent? : List Char → Option (Bool × List Char)
  | e :: rest =>
    if e = 'e' ∨ e = 'E' then
      let unsigned := match rest with
        | '+' :: rest | '-' :: rest => rest
        | rest => rest
      (digits? unsigned).map fun (_, rest) => (true, rest)
    else some (false, e :: rest)
  | [] => some (false, [])

/-- The number at the front of a text. -/
def number? (s : List Char) : Option (Json × List Char) := do
  let (negative, s) := match s with
    | '-' :: rest => (true, rest)
    | s => (false, s)
  let (digits, s) ← whole? s
  let (hasFraction, s) ← fraction? s
  let (hasExponent, s) ← exponent? s
  if negative ∨ hasFraction ∨ hasExponent then return (.otherNumber, s)
  else return (.natural (Nat.ofDigitChars 10 digits 0), s)

mutual

/-- The value at the front of a text, after blanks. -/
def value? : (fuel : Nat) → List Char → Option (Json × List Char)
  | 0, _ => none
  | fuel + 1, s =>
    match skipBlanks s with
    | 'n' :: 'u' :: 'l' :: 'l' :: rest => some (.null, rest)
    | 't' :: 'r' :: 'u' :: 'e' :: rest => some (.bool true, rest)
    | 'f' :: 'a' :: 'l' :: 's' :: 'e' :: rest => some (.bool false, rest)
    | '\x22' :: rest => (glyphs? rest).map fun (glyphs, rest) => (.string glyphs, rest)
    | '[' :: rest =>
      match skipBlanks rest with
      | ']' :: rest => some (.array [], rest)
      | rest => (items? fuel rest).map fun (items, rest) => (.array items, rest)
    | '\x7b' :: rest =>
      match skipBlanks rest with
      | '\x7d' :: rest => some (.object [], rest)
      | rest => (members? fuel rest).map fun (fields, rest) => (.object fields, rest)
    | s => number? s

/-- The items of an array up to its closing bracket, of which there is one at least. -/
def items? : (fuel : Nat) → List Char → Option (List Json × List Char)
  | 0, _ => none
  | fuel + 1, s => do
    let (item, rest) ← value? fuel s
    match skipBlanks rest with
    | ',' :: rest =>
      let (items, rest) ← items? fuel rest
      return (item :: items, rest)
    | ']' :: rest => return ([item], rest)
    | _ => none

/-- The fields of an object up to its closing brace, of which there is one at least. -/
def members? : (fuel : Nat) → List Char → Option (List (List Glyph × Json) × List Char)
  | 0, _ => none
  | fuel + 1, s =>
    match skipBlanks s with
    | '\x22' :: rest => do
      let (name, rest) ← glyphs? rest
      match skipBlanks rest with
      | ':' :: rest =>
        let (value, rest) ← value? fuel rest
        match skipBlanks rest with
        | ',' :: rest =>
          let (fields, rest) ← members? fuel rest
          return ((name, value) :: fields, rest)
        | '\x7d' :: rest => return ([(name, value)], rest)
        | _ => none
      | _ => none
    | _ => none

end

/-- The value of a whole text. -/
def ofText? (text : String) : Option Json :=
  let s := text.toList
  match value? (2 * s.length + 1) s with
  | some (j, rest) => if (skipBlanks rest).isEmpty then some j else none
  | none => none

end Json

end ChainCheckpoints
