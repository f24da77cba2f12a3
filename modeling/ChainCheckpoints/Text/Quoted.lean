import ChainCheckpoints.Text.Visible

/-!
# Quoted Text

Text that is quoted inside a message, so that the reader sees where it starts and ends and which
characters it holds. The quote itself and the backslash are marked by a backslash, four controls
have short forms, and every other character without a form of its own is given by its number. The
other kind of quote needs no mark, so the kind of quote is a parameter.

## Main definitions

* `Text.Quoted.form`: how one character is written.
* `Text.quoted`: a text between quotes.
-/

namespace ChainCheckpoints

namespace Text

namespace Quoted

/-- How a character is written between two quotes of the kind `quote`. -/
def form (quote c : Char) : List Char :=
  if c = '\x00' then ['\\', '0']
  else if c = '\t' then ['\\', 't']
  else if c = '\n' then ['\\', 'n']
  else if c = '\r' then ['\\', 'r']
  else if c = '\\' ∨ c = quote then ['\\', c]
  else if isVisible c then [c]
  else ['\\', 'u', '\x7b'] ++ Nat.toDigits 16 c.toNat ++ ['\x7d']

end Quoted

/-- A text between quotes of the given kind. -/
def quoted (quote : Char) (text : String) : String :=
  String.ofList (quote :: text.toList.flatMap (Quoted.form quote) ++ [quote])

end Text

end ChainCheckpoints
