import AckDesk.Text.Glyphs

/-!
# Quoted texts

A text in double quotes, in which quotes, backslashes and whatever has no glyph of its own are escaped: five
characters by a letter, the others by their code point in hexadecimal. Single quotes stay as they are.
-/

namespace AckDesk.Text

def codePointEscape (c : Char) : List Char := ['\\', 'u', '\x7b'] ++ Nat.toDigits 16 c.toNat ++ ['\x7d']

/-- A character as it stands inside quotes. -/
def quoteChar (c : Char) : List Char :=
  if c = '\x00' then ['\\', '0']
  else if c = '\t' then ['\\', 't']
  else if c = '\r' then ['\\', 'r']
  else if c = '\n' then ['\\', 'n']
  else if c = '"' ∨ c = '\\' then ['\\', c]
  else if graphemeExtend.contains c || unprintable.contains c then codePointEscape c
  else [c]

def quoted (s : String) : String := .ofList ('"' :: s.toList.flatMap quoteChar ++ ['"'])

end AckDesk.Text
