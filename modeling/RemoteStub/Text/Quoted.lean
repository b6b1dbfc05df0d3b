import RemoteStub.Text.Printable
import RemoteStub.Text.GraphemeExtend
import RemoteStub.Text

/-!
# Quoted texts

How messages show a text or a character: between delimiters, with the delimiter
and every character that would not show as itself escaped.
-/

namespace RemoteStub.Text

/-- A code point as `\u` and its hexadecimal digits in braces. -/
def codePoint (c : Char) : Text :=
  ['\\', 'u', '\x7b'] ++ Nat.toDigits 16 c.toNat ++ ['\x7d']

/-- One character between the given delimiters. -/
def escape (delimiter c : Char) : Text :=
  if c = '\x00' then ['\\', '0']
  else if c = '\t' then ['\\', 't']
  else if c = '\r' then ['\\', 'r']
  else if c = '\n' then ['\\', 'n']
  else if c = '\\' ∨ c = delimiter then ['\\', c]
  else if isExtending c || !isPrintable c then codePoint c
  else [c]

def quote (t : Text) : Text := '"' :: t.flatMap (escape '"') ++ ['"']

def quoteChar (c : Char) : Text := '\x27' :: escape '\x27' c ++ ['\x27']

end RemoteStub.Text
