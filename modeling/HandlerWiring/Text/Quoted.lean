import HandlerWiring.Text.Printable

/-!
# Quoted texts

A text between double quotes with every character made visible: the quote and the backslash are
escaped, NUL, tab, line feed and carriage return have short escapes, and each other character that
does not stand for itself is written by its code point, `\u` and lower case hexadecimal digits
between braces.
-/

namespace HandlerWiring.Text

/-- A number in lower case hexadecimal, without leading zeros. -/
def hexadecimal (n : Nat) : List Char :=
  Nat.toDigits 16 n

/-- How one character is written inside the quotes. -/
def escaped (c : Char) : List Char :=
  if c = '\x00' then ['\\', '0']
  else if c = '\t' then ['\\', 't']
  else if c = '\n' then ['\\', 'n']
  else if c = '\r' then ['\\', 'r']
  else if c = '"' then ['\\', '"']
  else if c = '\\' then ['\\', '\\']
  else if isPrintable c then [c]
  else ['\\', 'u', '\x7b'] ++ hexadecimal c.toNat ++ ['\x7d']

/-- A text in double quotes. -/
def quoted (s : String) : String :=
  String.ofList ('"' :: s.toList.flatMap escaped ++ ['"'])

end HandlerWiring.Text
