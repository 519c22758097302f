import ResourceBrowser.Text.Property

/-!
# Quoted text

Text in double quotes as messages show it: a quote and a backslash are escaped, line breaks, tabs
and the zero character have short names, and every other character that does not show on its own
is written by its code point.
-/

namespace ResourceBrowser.Text

/-- A character that has a glyph of its own: neither a control, format, surrogate, private-use
or unassigned code point nor a separator other than the space. -/
def isPrintable (c : Char) : Bool :=
  if c.toNat < 128 then 32 ≤ c.toNat && c.toNat < 127
  else !(["Cc", "Cf", "Cs", "Co", "Cn", "Zl", "Zp", "Zs"].contains (category c))

/-- The hexadecimal digits of a number, without leading zeros. -/
def hexText (n : Nat) : List Char := Nat.toDigits 16 n

/-- The quoted form of one character. -/
def quoteChar (c : Char) : List Char :=
  if c == '"' then ['\\', '"']
  else if c == '\\' then ['\\', '\\']
  else if c == '\n' then ['\\', 'n']
  else if c == '\r' then ['\\', 'r']
  else if c == '\t' then ['\\', 't']
  else if c.toNat == 0 then ['\\', '0']
  else if isPrintable c && (c.toNat < 128 || !graphemeExtend.contains c) then [c]
  else ['\\', 'u', '\x7b'] ++ hexText c.toNat ++ ['\x7d']

/-- The text in double quotes. -/
def quote (s : String) : String :=
  .ofList ('"' :: s.toList.flatMap quoteChar ++ ['"'])

end ResourceBrowser.Text
