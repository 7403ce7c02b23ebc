import Mqtt.Text.Glyphless

/-!
# Quoted texts

`quoted` writes a text between double quotes so that it stays on one line: the quote and the
backslash are escaped, the common controls have short names, and every other character without a
glyph of its own is spelled by its hexadecimal code point.
-/

namespace Mqtt.Text

def hexDigits (n : Nat) : String := String.ofList (Nat.toDigits 16 n)

def escape (c : Char) : String :=
  if c = '"' then "\\\""
  else if c = '\\' then "\\\\"
  else if c = '\n' then "\\n"
  else if c = '\r' then "\\r"
  else if c = '\t' then "\\t"
  else if c = '\x00' then "\\0"
  else if isGlyphless c then "\\u\x7b" ++ hexDigits c.toNat ++ "\x7d"
  else c.toString

def quoted (s : String) : String :=
  "\"" ++ String.join (s.toList.map escape) ++ "\""

end Mqtt.Text
