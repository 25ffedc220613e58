import ExactLength.Text.SpelledOut

/-!
# Quoted text

The written form of a text inside a value's description: between double quotes, with the usual short escapes
for NUL, tab, line feed, carriage return, backslash and double quote, and `\u{…}` with lower-case hexadecimal
digits for every other character that is not shown as itself. A single quote is shown as itself.
-/

namespace ExactLength.Text

/-- The code point of a character in lower-case hexadecimal, without leading zeros. -/
def hexCode (c : Char) : String :=
  String.ofList (Nat.toDigits 16 c.toNat)

/-- One character as it stands between the quotes. -/
def quoteChar (c : Char) : String :=
  if c == '\x00' then "\\0"
  else if c == '\t' then "\\t"
  else if c == '\r' then "\\r"
  else if c == '\n' then "\\n"
  else if c == '\\' then "\\\\"
  else if c == '"' then "\\\""
  else if isSpelledOut c then "\\u\x7b" ++ hexCode c ++ "\x7d"
  else c.toString

/-- A text between double quotes, escaped. -/
def quote (text : String) : String :=
  "\"" ++ String.join (text.toList.map quoteChar) ++ "\""

end ExactLength.Text
