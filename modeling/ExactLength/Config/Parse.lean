import ExactLength.Config.Basic

/-!
# Content lengths in text

A content length is written as a non-empty run of ASCII digits, with any number of leading zeros, between blanks.
The blanks are space, tab, line feed, form feed and carriage return, and nothing else. A text of this form whose
value exceeds the largest content length is too long; a text of any other form is not a content length.

The digits are read into a number of sixty-four bits. The reader of such numbers would take a plus sign too, and it
knows nothing of content lengths: the form of the text is looked at before it, and the length is checked after it.
-/

namespace ExactLength

/-- The characters that may surround a content length. -/
def isBlank (c : Char) : Bool :=
  c == ' ' || c == '\t' || c == '\n' || c == '\x0c' || c == '\r'

/-- A text without the blanks at its two ends. -/
def trimBlanks (text : List Char) : List Char :=
  ((text.dropWhile isBlank).reverse.dropWhile isBlank).reverse

/-- A number of sixty-four bits with one more decimal digit at its end, if there is room for it. -/
def pushDigit (value : UInt64) (c : Char) : Option UInt64 :=
  if c.isDigit then
    let next := 10 * value.toNat + (c.toNat - '0'.toNat)
    if next < UInt64.size then some (UInt64.ofNat next) else none
  else none

/-- The number of sixty-four bits that a text gives: a plus sign, which may be missing, and at least one digit. -/
def readWord (text : List Char) : Option UInt64 :=
  let digits := if text.head? = some '+' then text.tail else text
  if digits.isEmpty then none else digits.foldlM pushDigit 0

/-- The configuration that a text asks for: a body of the length it gives, with both flags on. -/
def Config.parse (text : String) : Except SinkError Config :=
  let digits := trimBlanks text.toList
  if digits.isEmpty || !digits.all Char.isDigit then .error (.invalidArgument .notDecimal)
  else
    match readWord digits with
    | some length => ofLength length
    | none => .error (.invalidArgument .tooLong)

end ExactLength
