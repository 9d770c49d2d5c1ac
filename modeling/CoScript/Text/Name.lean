import CoScript.Unicode.Category
import CoScript.Text.Glyph

/-!
Which characters names, numbers and blank space are made of.
-/
namespace CoScript

/-- Letters of ASCII, the underscore and the dollar sign. -/
def isPlainLetter (c : Char) : Bool :=
  c.isAlpha || c == '_' || c == '$'

/-- Whether a name may start with a character. -/
def isNameStart (c : Char) : Bool :=
  if c.toNat < 0x80 then isPlainLetter c else Category.nameStart.contains c.toNat

/-- Whether a name may go on with a character. -/
def isNamePart (c : Char) : Bool :=
  if c.toNat < 0x80 then isPlainLetter c || c.isDigit else Category.namePart.contains c.toNat

/-- Whether a character beyond ASCII is blank space. -/
def isWideSpace (c : Char) : Bool :=
  0x80 ≤ c.toNat && Category.space.contains c.toNat

/-- Whether a character is a hexadecimal digit. -/
def isHexDigit (c : Char) : Bool :=
  c.isDigit || ('a' ≤ c && c ≤ 'f') || ('A' ≤ c && c ≤ 'F')

/-- The value of a hexadecimal digit. -/
def hexValue (c : Char) : Nat :=
  if c.isDigit then c.toNat - '0'.toNat
  else if 'a' ≤ c then c.toNat - 'a'.toNat + 10
  else c.toNat - 'A'.toNat + 10

end CoScript
