import CoScript.Unicode.Category
import CoScript.Text.Glyph

/-!
Quoted text, as outlines and messages show it: between double quotes, with an escape for a quote, a
backslash, a stray byte and every character that cannot be shown.
-/
namespace CoScript

/-- Whether a character can be shown as it is. -/
def Category.isGraphic (c : Char) : Bool :=
  if c.toNat < 0x80 then 0x20 ≤ c.toNat && c.toNat < 0x7F else Category.graphic.contains c.toNat

namespace Text

/-- How a glyph is shown between double quotes. -/
def quotedGlyph : Glyph → Text
  | .stray b => txt "\\x" ++ hexadecimal 2 b.toNat
  | .char c =>
    if c = '"' || c = '\\' then [.char '\\', .char c]
    else if Category.isGraphic c then [.char c]
    else if c = '\x07' then txt "\\a"
    else if c = '\x08' then txt "\\b"
    else if c = '\x0c' then txt "\\f"
    else if c = '\n' then txt "\\n"
    else if c = '\r' then txt "\\r"
    else if c = '\t' then txt "\\t"
    else if c = '\x0b' then txt "\\v"
    else if c.toNat < 0x20 || c.toNat = 0x7F then txt "\\x" ++ hexadecimal 2 c.toNat
    else if c.toNat < 0x10000 then txt "\\u" ++ hexadecimal 4 c.toNat
    else txt "\\U" ++ hexadecimal 8 c.toNat

/-- A text between double quotes. -/
def quoted (t : Text) : Text :=
  .char '"' :: t.flatMap quotedGlyph ++ [.char '"']

/-- Quoted texts with a blank between each two, in brackets. -/
def quotedList (ts : List Text) : Text :=
  .char '[' :: join (txt " ") (ts.map quoted) ++ [.char ']']

end Text

end CoScript
