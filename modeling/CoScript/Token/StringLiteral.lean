import CoScript.Text.Glyph

/-!
Writing a text as a string literal of the script language.
-/
namespace CoScript.StringLiteral

/-- How a glyph is written between double quotes. Line and paragraph separators are escaped because
they end a line, and a stray byte is written as the replacement character. -/
def escape : Glyph → Text
  | .stray _ => txt "\\ufffd"
  | .char c =>
    match c with
    | '"' => txt "\\\""
    | '\\' => txt "\\\\"
    | '\n' => txt "\\n"
    | '\r' => txt "\\r"
    | '\t' => txt "\\t"
    | '\x08' => txt "\\b"
    | '\x0c' => txt "\\f"
    | '\x0b' => txt "\\v"
    | _ =>
      if c = '\u2028' || c = '\u2029' then txt "\\u" ++ .hexadecimal 4 c.toNat
      else if c.toNat < 0x20 || c.toNat = 0x7F then txt "\\x" ++ .hexadecimal 2 c.toNat
      else [.char c]

/-- The double-quoted literal that denotes a text. -/
def quote (t : Text) : Text :=
  .char '"' :: t.flatMap escape ++ [.char '"']

end CoScript.StringLiteral
