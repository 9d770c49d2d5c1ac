import CoScript.Syntax.Variable

/-!
Lists of variables as they are printed, for people and as JSON.
-/
namespace CoScript.Cli

/-- The variables one on a line, with the tags of their values. -/
def plainListing (vs : List Variable) : Text :=
  vs.flatMap fun v => v.name ++ txt ": " ++ Text.join (txt " | ") v.types ++ txt "\n"

/-- How a glyph is written in a JSON string. Characters that mean something in markup are escaped. -/
def jsonGlyph : Glyph → Text
  | .stray _ => txt "\\ufffd"
  | .char c =>
    if c = '"' || c = '\\' then [.char '\\', .char c]
    else if c = '\x08' then txt "\\b"
    else if c = '\x0c' then txt "\\f"
    else if c = '\n' then txt "\\n"
    else if c = '\r' then txt "\\r"
    else if c = '\t' then txt "\\t"
    else if c.toNat < 0x20 || ['<', '>', '&', '\u2028', '\u2029'].contains c then
      txt "\\u" ++ .hexadecimal 4 c.toNat
    else [.char c]

/-- A JSON string. -/
def jsonString (t : Text) : Text :=
  .char '"' :: t.rejoin.flatMap jsonGlyph ++ [.char '"']

/-- A JSON list or object with each part on a line of its own, at an indentation. -/
def jsonLines (opening closing : Char) (indent : Nat) : List Text → Text
  | [] => [.char opening, .char closing]
  | parts =>
    let newline (n : Nat) : Text := .char '\n' :: List.replicate n (.char ' ')
    .char opening :: newline (indent + 2) ++ Text.join (.char ',' :: newline (indent + 2)) parts ++
      newline indent ++ [.char closing]

/-- The variables as JSON. -/
def jsonListing (vs : List Variable) : Text :=
  let entry (v : Variable) : Text :=
    jsonLines '{' '}' 2
      [jsonString (txt "name") ++ txt ": " ++ jsonString v.name,
       jsonString (txt "types") ++ txt ": " ++ jsonLines '[' ']' 4 (v.types.map jsonString)]
  jsonLines '[' ']' 0 (vs.map entry) ++ txt "\n"

end CoScript.Cli
