import CoScript.Text.Glyph

/-!
Scripts with the name under which messages refer to them.
-/
namespace CoScript

/-- A script and where it came from. -/
structure Source where
  /-- The short name of the script. -/
  name : Text
  /-- The path of the file, empty for text that came from elsewhere. -/
  path : Text := []
  content : Text

namespace Source

/-- Text that was handed over directly. -/
def ofText (content : Text) : Source :=
  { name := txt "<input>", content := content }

/-- Text from the standard input. -/
def ofStdin (content : Text) : Source :=
  { name := txt "<stdin>", content := content }

/-- The last element of a path. The empty path is the current directory, and a path of slashes alone
is the root. -/
def baseName (path : Text) : Text :=
  let isSlash (g : Glyph) : Bool := g.is '/'
  if path.isEmpty then txt "."
  else
    match path.dropEndWhile isSlash with
    | [] => txt "/"
    | path => (path.reverse.takeWhile (!isSlash ·)).reverse

/-- The content of a file. -/
def ofFile (path content : Text) : Source :=
  { name := baseName path, path := path, content := content }

/-- A text with every carriage return before a line feed left out. -/
def unixLineEnds : Text → Text
  | [] => []
  | .char '\r' :: .char '\n' :: rest => .char '\n' :: unixLineEnds rest
  | g :: rest => g :: unixLineEnds rest

/-- The lines of a script, without their ends. -/
def lines (s : Source) : List Text :=
  Text.splitOn '\n' (unixLineEnds s.content)

/-- The line with a number, counted from one. -/
def line? (s : Source) (n : Int) : Option Text :=
  if n < 1 then none else s.lines[n.toNat - 1]?

/-- Whether a script came from a file. -/
def isFile (s : Source) : Bool :=
  !s.path.isEmpty

/-- How messages refer to a script: by its path if it has one, else by its name. -/
def displayPath (s : Source) : Text :=
  if s.isFile then s.path else s.name

end Source

end CoScript
