import CoScript.Text.Glyph

/-!
Files, as far as the tools need them: reading one, writing one and asking whether there is one.

The tools work in every monad that provides these operations. A `World` provides them without any
effects outside of itself.
-/
namespace CoScript

/-! Faults. -/

/-- Why a file cannot be read or written. -/
inductive FileFault.Cause where
  | missing
  | isDirectory
  | notDirectory
  | nameTooLong
  | badName
  deriving DecidableEq, Repr

/-- What a message says about a cause. -/
def FileFault.Cause.message : FileFault.Cause → Text
  | missing => txt "no such file or directory"
  | isDirectory => txt "is a directory"
  | notDirectory => txt "not a directory"
  | nameTooLong => txt "file name too long"
  | badName => txt "invalid argument"

/-- What was being done with a file. -/
inductive FileFault.Action where
  | opening
  | reading
  deriving DecidableEq, Repr

/-- A file that cannot be read or written. -/
structure FileFault where
  action : FileFault.Action
  path : Text
  cause : FileFault.Cause
  deriving DecidableEq, Repr

/-- What a message says about a fault. -/
def FileFault.message (f : FileFault) : Text :=
  (match f.action with
    | .opening => txt "open "
    | .reading => txt "read ") ++ f.path ++ txt ": " ++ f.cause.message

/-! Operations. -/

/-- What the tools need from their surroundings. -/
class Host (m : Type → Type) where
  readFile : Text → m (Except FileFault Text)
  writeFile : (path content : Text) → m (Except FileFault Unit)
  isThere : Text → m Bool
  standardInput : m Text

/-! Disks. -/

/-- The files below the working directory. A file is given by the names on its path and its content, and
every proper part of a path is a directory. -/
structure Disk where
  files : List (List Text × Text) := []
  deriving DecidableEq, Repr

namespace Disk

/-- The disk with the given files. -/
def ofFiles (files : List (Text × Text)) : Disk where
  files := files.map fun (path, content) =>
    ((Text.splitOn '/' path).filter fun name => name ≠ [] && name ≠ txt ".", content)

/-- The files of a disk with their paths. -/
def toFiles (d : Disk) : List (Text × Text) :=
  d.files.map fun (names, content) => (.join (txt "/") names, content)

/-- What a path leads to. -/
inductive Place where
  /-- A directory; nothing is known about those that are not below the working directory. -/
  | directory (names? : Option (List Text))
  | file (names : List Text) (content : Text)
  /-- A name that is still free in a directory. -/
  | free (names : List Text)
  deriving DecidableEq, Repr

/-- The greatest number of bytes of a name. -/
def nameLimit : Nat := 255

/-- What the names on a path lead to below the working directory. -/
def place (d : Disk) (names : List Text) : Place :=
  match d.files.lookup names with
  | some content => .file names content
  | none =>
    if names.isEmpty || d.files.any fun (path, _) => names.isPrefixOf path then .directory (some names)
    else .free names

/-- What a name leads to from a place. -/
def enter (d : Disk) (p : Place) (name : Text) : Except FileFault.Cause Place :=
  match p with
  | .file .. => .error .notDirectory
  | .free _ => .error .missing
  | .directory names? =>
    if name = txt "." then .ok p
    else if name = txt ".." then
      match names? with
      | some (first :: rest) => .ok (d.place (first :: rest).dropLast)
      | _ => .ok (.directory none)
    else if nameLimit < name.byteSize then .error .nameTooLong
    else
      match names? with
      | some names => .ok (d.place (names ++ [name]))
      | none => .error .missing

/-- What a path leads to. -/
def locate (d : Disk) (path : Text) : Except FileFault.Cause Place :=
  if path.isEmpty then .error .missing
  else if path.any (·.is '\x00') then .error .badName
  else
    let start : Place := if path.head?.any (·.is '/') then .directory none else .directory (some [])
    ((Text.splitOn '/' path).filter (· ≠ [])).foldlM d.enter start

/-- Whether a path can only mean a directory. -/
def isDirectoryPath (path : Text) : Bool :=
  path.getLast?.any (·.is '/')

/-- The content of a file. -/
def read (d : Disk) (path : Text) : Except FileFault Text :=
  match d.locate path with
  | .error cause => .error ⟨.opening, path, cause⟩
  | .ok (.directory _) => .error ⟨.reading, path, .isDirectory⟩
  | .ok (.free _) => .error ⟨.opening, path, .missing⟩
  | .ok (.file _ content) =>
    if isDirectoryPath path then .error ⟨.opening, path, .notDirectory⟩ else .ok content

/-- The disk with the content of a file replaced or with a new file. -/
def put (d : Disk) (names : List Text) (content : Text) : Disk where
  files :=
    if (d.files.lookup names).isSome then
      d.files.map fun (path, old) => if path = names then (path, content) else (path, old)
    else d.files ++ [(names, content)]

/-- The disk after a file was written. -/
def write (d : Disk) (path content : Text) : Except FileFault Disk :=
  match d.locate path with
  | .error cause => .error ⟨.opening, path, cause⟩
  | .ok (.directory _) => .error ⟨.opening, path, .isDirectory⟩
  | .ok (.free names) | .ok (.file names _) =>
    if isDirectoryPath path then .error ⟨.opening, path, .isDirectory⟩
    else .ok (d.put names content)

/-- Whether a path leads to a file or a directory. -/
def contains (d : Disk) (path : Text) : Bool :=
  match d.locate path with
  | .ok (.directory _) => true
  | .ok (.file ..) => !isDirectoryPath path
  | _ => false

end Disk

/-- All that the tools can see and change. -/
structure World where
  disk : Disk := {}
  input : Text := []
  deriving DecidableEq, Repr

instance : Host (StateM World) where
  readFile path := do return (← get).disk.read path
  writeFile path content := do
    match (← get).disk.write path content with
    | .error f => return .error f
    | .ok disk =>
      modify fun w => { w with disk := disk }
      return .ok ()
  isThere path := do return (← get).disk.contains path
  standardInput := do return (← get).input

end CoScript
