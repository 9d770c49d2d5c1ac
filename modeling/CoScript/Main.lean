import CoScript.Cli.Command

/-!
The program: the command line on the files and streams of the operating system.
-/
namespace CoScript

/-- The cause of an error of the operating system. -/
def FileFault.Cause.ofError : IO.Error → FileFault.Cause
  | .inappropriateType _ code _ => if code = 20 then .notDirectory else .isDirectory
  | .invalidArgument .. => .badName
  | _ => .missing

/-- A path as the operating system takes it. -/
def systemPath (path : Text) : String :=
  path.toString?.getD ""

/-- Reads a stream to its end. -/
partial def readAll (stream : IO.FS.Stream) (bytes : ByteArray) : IO ByteArray := do
  let chunk ← stream.read 65536
  if chunk.isEmpty then return bytes else readAll stream (bytes ++ chunk)

instance : Host IO where
  readFile path := do
    try
      let bytes ← IO.FS.readBinFile (systemPath path)
      return .ok (.ofBytes bytes.toList)
    catch e =>
      let cause := FileFault.Cause.ofError e
      return .error ⟨if cause = .isDirectory then .reading else .opening, path, cause⟩
  writeFile path content := do
    try
      IO.FS.writeBinFile (systemPath path) ⟨content.toBytes.toArray⟩
      return .ok ()
    catch e => return .error ⟨.opening, path, FileFault.Cause.ofError e⟩
  isThere path := do
    try
      let _ ← IO.FS.Handle.mk (systemPath path) .read
      return true
    catch _ => return false
  standardInput := do
    return .ofBytes (← readAll (← IO.getStdin) .empty).toList

/-- Writes a text to a stream. -/
def writeText (stream : IO.FS.Stream) (t : Text) : IO Unit := do
  stream.write ⟨t.toBytes.toArray⟩
  stream.flush

end CoScript

/-- Runs the command line. -/
def main (arguments : List String) : IO UInt32 := do
  let outcome : CoScript.Cli.Outcome ← CoScript.Cli.run (arguments.map CoScript.txt)
  CoScript.writeText (← IO.getStdout) outcome.output
  CoScript.writeText (← IO.getStderr) outcome.errors
  return outcome.exit.toUInt32
