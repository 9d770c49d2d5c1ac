import CoScript.Text.Integer
import CoScript.Text.Quoted

/-!
Flags on a command line: arguments that start with one dash or two, which come before all others. A flag
may have a value, after an equals sign or as the next argument.
-/
namespace CoScript.Cli

/-- What values a flag takes. -/
inductive Flag.Kind where
  /-- True or false; true unless the value is given after an equals sign. -/
  | switch
  | text
  | number
  deriving DecidableEq, Repr

/-- A flag that a command knows. -/
structure Flag where
  name : Text
  kind : Flag.Kind
  help : Text
  /-- The value if the flag is not given; empty if it need not be mentioned. -/
  usual : Text := []

/-- Why flags cannot be read. -/
inductive Flag.Fault where
  /-- There is nothing wrong, but help is asked for. -/
  | help
  | badForm (argument : Text)
  | unknown (name : Text)
  | needsValue (name : Text)
  | badSwitch (value name : Text)
  | badNumber (value name : Text) (cause : Integer.Fault)
  deriving DecidableEq, Repr

/-- What a message says about a fault, with the end of the line. -/
def Flag.Fault.message : Flag.Fault → Text
  | help => []
  | badForm argument => txt "bad flag syntax: " ++ argument ++ txt "\n"
  | unknown name => txt "flag provided but not defined: -" ++ name ++ txt "\n"
  | needsValue name => txt "flag needs an argument: -" ++ name ++ txt "\n"
  | badSwitch value name =>
    txt "invalid boolean value " ++ value.quoted ++ txt " for -" ++ name ++ txt ": parse error\n"
  | badNumber value name cause =>
    txt "invalid value " ++ value.quoted ++ txt " for flag -" ++ name ++
      txt (match cause with
        | .malformed => ": parse error\n"
        | .tooLarge => ": value out of range\n")

/-- The value of a switch. -/
def Flag.switch? (value : Text) : Option Bool :=
  if ["1", "t", "T", "TRUE", "true", "True"].any fun w => txt w = value then some true
  else if ["0", "f", "F", "FALSE", "false", "False"].any fun w => txt w = value then some false
  else none

/-- The flags that were given with their values, the latest first, and the other arguments. -/
structure Arguments where
  given : List (Text × Text) := []
  rest : List Text := []
  deriving DecidableEq, Repr

/-- The value of a flag. -/
def Arguments.text (a : Arguments) (name : String) (usual : Text := []) : Text :=
  (a.given.lookup (txt name)).getD usual

/-- Whether a switch is on. -/
def Arguments.isOn (a : Arguments) (name : String) : Bool :=
  ((a.given.lookup (txt name)).bind Flag.switch?).getD false

/-- The value of a number. -/
def Arguments.number (a : Arguments) (name : String) : Int :=
  match (a.given.lookup (txt name)).map fun t => Integer.parse t.toChars with
  | some (.ok n) => n
  | _ => 0

/-- Checks that a value is one that a flag takes. -/
def Flag.check (f : Flag) (value : Text) : Except Flag.Fault Unit :=
  match f.kind with
  | .switch => if (Flag.switch? value).isSome then .ok () else .error (.badSwitch value f.name)
  | .text => .ok ()
  | .number =>
    match Integer.parse value.toChars with
    | .ok _ => .ok ()
    | .error cause => .error (.badNumber value f.name cause)

/-- The name of a flag without its dashes, if an argument is a flag. Two dashes alone and one dash alone
are none. -/
def flagName? (argument : Text) : Option Text :=
  match argument with
  | .char '-' :: .char '-' :: rest => if rest.isEmpty then none else some rest
  | .char '-' :: rest => if rest.isEmpty then none else some rest
  | _ => none

/-- Splits a name from the value after an equals sign, which is not the first character. -/
def splitValue : (name : Text) → Text × Option Text
  | [] => ([], none)
  | first :: rest =>
    let isEquals (g : Glyph) : Bool := g.is '='
    match rest.dropWhile (!isEquals ·) with
    | [] => (first :: rest, none)
    | _ :: value => (first :: rest.takeWhile (!isEquals ·), some value)

/-- What is known of a flag from its argument alone. -/
inductive Flag.Reading where
  | complete (name value : Text)
  /-- The value is the next argument. -/
  | wantsValue (flag : Flag)

/-- Reads an argument that is a flag, from its spelling without dashes. -/
def readFlag (flags : List Flag) (argument spelling : Text) : Except Flag.Fault Flag.Reading :=
  if spelling.head?.any fun g => g.is '-' || g.is '=' then .error (.badForm argument)
  else
    let (name, value?) := splitValue spelling
    match flags.find? (·.name = name) with
    | none => .error (if name = txt "help" || name = txt "h" then .help else .unknown name)
    | some flag =>
      match value? with
      | some value => (flag.check value).map fun () => .complete name value
      | none => .ok (if flag.kind = .switch then .complete name (txt "true") else .wantsValue flag)

/-- Reads the flags at the start of arguments. `given` has those before. Two dashes alone end them. -/
def readFlags (flags : List Flag) (given : List (Text × Text)) :
    List Text → Except Flag.Fault Arguments
  | [] => .ok { given }
  | argument :: rest =>
    if argument = txt "--" then .ok { given, rest }
    else
      match flagName? argument with
      | none => .ok { given, rest := argument :: rest }
      | some spelling =>
        match readFlag flags argument spelling with
        | .error f => .error f
        | .ok (.complete name value) => readFlags flags ((name, value) :: given) rest
        | .ok (.wantsValue flag) =>
          match rest with
          | [] => .error (.needsValue flag.name)
          | value :: rest =>
            match flag.check value with
            | .error f => .error f
            | .ok () => readFlags flags ((flag.name, value) :: given) rest

/-- What the help says about a flag. -/
def Flag.description (f : Flag) : Text :=
  let value := match f.kind with
    | .switch => []
    | .text => txt " string"
    | .number => txt " int"
  let head := txt "  -" ++ f.name ++ value
  head ++ (if head.byteSize ≤ 4 then txt "\t" else txt "\n    \t") ++ f.help ++
    (if f.usual.isEmpty then [] else txt " (default " ++ f.usual.quoted ++ txt ")") ++ txt "\n"

/-- The help on the flags of a command, which are given in the order of their names. -/
def usage (command : Text) (flags : List Flag) : Text :=
  txt "Usage of " ++ command ++ txt ":\n" ++ flags.flatMap Flag.description

end CoScript.Cli
