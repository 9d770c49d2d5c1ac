import CoScript.Regex.Scan

/-!
Sets of characters in brackets: ranges must not run backwards or end in a class, and a set that is
subtracted comes last.
-/
namespace CoScript.Regex

/-- Skips a named class in brackets and colons, if there is one. Such a name is taken for the
characters it is made of. -/
def namedClass : Scan Unit := fun cs =>
  match cs with
  | ':' :: inner =>
    let inner := if inner.head? = some '^' && 1 < inner.length then inner.tail else inner
    match inner.dropWhile isWord with
    | ':' :: ']' :: after => (.ok (), after)
    | _ => (.ok (), cs)
  | _ => (.ok (), cs)

/-- An element of a set. -/
inductive SetItem where
  /-- The end of the set. -/
  | close
  /-- A class of characters, with the letter it is written with. -/
  | characterClass (letter : Char)
  | property (letter : Char)
  /-- An escaped minus sign. -/
  | minus
  | code (code : Nat)
  /-- A character that is written as it is. -/
  | plain (c : Char)

/-- The next element of a set; a property is left to be read. -/
def setItem (mode : Mode) : Scan SetItem
  | [] => (.error .unterminatedSet, [])
  | ']' :: cs => (.ok .close, cs)
  | '\\' :: c :: cs =>
    match c with
    | 'd' | 'D' | 's' | 'S' | 'w' | 'W' => (.ok (.characterClass c), cs)
    | 'p' | 'P' => (.ok (.property c), cs)
    | '-' => (.ok .minus, cs)
    | _ =>
      match escapedCode mode (c :: cs) with
      | (.ok n, cs) => (.ok (.code n), cs)
      | (.error e, cs) => (.error e, cs)
  | c :: cs => (.ok (.plain c), cs)

/-- The elements of a set from some place on. `first` tells whether no element came before, and `from?`
holds the start of a range whose end comes next. When a set is only `skimmed`, its ranges are not
checked. The fuel is the number of characters left. -/
def setItems (mode : Mode) (skimmed : Bool) : (fuel : Nat) → (first : Bool) → (from? : Option Nat) →
    Scan Unit
  | 0, _, _ => Scan.fail .unterminatedSet
  | fuel + 1, first, from? => do
    /- A set to subtract; its opening bracket was skipped. -/
    let subtract : Scan Unit := do
      let _ ← Scan.skip '^'
      if skimmed then
        Scan.ignoring (setItems mode skimmed fuel true none)
      else
        setItems mode skimmed fuel true none
        match ← Scan.rest with
        | [] | ']' :: _ => pure ()
        | _ => Scan.fail .subtractionNotLast
    /- A character with a code, as the end of a range, the start of one or alone. -/
    let character (code : Nat) (plain? : Option Char) : Scan Unit := do
      let rest ← Scan.rest
      match from?, rest with
      | some start, _ =>
        if skimmed then pure ()
        else if plain? = some '[' && !first then subtract
        else if code < start then Scan.fail (.reversedRange start code)
        setItems mode skimmed fuel false none
      | none, '-' :: c :: _ =>
        if c ≠ ']' then
          Scan.drop 1
          setItems mode skimmed fuel false (some code)
        else setItems mode skimmed fuel false none
      | none, '[' :: _ =>
        if plain? = some '-' && !first then
          Scan.drop 1
          subtract
        setItems mode skimmed fuel false none
      | none, _ => setItems mode skimmed fuel false none
    match ← setItem mode with
    | .close => pure ()
    | .characterClass c =>
      if !skimmed && from?.isSome then Scan.fail (.classInRange c)
      setItems mode skimmed fuel false from?
    | .property c =>
      if !skimmed && from?.isSome then Scan.fail (.classInRange c)
      if skimmed then Scan.ignoring Regex.property else Regex.property
      setItems mode skimmed fuel false from?
    | .minus => setItems mode skimmed fuel false from?
    | .code n => character n none
    | .plain c =>
      if c = '[' && from?.isNone then namedClass
      character c.toNat (some c)

/-- A set whose opening bracket was skipped. -/
def set (mode : Mode) (skimmed : Bool) : Scan Unit := do
  let rest ← Scan.rest
  let _ ← Scan.skip '^'
  setItems mode skimmed (rest.length + 1) true none

end CoScript.Regex
