import CoScript.Regex.Fault
import CoScript.Regex.Property
import CoScript.Unicode.Category
import CoScript.Text.Name

/-!
Scanning the characters of a pattern: numbers, names, escapes and comments. A scanner that fails keeps
the place it got to, because counting the groups of a pattern goes on after a fault.
-/
namespace CoScript.Regex

/-- A scanner: gives a result or a fault, and what is left of the pattern. -/
def Scan (α : Type) : Type :=
  List Char → Except Fault α × List Char

instance : Monad Scan where
  pure a := fun cs => (.ok a, cs)
  bind p f := fun cs =>
    match p cs with
    | (.ok a, cs) => f a cs
    | (.error e, cs) => (.error e, cs)

/-- The settings of a part of a pattern that bear on what it may contain. -/
structure Mode where
  /-- Whether blanks and comments after a number sign are skipped. -/
  extended : Bool := false
  /-- Whether code points may be written in braces. -/
  unicode : Bool := false
  /-- Whether only groups with a name are numbered. -/
  explicit : Bool := false
  deriving DecidableEq, Repr

namespace Scan

/-- Fails. -/
def fail {α : Type} (fault : Fault) : Scan α := fun cs => (.error fault, cs)

/-- What is left of the pattern. -/
def rest : Scan (List Char) := fun cs => (.ok cs, cs)

/-- Goes to a place in the pattern. -/
def goTo (cs : List Char) : Scan Unit := fun _ => (.ok (), cs)

/-- The next character. -/
def next? : Scan (Option Char)
  | [] => (.ok none, [])
  | c :: cs => (.ok (some c), cs)

/-- Whether the next character is the given one, which is then skipped. -/
def skip (c : Char) : Scan Bool
  | [] => (.ok false, [])
  | d :: cs => if c = d then (.ok true, cs) else (.ok false, d :: cs)

/-- Skips a number of characters. -/
def drop (n : Nat) : Scan Unit := fun cs => (.ok (), cs.drop n)

/-- Runs a scanner and takes no notice of a fault. -/
def ignoring {α : Type} (p : Scan α) : Scan Unit := fun cs => (.ok (), (p cs).2)

end Scan

/-- Whether a character can be part of a name. -/
def isWord (c : Char) : Bool :=
  if c.toNat < 0x80 then c.isAlphanum || c == '_' else Category.word.contains c.toNat

/-- Whether a character starts an operator of patterns. -/
def isSpecial (c : Char) : Bool :=
  "$()*+.?[\\^\x7b|".toList.contains c

/-- Whether a character is skipped in an extended pattern. -/
def isBlank (c : Char) : Bool :=
  c == ' ' || (0x09 ≤ c.toNat && c.toNat ≤ 0x0D)

/-- The largest number that can be written in a pattern. -/
def numberLimit : Nat := 2147483647

/-- The value of decimal digits after a number, as long as it is within the limit. -/
def decimalFrom (n : Nat) : Scan Nat
  | [] => (.ok n, [])
  | c :: cs =>
    if !c.isDigit then (.ok n, c :: cs)
    else
      let m := n * 10 + (c.toNat - '0'.toNat)
      if numberLimit < m then (.error .numberOutOfRange, cs) else decimalFrom m cs

/-- A number; no digits give zero. -/
def decimal : Scan Nat :=
  decimalFrom 0

/-- A name, which may be empty. -/
def name : Scan (List Char) := fun cs =>
  (.ok (cs.takeWhile isWord), cs.dropWhile isWord)

/-- The value of octal digits after a number: at most `count` more, and none after the value has
reached thirty-two. -/
def octalFrom : (count n : Nat) → Scan Nat
  | 0, n, cs => (.ok n, cs)
  | _, n, [] => (.ok n, [])
  | count + 1, n, c :: cs =>
    if '0' ≤ c && c ≤ '7' && n < 0x20 then octalFrom count (n * 8 + (c.toNat - '0'.toNat)) cs
    else (.ok n, c :: cs)

/-- The value of exactly so many hexadecimal digits. -/
def hexadecimal? (count : Nat) (cs : List Char) : Option (Nat × List Char) :=
  let digits := cs.take count
  if digits.length = count && digits.all isHexDigit then
    some (digits.foldl (fun n c => n * 16 + hexValue c) 0, cs.drop count)
  else none

/-- The value of hexadecimal digits up to a closing brace. -/
def bracedHexadecimal (n : Nat) (started : Bool) : Scan Nat
  | [] => (.error .missingBrace, [])
  | c :: cs =>
    if c = '\x7d' then (if started then .ok n else .error .tooFewHexDigits, cs)
    else if !isHexDigit c then (.error .missingBrace, cs)
    else
      let m := n * 16 + hexValue c
      if 0x10FFFF < m then (.error .hexTooLarge, cs) else bracedHexadecimal m true cs

/-- The code of a control character, by the letter or sign that names it. -/
def control? : List Char → Option (Nat × List Char)
  | [] => none
  | c :: cs =>
    let code := c.toUpper.toNat
    if '@'.toNat ≤ code && code < '`'.toNat then some (code - '@'.toNat, cs) else none

/-- The code of an escaped character. An escape that is not complete stands for its first
character. -/
def escapedCode (mode : Mode) : Scan Nat
  | [] => (.error .trailingBackslash, [])
  | c :: cs =>
    let orItself (r : Option (Nat × List Char)) : Except Fault Nat × List Char :=
      match r with
      | some (n, cs) => (.ok n, cs)
      | none => (.ok c.toNat, cs)
    if '0' ≤ c && c ≤ '7' then octalFrom 3 0 (c :: cs)
    else
      match c with
      | 'x' => if cs.head? = some '\x7b' then (.ok c.toNat, cs) else orItself (hexadecimal? 2 cs)
      | 'u' =>
        if mode.unicode && cs.head? = some '\x7b' then bracedHexadecimal 0 false cs.tail
        else orItself (hexadecimal? 4 cs)
      | 'a' => (.ok 0x07, cs)
      | 'b' => (.ok 0x08, cs)
      | 'e' => (.ok 0x1B, cs)
      | 'f' => (.ok 0x0C, cs)
      | 'n' => (.ok 0x0A, cs)
      | 'r' => (.ok 0x0D, cs)
      | 't' => (.ok 0x09, cs)
      | 'v' => (.ok 0x0B, cs)
      | 'c' => orItself (control? cs)
      | _ => (.ok c.toNat, cs)

/-- The name of a class of characters, in braces unless it is a single letter. -/
def property : Scan Unit
  | [] => (.error .incompleteProperty, [])
  | c :: cs =>
    if c ≠ '\x7b' then
      if namesClass [c] then (.ok (), cs) else (.error (.unknownProperty [c]), c :: cs)
    else if cs.length < 2 then (.error .incompleteProperty, c :: cs)
    else
      let isPart (d : Char) : Bool := isWord d || d == '-'
      let name := cs.takeWhile isPart
      match cs.dropWhile isPart with
      | '\x7d' :: cs => (if namesClass name then .ok () else .error (.unknownProperty name), cs)
      | cs => (.error .incompleteProperty, cs.tail)

/-- Skips comments, and blanks as well in an extended pattern. The fuel is the number of characters
left. -/
def blanksFuel (mode : Mode) : (fuel : Nat) → Scan Unit
  | 0, cs => (.ok (), cs)
  | fuel + 1, cs =>
    match cs with
    | '(' :: '?' :: '#' :: _ =>
      match cs.dropWhile (· != ')') with
      | [] => (.error .unterminatedComment, [])
      | _ :: cs => blanksFuel mode fuel cs
    | c :: rest =>
      if mode.extended && isBlank c then blanksFuel mode fuel rest
      else if mode.extended && c == '#' then blanksFuel mode fuel (cs.dropWhile (· != '\n'))
      else (.ok (), cs)
    | [] => (.ok (), [])

/-- Skips comments, and blanks as well in an extended pattern. -/
def blanks (mode : Mode) : Scan Unit := fun cs =>
  blanksFuel mode cs.length cs

/-- Changes settings as letters say, up to the first character that is none of them. After a minus
sign settings are turned off. -/
def settings (mode : Mode) (off : Bool) : Scan Mode
  | [] => (.ok mode, [])
  | c :: cs =>
    match c.toLower with
    | '-' => settings mode true cs
    | '+' => settings mode false cs
    | 'x' => settings { mode with extended := !off } off cs
    | 'u' => settings { mode with unicode := !off } off cs
    | 'n' => settings { mode with explicit := !off } off cs
    | 'i' | 'm' | 's' | 'd' => settings mode off cs
    | _ => (.ok mode, c :: cs)

/-- Whether a pattern goes on with a repetition operator. A brace counts only if it encloses one number
or a number, a comma and possibly another number. -/
def repetitionAhead : List Char → Bool
  | '*' :: _ | '+' :: _ | '?' :: _ => true
  | '\x7b' :: cs =>
    match cs.takeWhile Char.isDigit, cs.dropWhile Char.isDigit with
    | [], _ => false
    | _, '\x7d' :: _ => true
    | _, ',' :: cs => (cs.dropWhile Char.isDigit).head? == some '\x7d'
    | _, _ => false
  | _ => false

end CoScript.Regex
