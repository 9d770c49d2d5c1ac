import CoScript.Regex.Set

/-!
The groups of a pattern. They are counted before the pattern is checked, because a reference may come
before its group.
-/
namespace CoScript.Regex

/-- The groups found in a pattern. -/
structure Groups where
  numbers : List Nat := [0]
  names : List (List Char) := []
  deriving DecidableEq, Repr

namespace Groups

/-- Adds a group with a number. -/
def addNumber (g : Groups) (n : Nat) : Groups :=
  if g.numbers.contains n then g else { g with numbers := g.numbers ++ [n] }

/-- Adds a group with a name. -/
def addName (g : Groups) (name : List Char) : Groups :=
  if g.names.contains name then g else { g with names := g.names ++ [name] }

/-- The first number from some number on that no group has. There are at most as many numbers to skip
as there are groups. -/
def free (g : Groups) (n : Nat) : Nat :=
  ((List.range (g.numbers.length + 1)).map (n + ·)).find? (!g.numbers.contains ·) |>.getD n

/-- Gives a number to each name in turn, from some number on. -/
def number (g : Groups) (n : Nat) : Groups :=
  (g.names.foldl (fun (g, n) _ =>
    let m := g.free n
    (g.addNumber m, m + 1)) (g, n)).1

/-- Whether groups have to be told by name: some have one, or the numbers have gaps. -/
def areNamed (g : Groups) : Bool :=
  !g.names.isEmpty || g.numbers.any (g.numbers.length ≤ ·)

end Groups

/-- What follows a backslash: a class of characters, a reference to a group or an escaped character.
When a pattern is only `skimmed`, references are not checked. -/
def escape (mode : Mode) (g : Groups) (skimmed : Bool) : Scan Unit := do
  let start ← Scan.rest
  let character : Scan Unit := do
    Scan.goTo start
    let _ ← escapedCode mode
  match start with
  | [] => Scan.fail .trailingBackslash
  | c :: cs =>
    if "bBAGZzwWsSdD".toList.contains c then Scan.drop 1
    else if c = 'p' || c = 'P' then
      Scan.drop 1
      property
    else if c = 'k' && g.areNamed then
      Scan.drop 2
      match cs with
      | '<' :: d :: _ =>
        if d.isDigit then
          let n ← decimal
          if ← Scan.skip '>' then
            if !g.numbers.contains n then Scan.fail (.undefinedGroup n)
          else character
        else
          let name ← name
          if name.isEmpty || !(← Scan.skip '>') then Scan.fail .malformedNameReference
          if !skimmed && !g.names.contains name then Scan.fail (.undefinedName name)
      | _ => Scan.fail .malformedNameReference
    else if '1' ≤ c && c ≤ '9' then
      let n ← decimal
      if !skimmed && !g.numbers.contains n then character
    else character

/-- What is known while the groups of a pattern are counted. -/
structure Census where
  groups : Groups := {}
  /-- The number of the next group without a name. -/
  next : Nat := 1
  mode : Mode := {}
  /-- The settings outside the groups that are open. -/
  outer : List Mode := []
  /-- Whether the next parenthesis opens a condition, which is no group. -/
  condition : Bool := false

/-- What follows the question mark of a parenthesis, as far as counting goes. -/
def censusOpening (s : Census) : Scan Census := do
  let rest ← Scan.rest
  if 1 < rest.length && (rest.head? = some '<' || rest.head? = some '\'') then
    Scan.drop 1
    let c := rest.tail.headD ')'
    if '1' ≤ c && c ≤ '9' then
      return { s with groups := s.groups.addNumber (← decimal) }
    else if c ≠ '0' && isWord c then
      return { s with groups := s.groups.addName (← name) }
    else return s
  else
    let mode ← settings s.mode false
    let s := { s with mode := mode }
    match ← Scan.rest with
    | ')' :: _ =>
      Scan.drop 1
      return { s with outer := s.outer.tail }
    | '(' :: _ => return { s with condition := true }
    | _ => return s

/-- Counts the groups of what is left of a pattern. Faults are left to be found later, except for
numbers that are too large. The fuel is the number of characters left. -/
def census : (fuel : Nat) → Census → Scan Census
  | 0, s => return s
  | fuel + 1, s => do
    match ← Scan.next? with
    | none => return s
    | some '\\' =>
      if !(← Scan.rest).isEmpty then Scan.ignoring (escape s.mode s.groups true)
      census fuel s
    | some '#' =>
      if s.mode.extended then
        Scan.goTo ('#' :: (← Scan.rest))
        Scan.ignoring (blanks s.mode)
      census fuel s
    | some '[' =>
      Scan.ignoring (set s.mode true)
      census fuel s
    | some ')' =>
      census fuel (match s.outer with
        | [] => s
        | mode :: outer => { s with mode := mode, outer := outer })
    | some '(' =>
      let rest ← Scan.rest
      if rest.take 2 = ['?', '#'] then
        Scan.goTo ('(' :: rest)
        Scan.ignoring (blanks s.mode)
        census fuel { s with condition := false }
      else
        let s' := { s with outer := s.mode :: s.outer, condition := false }
        if rest.head? = some '?' then
          Scan.drop 1
          census fuel (← censusOpening s')
        else if !s.mode.explicit && !s.condition then
          census fuel { s' with groups := s.groups.addNumber s.next, next := s.next + 1 }
        else census fuel s'
    | some _ => census fuel s

/-- The groups of a pattern. -/
def groups (pattern : List Char) : Except Fault Groups :=
  match census (pattern.length + 1) {} pattern with
  | (.error e, _) => .error e
  | (.ok s, _) => .ok (s.groups.number s.next)

end CoScript.Regex
