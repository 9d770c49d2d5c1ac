import CoScript.Regex.Group

/-!
Checking the pattern of a regular expression.
-/
namespace CoScript.Regex

/-- The sorts of groups that are told apart. -/
inductive GroupSort where
  | usual
  /-- A choice that depends on whether an expression matches. -/
  | byExpression
  /-- A choice that depends on whether a group took part. -/
  | byReference
  deriving DecidableEq, Repr

/-- A group that is open. -/
structure OpenGroup where
  sort : GroupSort
  /-- The number of parts of a choice that are complete, the condition included. -/
  parts : Nat := 0
  /-- The settings outside the group. -/
  outer : Mode

/-- Where checking a pattern stands. -/
structure Progress where
  mode : Mode := {}
  /-- The groups that are open, the innermost first. -/
  opened : List OpenGroup := []

/-- The name or number that a group with a name is given, up to the closing character `close`. A minus
sign takes back another group. -/
def groupName (g : Groups) (close : Char) (unknown : Scan Unit) : Scan Unit := do
  let bogus (ends : List Char) : Scan Unit := do
    match ← Scan.rest with
    | [] => pure ()
    | c :: _ => if !ends.contains c then Scan.fail .badGroupName
  let c := (← Scan.rest).headD close
  let mut known := false
  if c.isDigit then
    let n ← decimal
    bogus [close, '-']
    if n = 0 then Scan.fail .zeroGroup
    known := g.numbers.contains n
  else if isWord c then
    known := g.names.contains (← name)
    bogus [close, '-']
  else if c ≠ '-' then Scan.fail .badGroupName
  if (known || c = '-') && (← Scan.skip '-') then
    match ← Scan.rest with
    | [] => Scan.fail .badGroupName
    | d :: _ =>
      if d.isDigit then
        let n ← decimal
        if !g.numbers.contains n then Scan.fail (.undefinedGroup n)
        bogus [close]
      else if isWord d then
        let other ← name
        if !g.names.contains other then Scan.fail (.undefinedName other)
        bogus [close]
      else Scan.fail .badGroupName
    known := true
  if !known then unknown
  else if (← Scan.next?) ≠ some close then unknown

/-- The condition of a choice: a group, or an expression in parentheses of its own, which is left to be
read. The opening parenthesis of the condition was skipped. -/
def condition (g : Groups) : Scan GroupSort := do
  let start ← Scan.rest
  let byExpression : Scan GroupSort := do
    Scan.goTo ('(' :: start)
    match start with
    | '?' :: '#' :: _ => Scan.fail .commentCondition
    | '?' :: '\'' :: _ => Scan.fail .capturingCondition
    | '?' :: '<' :: c :: _ =>
      if c ≠ '!' && c ≠ '=' then Scan.fail .capturingCondition else return .byExpression
    | _ => return .byExpression
  match start with
  | [] => byExpression
  | c :: _ =>
    if c.isDigit then
      let n ← decimal
      if !(← Scan.skip ')') then Scan.fail (.malformedReference n)
      if !g.numbers.contains n then Scan.fail (.undefinedReference n)
      return .byReference
    else if isWord c then
      let name ← name
      if g.names.contains name && (← Scan.skip ')') then return .byReference
      byExpression
    else byExpression

/-- What follows an opening parenthesis: the sort of the group, or nothing if the parenthesis only
changes settings; and the settings inside. -/
def opening (g : Groups) (s : Progress) : Scan (Option GroupSort × Mode) := do
  let start ← Scan.rest
  let unknown {α : Type} : Scan α := do
    let rest ← Scan.rest
    Scan.fail (.unknownGroup (start.take (start.length - rest.length)))
  match start with
  | '?' :: ')' :: _ => return (some .usual, s.mode)
  | '?' :: cs =>
    Scan.drop 1
    match cs with
    | [] => unknown
    | ':' :: _ | '=' :: _ | '!' :: _ | '>' :: _ =>
      Scan.drop 1
      return (some .usual, s.mode)
    | '<' :: '=' :: _ | '<' :: '!' :: _ =>
      Scan.drop 2
      return (some .usual, s.mode)
    | '<' :: _ | '\'' :: _ =>
      let close := if cs.head? = some '<' then '>' else '\''
      Scan.drop 1
      match cs.tail with
      | [] => unknown
      | '=' :: _ | '!' :: _ =>
        Scan.drop 1
        unknown
      | _ =>
        groupName g close unknown
        return (some .usual, s.mode)
    | '(' :: _ =>
      Scan.drop 1
      return (some (← condition g), s.mode)
    | _ =>
      let inCondition := (s.opened.head?.map (·.sort)) == some .byExpression
      let mode ← if inCondition then pure s.mode else settings s.mode false
      match ← Scan.next? with
      | some ')' => return (none, mode)
      | some ':' => return (some .usual, mode)
      | _ => unknown
  | _ => return (some .usual, s.mode)

/-- Closes the innermost group. The result tells whether the group is something that can be
repeated, which the condition of a choice is not. -/
def closing (s : Progress) : Except Fault (Progress × Bool) :=
  match s.opened with
  | [] => .error .unexpectedParen
  | group :: outer =>
    let parts := group.parts + 1
    if (group.sort = .byReference && 2 < parts) || (group.sort = .byExpression && 3 < parts) then
      .error .tooManyAlternatives
    else
      match outer with
      | { sort := .byExpression, parts := 0, outer := mode } :: rest =>
        .ok (⟨group.outer, { sort := .byExpression, parts := 1, outer := mode } :: rest⟩, false)
      | _ => .ok (⟨group.outer, outer⟩, true)

/-- A separator between alternatives. -/
def alternative (s : Progress) : Progress :=
  match s.opened with
  | [] => s
  | group :: rest => { s with opened := { group with parts := group.parts + 1 } :: rest }

/-- The bounds of a repetition in braces; the opening brace was skipped. The result tells whether they
are in order. -/
def bounds : Scan Bool := do
  let least ← decimal
  let most ← if ← Scan.skip ',' then
      match ← Scan.rest with
      | '\x7d' :: _ => pure numberLimit
      | _ => decimal
    else pure least
  let _ ← Scan.skip '\x7d'
  return least ≤ most

/-- A repetition operator after something that can be repeated, if there is one, with a question mark
after it that makes it lazy. The result tells whether there is one. -/
def repetition (mode : Mode) : Scan Bool := do
  blanks mode
  let rest ← Scan.rest
  if !repetitionAhead rest then return false
  Scan.drop 1
  let ordered ← if rest.head? = some '\x7b' then bounds else pure true
  blanks mode
  let _ ← Scan.skip '?'
  if !ordered then Scan.fail .repetitionBounds
  return true

/-- Ordinary characters at the start of what is left of a pattern, and the rest. -/
def ordinary (mode : Mode) : List Char → List Char × List Char
  | [] => ([], [])
  | c :: cs =>
    let stops := isSpecial c || (mode.extended && (isBlank c || c == '#'))
    if !stops || (c == '\x7b' && !repetitionAhead (c :: cs)) then
      let (before, after) := ordinary mode cs
      (c :: before, after)
    else ([], c :: cs)

/-- Checks what is left of a pattern. `repeated` tells whether a repetition operator came last. The
fuel is the number of characters left. -/
def checkFrom (g : Groups) : (fuel : Nat) → (repeated : Bool) → Progress → Scan Progress
  | 0, _, s => return s
  | fuel + 1, repeated, s => do
    if (← Scan.rest).isEmpty then return s
    blanks s.mode
    let (before, after) := ordinary s.mode (← Scan.rest)
    Scan.goTo after
    Scan.ignoring (blanks s.mode)
    /- Something was read that can be repeated. -/
    let repeatable (s : Progress) : Scan Progress := do
      let repeated ← repetition s.mode
      checkFrom g fuel repeated s
    match ← Scan.rest with
    | [] => return s
    | c :: _ =>
      if !isSpecial c then checkFrom g fuel false s
      else if c = '*' || c = '+' || c = '?' || c = '\x7b' then
        if !before.isEmpty then repeatable s
        else if repeated then Scan.fail .nestedRepetition
        else Scan.fail .missingRepetitionArgument
      else
        Scan.drop 1
        match c with
        | '[' =>
          set s.mode false
          repeatable s
        | '(' =>
          let (sort?, mode) ← opening g s
          match sort? with
          | none => checkFrom g fuel false { s with mode := mode }
          | some sort =>
            checkFrom g fuel false
              { mode := mode, opened := { sort := sort, outer := s.mode } :: s.opened }
        | '|' => checkFrom g fuel false (alternative s)
        | ')' =>
          match closing s with
          | .error e => Scan.fail e
          | .ok (s, whole) => if whole then repeatable s else checkFrom g fuel false s
        | '\\' =>
          escape s.mode g false
          repeatable s
        | _ => repeatable s

/-- What is wrong with a pattern, if anything. -/
def check (pattern : Text) : Option Fault :=
  let cs := pattern.toChars
  match groups cs with
  | .error e => some e
  | .ok g =>
    match checkFrom g (cs.length + 1) false {} cs with
    | (.error e, _) => some e
    | (.ok s, _) => if s.opened.isEmpty then none else some .missingParen

end CoScript.Regex
