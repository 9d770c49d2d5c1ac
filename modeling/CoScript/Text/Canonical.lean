import CoScript.Unicode.Equivalence

/-!
Canonical composition. Two spellings of a name that differ only in how accented characters are put
together denote the same name; `compose` gives the composed spelling of all of them.
-/
namespace CoScript.Canonical

/-- The combining class of a code point; zero for one that starts a character. -/
def combiningClass (code : Nat) : Nat :=
  if code < 0x300 then 0
  else (classes.findSome? fun
    | [first, last, cls] => if first ≤ code && code ≤ last then some cls else none
    | _ => none).getD 0

/-! Taking characters apart. -/

/-- The first code point of the precomposed Korean syllables. -/
def syllableBase : Nat := 0xAC00

/-- The number of precomposed Korean syllables. -/
def syllableCount : Nat := 11172

/-- The parts a code point has in the tables. -/
def parts? (code : Nat) : Option (List Nat) :=
  (composites ++ expansions).findSome? fun
    | c :: parts => if c = code then some parts else none
    | [] => none

/-- A code point taken apart as far as it goes, to a depth that no character exceeds. -/
def decomposeTo : (depth : Nat) → Nat → List Nat
  | 0, code => [code]
  | depth + 1, code =>
    if code < 0xC0 then [code]
    else if syllableBase ≤ code && code < syllableBase + syllableCount then
      let index := code - syllableBase
      let last := index % 28
      [0x1100 + index / 588, 0x1161 + index % 588 / 28] ++ (if last = 0 then [] else [0x11A7 + last])
    else match parts? code with
      | some parts => parts.flatMap (decomposeTo depth)
      | none => [code]

/-- A code point taken apart as far as it goes. -/
def decompose (code : Nat) : List Nat :=
  decomposeTo 4 code

/-! Ordering and putting together. -/

/-- A code point with its combining class. -/
structure Mark where
  code : Nat
  cls : Nat
  deriving DecidableEq

/-- A code point with its class looked up. -/
def Mark.of (code : Nat) : Mark :=
  ⟨code, combiningClass code⟩

/-- Puts a combining character in its place among those before it, which stand last one first. -/
def insertMark (m : Mark) : List Mark → List Mark
  | [] => [m]
  | p :: before => if m.cls ≠ 0 && m.cls < p.cls then p :: insertMark m before else m :: p :: before

/-- Orders each run of combining characters by class and leaves equal classes in place. -/
def order (marks : List Mark) : List Mark :=
  (marks.foldl (fun before m => insertMark m before) []).reverse

/-- The code point that two parts make together. -/
def pair? (first second : Nat) : Option Nat :=
  if 0x1100 ≤ first && first < 0x1113 && 0x1161 ≤ second && second < 0x1176 then
    some (syllableBase + ((first - 0x1100) * 21 + (second - 0x1161)) * 28)
  else if syllableBase ≤ first && first < syllableBase + syllableCount &&
      (first - syllableBase) % 28 = 0 && 0x11A8 ≤ second && second < 0x11C3 then
    some (first + (second - 0x11A7))
  else composites.findSome? fun
    | [c, a, b] => if a = first && b = second then some c else none
    | _ => none

/-- Goes on composing after a starter: `skipped` are the marks that did not combine with it, last
one first. -/
def composeAfter (starter : Nat) (skipped : List Mark) : List Mark → List Nat
  | [] => starter :: skipped.reverse.map (·.code)
  | m :: rest =>
    let blocked := match skipped with
      | [] => false
      | p :: _ => p.cls = 0 || m.cls ≤ p.cls
    match if blocked then none else pair? starter m.code with
    | some c => composeAfter c skipped rest
    | none =>
      if m.cls = 0 then starter :: skipped.reverse.map (·.code) ++ composeAfter m.code [] rest
      else composeAfter starter (m :: skipped) rest

/-- Composes an ordered sequence; marks before the first starter stay as they are. -/
def composeOrdered : List Mark → List Nat
  | [] => []
  | m :: rest => if m.cls = 0 then composeAfter m.code [] rest else m.code :: composeOrdered rest

/-- The longest run of combining characters that is kept together. -/
def longestRun : Nat := 30

/-- Breaks up overlong runs of combining characters with a joiner that combines with nothing. `run`
counts the combining characters before. -/
def breakRuns (run : Nat) : List Nat → List Nat
  | [] => []
  | code :: rest =>
    let classes := (decompose code).map combiningClass
    let leading := (classes.takeWhile (· ≠ 0)).length
    if leading = 0 then
      code :: breakRuns (classes.reverse.takeWhile (· ≠ 0)).length rest
    else if longestRun < run + leading then 0x34F :: code :: breakRuns leading rest
    else code :: breakRuns (run + leading) rest

/-- The composed spelling of a sequence of characters. ASCII characters stay as they are. -/
def compose (cs : List Char) : List Char :=
  if cs.all (·.toNat < 0x80) then cs
  else
    let codes := breakRuns 0 (cs.map Char.toNat)
    (composeOrdered (order ((codes.flatMap decompose).map Mark.of))).map Char.ofNat

end CoScript.Canonical
