import CoScript.Text.Base64
import CoScript.Text.Quoted
import CoScript.Yaml.Node

/-!
Values of known shapes from the nodes of a document.

A node that does not have the shape it should have is complained about, and reading goes on. A fault ends
it. A value that is written as null counts as not written.
-/
namespace CoScript.Yaml

/-- The shape that a value should have. -/
inductive Shape where
  | text
  | flag
  | texts
  | textMap
  | record (name : Text)
  deriving DecidableEq, Repr

/-- How messages call a shape. -/
def Shape.name : Shape → Text
  | text => txt "string"
  | flag => txt "bool"
  | texts => txt "[]string"
  | textMap => txt "map[string]string"
  | record name => name

/-- What is wrong with a document whose text is well formed. -/
inductive Complaint where
  /-- A node has another shape than it should have. -/
  | mismatch (line : Nat) (tag : Text) (value : Text) (wanted : Shape)
  /-- A mapping has a key twice. -/
  | duplicateKey (line : Nat) (key : Text) (firstLine : Nat)
  /-- Two different keys of a mapping stand for one field. -/
  | fieldTwice (line : Nat) (field : Text) (owner : Text)
  deriving DecidableEq, Repr

/-- How much of a value messages show, in bytes: a value up to the first bound is shown whole, and of a
longer one the part up to the second bound. -/
def Complaint.shownBytes : Nat × Nat := (10, 7)

/-- How a message shows a value. -/
def Complaint.shown (value : Text) : Text :=
  let (whole, part) := shownBytes
  if whole < value.byteSize then .ofBytes (value.toBytes.take part) ++ txt "..." else value

/-- What a message says about a complaint. The value of a collection is not shown. -/
def Complaint.message : Complaint → Text
  | mismatch line tag value wanted =>
    txt "line " ++ .decimal line ++ txt ": cannot unmarshal " ++ tag ++
      (if tag = Node.sequenceTag || tag = Node.mappingTag then []
      else txt " `" ++ shown value ++ txt "`") ++ txt " into " ++ wanted.name
  | duplicateKey line key firstLine =>
    txt "line " ++ .decimal line ++ txt ": mapping key " ++ key.quoted ++
      txt " already defined at line " ++ .decimal firstLine
  | fieldTwice line field owner =>
    txt "line " ++ .decimal line ++ txt ": field " ++ field ++ txt " already set in type " ++ owner

/-- Why a document cannot be read. -/
inductive Refusal where
  | fault (f : Fault)
  | complaints (cs : List Complaint)
  deriving DecidableEq, Repr

/-- What a message says about a refusal. -/
def Refusal.message : Refusal → Text
  | fault f => f.message
  | complaints cs =>
    txt "yaml: unmarshal errors:\n  " ++ Text.join (txt "\n  ") (cs.map Complaint.message)

/-- A step of reading values, with the complaints so far. -/
abbrev Decode := StateT (List Complaint) (Except Fault)

namespace Decode

/-- Adds a complaint. -/
def complain (c : Complaint) : Decode Unit :=
  modify (· ++ [c])

/-! Aliases. -/

/-- What aliases stand for, and the places of those that are being followed. -/
structure Scope where
  anchored : List (Nat × Node)
  active : List Nat := []

/-- The node that a node stands for. An alias must not be followed from within itself. -/
def Scope.follow (s : Scope) : Node → Except Fault (Node × Scope)
  | .alias line name place target =>
    if s.active.contains place then .error { problem := .selfReference name }
    else
      .ok ((s.anchored.lookup target).getD (.alias line name place target),
        { s with active := place :: s.active })
  | n => .ok (n, s)

/-- Whether a node is written as null. -/
def Scope.isNull (s : Scope) (n : Node) : Bool :=
  match s.follow n with
  | .ok (.scalar _ tag _, _) => tag = txt Meaning.null.tag
  | _ => false

/-! Scalars. -/

/-- What a scalar means and the text it stands for. -/
def scalar (tag value : Text) : Except Fault (Meaning × Text) :=
  if tag = txt "!!binary" then
    match Base64.decode? value.toChars with
    | some bytes => .ok (.text, .ofBytes bytes)
    | none => .error { problem := .badBinary }
  else (meaningAs tag value).map fun meaning => (meaning, value)

/-- Complains about keys that a mapping has twice, and tells whether there are any. -/
def duplicates (pairs : List (Node × Node)) : Decode Bool := do
  let before := (← get).length
  go (pairs.map (·.1))
  return before < (← get).length
where
  /-- The line of a key, and what makes it equal to another one. -/
  identity : Node → Nat × Nat × Text
    | .scalar line _ value => (line, 0, value)
    | .sequence line .. => (line, 1, [])
    | .mapping line .. => (line, 2, [])
    | .alias line name .. => (line, 3, name)
  /-- Complains about every pair of equal keys. -/
  go : List Node → Decode Unit
    | [] => return ()
    | key :: keys => do
      let (line, kind, value) := identity key
      for other in keys do
        let (otherLine, otherKind, otherValue) := identity other
        if kind = otherKind && value = otherValue then
          complain (.duplicateKey otherLine value line)
      go keys

/-- Complains that a node does not have a shape. -/
def mismatch (wanted : Shape) : Node → Decode Unit
  | .scalar line tag value => complain (.mismatch line tag value wanted)
  | .sequence line tag _ => complain (.mismatch line tag [] wanted)
  | .mapping line tag pairs => do
    unless ← duplicates pairs do complain (.mismatch line tag [] wanted)
  | .alias .. => return ()

/-- Reads a text. Every scalar but null is one. -/
def text? (s : Scope) (n : Node) : Decode (Option Text) := do
  match ← s.follow n with
  | (.scalar _ tag value, _) =>
    let (meaning, value) ← scalar tag value
    return if meaning = .null then none else some value
  | (n, _) =>
    mismatch .text n
    return none

/-- The words that stand for a truth value only where one is expected. -/
def flagWords : List (Bool × List String) :=
  [(true, ["y", "Y", "yes", "Yes", "YES", "on", "On", "ON"]),
   (false, ["n", "N", "no", "No", "NO", "off", "Off", "OFF"])]

/-- Reads a truth value. -/
def flag? (s : Scope) (n : Node) : Decode (Option Bool) := do
  match ← s.follow n with
  | (.scalar line tag value, _) =>
    let (meaning, word) ← scalar tag value
    let found? := flagWords.find? fun (_, ws) => ws.any fun w => txt w = word
    match meaning, found? with
    | .null, _ => return none
    | .bool b, _ => return some b
    | .text, some (b, _) => return some b
    | _, _ =>
      complain (.mismatch line tag value .flag)
      return none
  | (n, _) =>
    mismatch .flag n
    return none

/-- Reads a list of texts. -/
def texts? (s : Scope) (n : Node) : Decode (Option (List Text)) := do
  match ← s.follow n with
  | (.scalar line tag value, _) =>
    let (meaning, _) ← scalar tag value
    unless meaning = .null do complain (.mismatch line tag value .texts)
    return none
  | (.sequence _ _ items, s) => return some ((← items.mapM (text? s)).filterMap id)
  | (n, _) =>
    mismatch .texts n
    return none

/-! Mappings. -/

/-- An entry of a mapping. -/
structure Entry where
  line : Nat
  name : Text
  value : Node
  scope : Scope
  /-- Whether an entry of the same mapping with this name came before. -/
  repeated : Bool
  /-- Whether the entry comes from another mapping that was merged in. -/
  merged : Bool

/-- Whether a key asks for other mappings to be merged in. -/
def isMerge : Node → Bool
  | .scalar _ tag value => value = txt "<<" && tag = Node.mergeTag
  | _ => false

/-- The line of a node. -/
def lineOf : Node → Nat
  | .scalar line .. | .sequence line .. | .mapping line .. | .alias line .. => line

/-- The names among the keys of a mapping: those that mean texts. -/
def names (s : Scope) (pairs : List (Node × Node)) : Decode (List Text) := do
  let found ← pairs.mapM fun (key, _) => do
    match ← s.follow key with
    | (.scalar _ tag value, _) =>
      let (meaning, value) ← scalar tag value
      return if meaning = .text then some value else none
    | _ => return none
  return found.filterMap id

/-- What is known while entries are gone over: the result so far and, in a mapping that was merged in,
the names that are taken. -/
structure Progress (σ : Type) where
  result : σ
  taken? : Option (List Text) := none

/-- Goes over the entries of a mapping and then over those of the mappings it asks to merge in. A name
that is taken does not count again. A mapping with a key twice is left out. The fuel bounds the number of
mappings within mappings. -/
def entries {σ : Type} (visit : σ → Entry → Decode σ) :
    (fuel : Nat) → Scope → List (Node × Node) → Progress σ → Decode (Progress σ)
  | 0, _, _, p => return p
  | fuel + 1, s, pairs, p => do
    if ← duplicates pairs then return p
    else
      let own := pairs.filter (!isMerge ·.1)
      let (p, _) ← own.foldlM (fun (p, seen) (key, value) => step s key value p seen) (p, [])
      match (pairs.filter (isMerge ·.1)).getLast? with
      | none => return p
      | some (_, source) =>
        let taken ← match p.taken? with
          | some names => pure names
          | none => names s pairs
        let sources ← match source with
          | .sequence _ _ items => pure items
          | .scalar .. => throw { problem := .badMerge }
          | n => pure [n]
        let after ← sources.foldlM (fun (p : Progress σ) n => do
            match ← s.follow n with
            | (.mapping _ _ inner, s) => entries visit fuel s inner p
            | _ => throw { problem := .badMerge })
          { p with taken? := some taken }
        return { after with taken? := p.taken?.bind fun _ => after.taken? }
where
  /-- Goes over one entry. `seen` has the names of the entries before it. -/
  step (s : Scope) (key value : Node) (p : Progress σ) (seen : List Text) :
      Decode (Progress σ × List Text) := do
    match ← text? s key with
    | none => return (p, seen)
    | some name =>
      match p.taken? with
      | some taken =>
        if taken.contains name then return (p, seen)
        else
          let result ← visit p.result ⟨lineOf key, name, value, s, false, true⟩
          return ({ result, taken? := some (name :: taken) }, name :: seen)
      | none =>
        let result ← visit p.result ⟨lineOf key, name, value, s, seen.contains name, false⟩
        return ({ p with result }, name :: seen)

/-- Reads a mapping by its entries. Of anything else there is a complaint, and null has no entries. -/
def mapping? {σ : Type} (wanted : Shape) (fuel : Nat) (visit : σ → Entry → Decode σ) (start : σ)
    (s : Scope) (n : Node) : Decode (Option σ) := do
  match ← s.follow n with
  | (.scalar line tag value, _) =>
    let (meaning, _) ← scalar tag value
    unless meaning = .null do complain (.mismatch line tag value wanted)
    return none
  | (.mapping _ _ pairs, s) => return some (← entries visit fuel s pairs { result := start }).result
  | (n, _) =>
    mismatch wanted n
    return none

/-- A list of pairs with the value of a key replaced, or with a new pair at its end. -/
def assign (pairs : List (Text × Text)) (key value : Text) : List (Text × Text) :=
  if pairs.any (·.1 = key) then pairs.map fun (k, v) => if k = key then (k, value) else (k, v)
  else pairs ++ [(key, value)]

/-- Reads texts by their names. -/
def textMap? (fuel : Nat) (s : Scope) (n : Node) : Decode (Option (List (Text × Text))) :=
  mapping? .textMap fuel (fun pairs e => do
    match ← text? e.scope e.value with
    | some value => return assign pairs e.name value
    | none =>
      let isFree := !e.merged || !pairs.any (·.1 = e.name)
      return if e.scope.isNull e.value && isFree then assign pairs e.name [] else pairs) [] s n

/-- Reads a record by its fields. `visit` gives the record with a field set, unless there is no such
field. -/
def record {σ : Type} (name : Text) (fuel : Nat) (visit : σ → Entry → Option (Decode σ)) (start : σ)
    (s : Scope) (n : Node) : Decode σ := do
  let result? ← mapping? (.record name) fuel (fun r e => do
    match visit r e with
    | none => return r
    | some set =>
      if e.repeated then
        complain (.fieldTwice e.line e.name name)
        return r
      else set) start s n
  return result?.getD start

end Decode

/-- Reads the first document of a text. If there is none, the result is as at the start. -/
def decode {σ : Type} (text : Text) (start : σ)
    (read : (fuel : Nat) → Decode.Scope → Node → Decode σ) : Except Refusal σ :=
  match document? text with
  | .error f => .error (.fault f)
  | .ok none => .ok start
  | .ok (some d) =>
    match (read ((d.size + 1) * (d.size + 1)) { anchored := d.anchored } d.root).run [] with
    | .error f => .error (.fault f)
    | .ok (value, []) => .ok value
    | .ok (_, complaints) => .error (.complaints complaints)

end CoScript.Yaml
