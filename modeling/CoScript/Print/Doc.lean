import CoScript.Print.Fault

/-!
Pieces of printed text. In the head of a loop the operator `in` has to be in parentheses, so whether
that is the case is known to every piece, and some pieces change it for what follows them.
-/
namespace CoScript.Print

/-- A piece of text to print. It is told whether `in` has to be in parentheses, and tells whether that
is so after it. -/
def Doc : Type :=
  (noIn : Bool) → Except Failure (Text × Bool)

namespace Doc

/-- A fixed text. -/
def text (t : Text) : Doc := fun noIn => .ok (t, noIn)

/-- A piece that cannot be printed. -/
def fail (fault : Fault) (token : Token := {}) : Doc := fun _ => .error ⟨fault, token⟩

/-- One piece after another. -/
def append (a b : Doc) : Doc := fun noIn =>
  match a noIn with
  | .error f => .error f
  | .ok (t, noIn) =>
    match b noIn with
    | .error f => .error f
    | .ok (u, noIn) => .ok (t ++ u, noIn)

instance : Append Doc := ⟨append⟩

instance : Coe String Doc := ⟨fun s => text (txt s)⟩

instance : Coe Text Doc := ⟨text⟩

/-- Nothing. -/
def empty : Doc := text []

/-- Pieces one after another. -/
def concat (ds : List Doc) : Doc :=
  ds.foldr append empty

/-- Pieces with a text between each two. -/
def join (separator : String) : List Doc → Doc
  | [] => empty
  | [d] => d
  | d :: ds => d ++ separator ++ join separator ds

/-- A piece that is there only if a condition holds. -/
def when (condition : Bool) (d : Doc) : Doc :=
  if condition then d else empty

/-- A piece between brackets, in which `in` needs no parentheses; after it things are as before. -/
def enclosed (opening : String) (d : Doc) (closing : String) : Doc := fun noIn =>
  match (opening ++ d ++ closing : Doc) false with
  | .error f => .error f
  | .ok (t, _) => .ok (t, noIn)

/-- A piece in the head of a loop, where `in` has to be in parentheses. -/
def inHead (d : Doc) : Doc := fun _ =>
  match d true with
  | .error f => .error f
  | .ok (t, _) => .ok (t, false)

/-- A choice that depends on whether `in` has to be in parentheses. -/
def ifNoIn (yes no : Doc) : Doc := fun noIn =>
  if noIn then yes noIn else no noIn

/-- The text of a piece that stands alone. -/
def run (d : Doc) : Except Failure Text :=
  (d false).map (·.1)

end Doc

end CoScript.Print
