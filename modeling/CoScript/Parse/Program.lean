import CoScript.Parse.Statement

/-!
Whole scripts. The rules of the grammar are tied together with a bound on the depth of their nesting.
Each rule that refers to another one takes a part of the script or leads to one that does within a few
steps, so a bound computed from the length of the script is never reached.
-/
namespace CoScript.Parse

/-- What a goal asks for, given an answerer for the goals below it. -/
def step (self : Recur) : Recur
  | .expression level => expression self level
  | .operators level left => operators self level left
  | .elements => elements self
  | .arguments => arguments self
  | .properties => properties self
  | .statement => statement self
  | .programItems => programItems self
  | .blockItems => blockItems self
  | .caseItems => caseItems self
  | .cases seenDefault => cases self seenDefault
  | .declarators => declarators self
  | .binding => binding self
  | .patternElements => patternElements self
  | .patternProperties => patternProperties self
  | .parameters => parameters self
  | .type level => typeExpression self level
  | .typeOperators level left => typeOperators self level left
  | .typeName left => typeName self left
  | .typeArguments => typeArguments self
  | .tupleElements => tupleElements self
  | .members => members self
  | .bases => bases self

/-- Answers goals with a bound on the depth of nesting. -/
def run : (depth : Nat) → Recur
  | 0 => fun _ s => (none, s.complain s.current (.unexpected s.current))
  | depth + 1 => fun g => step (run depth) g

/-- A depth of nesting that no phrase of a script exceeds. -/
def depthBound (source : Text) : Nat :=
  8 * (source.length + 2)

/-- A script that was read: the statements that could be made out, and what is wrong with it. -/
structure Outcome where
  program : Node
  complaints : List Complaint

/-- Reads a script. -/
def script (source : Text) : Outcome :=
  match run (depthBound source) .programItems (.start source) with
  | (items, s) => ⟨.program (items.getD []), s.complaints⟩

end CoScript.Parse
