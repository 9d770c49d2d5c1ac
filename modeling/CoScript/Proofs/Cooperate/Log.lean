import CoScript.Proofs.Cooperate.Routes
import CoScript.Proofs.Parse.StatementShape
import CoScript.Proofs.Tree.Values
import CoScript.Script

/-!
What the log of cooperation says. The rules look at nodes whose children are cooperative already, and
still the log can be read off the tree as it was: making a child cooperative never adds, removes or
changes a match above it, and what a rule puts in is not matched again.
-/
namespace CoScript

open Cooperate

namespace Cooperate.Logged

variable {α β : Type}

/-- The names of the rules that were applied. -/
def names (x : Logged α) : List Text :=
  x.log.map fun step => step.rule.name

@[simp] theorem names_pure (a : α) : (pure a : Logged α).names = [] := rfl

@[simp] theorem names_bind (x : Logged α) (f : α → Logged β) :
    (x >>= f).names = x.names ++ (f x.result).names :=
  List.map_append

@[simp] theorem names_note (rule : Rule) (t : Token) : (note rule t).names = [rule.name] := rfl

@[simp] theorem names_ite {c : Prop} [Decidable c] (x y : Logged α) :
    (if c then x else y).names = if c then x.names else y.names := by
  split <;> rfl

end Cooperate.Logged

namespace Node

/-- The operators that write to their target. -/
def writeOperators : List Text :=
  ["=", "+=", "-=", "*=", "/=", "%=", "&&=", "||=", "&=", "|=", "^=", "<<=", ">>=", ">>>=", "**=",
    "??="].map txt

/-- The method that a write to a target goes through, by the names in the target. -/
def shownSetter? (o : Options) : Node → Option Text
  | member t whole key computed optional =>
    (member t whole key computed optional).staticName?.bind fun name =>
      if whole.accesses (txt "variables") then some (txt "setVariable")
      else if whole.accesses (txt "effects") then some (txt "setEffect")
      else o.setters.lookup name
  | _ => none

/-- The name of the rule that a node of a script calls for. -/
def shownName? (o : Options) : Node → Option Text
  | call _ _ _ _ => some (txt "call")
  | forStatement _ _ _ _ _ | forIn _ _ _ _ | forOf _ _ _ _ _ | whileStatement _ _ _
  | doWhile _ _ _ => some (txt "loop-yield")
  | catchClause _ p _ _ => if p.isName || !p.isPresent then some (txt "catch-guard") else none
  | interfaceDeclaration _ _ _ _ => some (txt "interface")
  | assignment _ operator target _ =>
    if operator ∈ writeOperators then shownSetter? o target else none
  | _ => none

/-- The values of a tree in the order in which rules are applied to them. A value comes after those
below it, but a loop that tests last comes before its test. -/
def walk : Node → List Node
  | doWhile t body c => body.walk ++ doWhile t body c :: c.walk
  | n => (n.positions.attach.flatMap fun ⟨(p, c), _⟩ => if p.isValue c then c.walk else []) ++ [n]
termination_by n => sizeOf n
decreasing_by
  · simp only [doWhile.sizeOf_spec]; omega
  · simp only [doWhile.sizeOf_spec]; omega
  · exact sizeOf_lt_of_mem_positions ‹_›

/-- What a walk meets below nodes in positions. -/
def walkOf (l : List (Position × Node)) : List Node :=
  l.flatMap fun s => if s.1.isValue s.2 then s.2.walk else []

theorem walk_eq {n : Node} (h : ∀ t body c, n ≠ doWhile t body c) :
    n.walk = walkOf n.positions ++ [n] := by
  rw [walk, walkOf, List.flatMap_subtype (g := fun s => if s.1.isValue s.2 then s.2.walk else []),
    List.unattach_attach]
  · exact fun _ _ => rfl
  · exact h

theorem walk_doWhile (t : Token) (body c : Node) :
    (doWhile t body c).walk = body.walk ++ doWhile t body c :: c.walk := by
  rw [walk]

/-! What a node calls for is what its rule logs. -/

theorem setter_method (o : Options) (name : Text) (whole : Node) :
    (setter? o name whole).map Prod.snd =
      if whole.accesses (txt "variables") then some (txt "setVariable")
      else if whole.accesses (txt "effects") then some (txt "setEffect")
      else o.setters.lookup name := by
  cases whole with
  | member =>
      simp only [setter?]
      split
      · rfl
      split
      · rfl
      · simp [Function.comp_def]
  | _ => simp [setter?, accesses, staticName?, Function.comp_def]

/-- The method of a route is the one that the names in the target show. -/
theorem shownSetter_eq (o : Options) (target : Node) :
    shownSetter? o target = (route? o target).map Route.method := by
  cases target with
  | member t whole key computed optional =>
      simp only [shownSetter?, route?, ← setter_method]
      cases (member t whole key computed optional).staticName? with
      | none => rfl
      | some name => simp [Function.comp_def]
  | _ => rfl

/-- The operators that write are those with a value to write. -/
theorem writtenValue_isSome_iff (t : Token) (operator : Text) (target value : Node) :
    (writtenValue? t operator target value).isSome ↔ operator ∈ writeOperators := by
  by_cases plain : operator = txt "="
  · subst plain
    simp [writtenValue?, writeOperators]
  · rw [writtenValue?, if_neg plain, Option.isSome_map, compoundOperator?, Option.isSome_map,
      List.find?_isSome]
    have plain : operator ≠ [Glyph.char '='] := plain
    simp [writeOperators, txt, eq_comm (b := operator), plain]

theorem names_managedAssignment (o : Options) (t : Token) (operator : Text) (target value : Node) :
    (managedAssignment o t operator target value).names =
      (shownName? o (assignment t operator target value)).toList := by
  have writes := writtenValue_isSome_iff t operator target value
  simp only [shownName?, ← writes, shownSetter_eq]
  cases target with
  | member u whole key computed optional =>
      simp only [managedAssignment, route?]
      cases (member u whole key computed optional).staticName? with
      | none => simp
      | some name =>
          dsimp only [Option.bind_some]
          cases setter? o name whole with
          | none => simp
          | some s =>
              cases writtenValue? t operator (member u whole key computed optional) value with
              | none => rfl
              | some v => rfl
  | _ => simp [managedAssignment, route?]

theorem names_loopBody (o : Options) (t : Token) (body : Node) :
    (loopBody o t body).names = [txt "loop-yield"] := rfl

theorem names_awaitedCall (o : Options) (t : Token) (f : Node) (args : List Node)
    (optional : Bool) : (awaitedCall o t f args optional).names = [txt "call"] := rfl

theorem names_handler (o : Options) (t : Token) (p type body : Node) :
    (handler o t p type body).names = (shownName? o (catchClause t p type body)).toList := by
  cases p <;> rfl

/-- The names that are logged below nodes in positions. -/
def namesOf (o : Options) (l : List (Position × Node)) : List Text :=
  l.flatMap fun s => if s.1.isValue s.2 then (s.2.cooperate o).names else []

theorem names_cooperateAll (o : Options) (ns : List Node) :
    (cooperateAll o ns).names = ns.flatMap fun c => (c.cooperate o).names := by
  induction ns with
  | nil => rfl
  | cons n ns ih => simp [cooperateAll, ih]

section
variable {o : Options} {p : Position} {c : Node} {l l' : List (Position × Node)}

@[simp] theorem namesOf_nil : namesOf o [] = [] := rfl

@[simp] theorem namesOf_cons :
    namesOf o ((p, c) :: l) = (if p.isValue c then (c.cooperate o).names else []) ++ namesOf o l := rfl

@[simp] theorem namesOf_append : namesOf o (l ++ l') = namesOf o l ++ namesOf o l' :=
  List.flatMap_append

theorem namesOf_each {ns : List Node} :
    namesOf o (each p ns) =
      ns.flatMap fun c => if p.isValue c then (c.cooperate o).names else [] := by
  rw [namesOf, each, List.flatMap_map]

end

theorem FitsIn.names_key {n : Node} (o : Options) (h : n.FitsIn (.key false)) :
    (n.cooperate o).names = [] := by
  cases n with
  | identifier | privateName | string | number => rfl
  | _ => cases h.admitted

theorem FitsIn.names_name {n : Node} (o : Options) (h : n.FitsIn .name) :
    (n.cooperate o).names = [] := by
  cases n with
  | identifier => rfl
  | _ => cases h.admitted

theorem FitsIn.names_optional {n : Node} {o : Options} {p : Position}
    (h : n.FitsIn (.optional p)) (k : n.FitsIn p → (n.cooperate o).names = []) :
    (n.cooperate o).names = [] :=
  h.absent_or.elim (fun absent => absent ▸ rfl) k

attribute [local simp] cooperate positions Position.isValue shownName?

/-- The rule of a node comes after those of its children. -/
theorem names_cooperate (o : Options) {n : Node} (h : n.Shaped)
    (k : ∀ t body c, n ≠ doWhile t body c) :
    (n.cooperate o).names = namesOf o n.positions ++ (shownName? o n).toList := by
  have fits := h.childrenFit
  cases n <;> simp only [ChildrenFit, positions, fit_cons, fit_append, fit_each, fit_nil] at fits <;>
    simp [namesOf_each, names_cooperateAll, names_loopBody, names_awaitedCall, names_managedAssignment,
      names_handler]
  -- What is left are children that the pass does not visit: names, plain keys and empty places.
  case interfaceDeclaration => rw [List.flatMap_eq_nil_iff.2, List.flatMap_eq_nil_iff.2] <;> simp [Rule.name]
  case doWhile => exact absurd rfl (k _ _ _)
  case typeAlias | labeled => exact fits.1.names_name o
  case breakStatement | continueStatement =>
    exact fits.1.names_optional fun name => name.names_name o
  case function => exact fits.1.1.names_optional fun name => name.names_name o
  case forStatement =>
    exact fun barred => fits.1.names_optional fun head =>
      absurd head.admitted (by simp [Position.admits, barred])
  case forIn | forOf => exact fun barred => absurd fits.1.admitted (by simp [Position.admits, barred])
  case arrow => exact fun barred => absurd fits.2.2.1.admitted (by simp [Position.admits, barred])
  case catchClause p _ _ =>
    rcases fits.1.absent_or with rfl | named
    · exact fun _ => rfl
    · cases p with
      | identifier => exact fun _ => rfl
      | arrayPattern | objectPattern => rintro ⟨⟩
      | _ => cases named.admitted
  case property computed _ _ method =>
    have valued : (if method then Position.function else .expression).isValue = fun _ => true := by
      cases method <;> rfl
    simp only [valued, if_true]
    cases computed with
    | true => rfl
    | false => rw [fits.1.names_optional fun key => key.names_key o]; rfl
  case assignment operator target value =>
    rw [show (target.cooperate o).result = target.cooperative o from rfl]
    simp [shownSetter_eq, fits.1.shaped.route_cooperative o, Route.map, Function.comp_def]
  case member computed _ =>
    rintro rfl
    exact fits.2.1.names_key o
  case patternProperty computed _ _ =>
    rintro rfl
    exact fits.1.names_key o

theorem namesOf_eq_of {o : Options} {l : List (Position × Node)}
    (h : Throughout (fun _ c => (c.cooperate o).names = c.walk.filterMap (shownName? o)) l) :
    namesOf o l = (walkOf l).filterMap (shownName? o) := by
  induction l with
  | nil => rfl
  | cons s l ih =>
      obtain ⟨here, rest⟩ := throughout_cons.1 h
      rw [namesOf_cons, walkOf, List.flatMap_cons, List.filterMap_append, ← walkOf, ih rest, here]
      split <;> rfl

/-- The log is what the nodes of the tree call for, in the order of the walk. -/
theorem Shaped.names_cooperate (o : Options) {n : Node} (h : n.Shaped) :
    (n.cooperate o).names = n.walk.filterMap (shownName? o) := by
  induction h with
  | @of n fits below ih =>
      by_cases late : ∃ t body c, n = doWhile t body c
      · obtain ⟨t, body, c, rfl⟩ := late
        have hb := ih .body body (by simp)
        have hc := ih .expression c (by simp)
        simp [walk_doWhile, hb, hc, names_loopBody]
      · simp only [not_exists] at late
        rw [Node.names_cooperate o (.of fits below) late, walk_eq late, List.filterMap_append,
          namesOf_eq_of ih]
        cases shown : shownName? o n <;> simp [shown, -shownName?]

end Node

/-- The rules that are logged for an accepted script are those that its nodes call for. -/
theorem Script.parse_log_shown (o : Options) {source : Source} {program : Node}
    (h : Script.parse source = .ok program) :
    (program.cooperate o).log.map (fun step => step.rule.name) =
      program.walk.filterMap (Node.shownName? o) :=
  (Script.parse_shaped h).names_cooperate o

/-- A compound write to a managed property of a call, in a loop. -/
theorem Script.parse_log_shown_while :
    ∃ program, Script.parse (.ofText (txt "while (a.variables.k) f().x += 1")) = .ok program ∧
      program.walk.filterMap (Node.shownName? .default) =
        [txt "call", txt "setX", txt "loop-yield"] := by
  have parsed : Script.parse (.ofText (txt "while (a.variables.k) f().x += 1")) = .ok _ := rfl
  exact ⟨_, parsed, (Script.parse_log_shown .default parsed).symm⟩

/-- A loop that tests last is logged before the calls in its test, although it is above them. -/
theorem Script.log_ne_postorder :
    ∃ t u v w, ∃ program : Node, program =
        .program [.doWhile t (.block u []) (.call v (.identifier w (txt "f")) [] false)] ∧
      Script.parse (.ofText (txt "do {} while (f())")) = .ok program ∧
      (program.cooperate .default).log.map (fun step => step.rule.name) =
        [txt "loop-yield", txt "call"] ∧
      program.values.filterMap (Node.shownName? .default) = [txt "call", txt "loop-yield"] := by
  refine ⟨_, _, _, _, _, rfl, rfl, rfl, ?_⟩
  simp [Node.values_eq, Node.positions, Node.each, Node.Position.isValue, Node.shownName?,
    List.filterMap_cons]

end CoScript
