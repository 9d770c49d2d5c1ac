import CoScript.Proofs.Cooperate.Contract
import CoScript.Proofs.Cooperate.Shape
import CoScript.Proofs.Tree.Values

/-!
How often a cooperative script has its effects. Every call, creation and update of a script is there
after cooperation as often as before, and the rules put in calls of their own, with one exception. A
compound write that goes through a setter reads its target as well, and what the target does on the way
is then done twice.
-/
namespace CoScript

open Cooperate

namespace Node

/-- Whether a node is a call, the creation of an object or an update. -/
def isEffect : Node → Bool
  | call _ _ _ _ | new _ _ _ | update _ _ _ _ => true
  | _ => false

/-- The weight that counts effects. -/
def effect (n : Node) : Nat :=
  if n.isEffect then 1 else 0

/-- How many calls the rule for a node puts in: one for each variable of an interface, one for a loop,
and one for a write that goes through a setter. -/
def putIn (o : Options) : Node → Nat
  | interfaceDeclaration t name bases members =>
    (interfaceDeclaration t name bases members).interfaceVariables.length
  | forStatement _ _ _ _ _ | forIn _ _ _ _ | forOf _ _ _ _ _ | whileStatement _ _ _
  | doWhile _ _ _ => 1
  | assignment t operator target value =>
    if (writeRoute? o (assignment t operator target value)).isSome then 1 else 0
  | _ => 0

/-- The target of a write that goes through a setter and needs the value from before. -/
def reread? (o : Options) : Node → Option Node
  | assignment t operator target value =>
    if (writeRoute? o (assignment t operator target value)).isSome ∧ operator ≠ txt "=" then some target
    else none
  | _ => none

/-- How many effects are had once more when a target is read. -/
def repeated (o : Options) (n : Node) : Nat :=
  (reread? o n).elim 0 fun target => (target.cooperative o).tally effect

theorem repeated_eq_zero {o : Options} {n : Node} :
    repeated o n = 0 ↔ ∀ target, reread? o n = some target → (target.cooperative o).tally effect = 0 := by
  rw [repeated]
  cases reread? o n <;> simp

/-- A write is routed before its target is made cooperative if and only if it is afterwards. -/
theorem Shaped.writeRoute_isSome (o : Options) (t : Token) (operator : Text) (value : Node)
    {target : Node} (h : target.Shaped) :
    (writeRoute? o (assignment t operator (target.cooperative o) (value.cooperative o))).isSome =
      (writeRoute? o (assignment t operator target value)).isSome := by
  simp only [writeRoute?, h.route_cooperative o,
    writtenValue_isSome t operator (target.cooperative o) (value.cooperative o) target value]
  split <;> simp

/-! Counting the effects of nodes that rules put in. -/

attribute [local simp] positions Position.isValue effect isEffect

theorem tally_isPlainKey {n : Node} (h : n.isPlainKey) : n.tally effect = 0 := by
  cases n with
  | identifier | privateName | string | number => exact tally_eq effect _
  | _ => cases h

@[simp] theorem tally_identifier (t : Token) (name : Text) : (identifier t name).tally effect = 0 :=
  tally_isPlainKey rfl

@[simp] theorem tally_absent : absent.tally effect = 0 :=
  tally_eq effect absent

@[simp] theorem tally_member (t : Token) (whole key : Node) (computed optional : Bool) :
    (member t whole key computed optional).tally effect =
      whole.tally effect + key.tally effect := by
  rw [tally_eq]
  simp

@[simp] theorem tally_call (t : Token) (f : Node) (args : List Node) (optional : Bool) :
    (call t f args optional).tally effect =
      f.tally effect + (args.map (tally effect)).sum + 1 := by
  rw [tally_eq]
  simp

@[simp] theorem tally_await (t : Token) (e : Node) :
    (await t e).tally effect = e.tally effect := by
  rw [tally_eq]
  simp

@[simp] theorem tally_binary (t : Token) (left : Node) (operator : Text) (right : Node) :
    (binary t left operator right).tally effect = left.tally effect + right.tally effect := by
  rw [tally_eq]
  simp

@[simp] theorem tally_expressionStatement (t : Token) (e : Node) :
    (expressionStatement t e).tally effect = e.tally effect := by
  rw [tally_eq]
  simp

@[simp] theorem tally_block (t : Token) (body : List Node) :
    (block t body).tally effect = (body.map (tally effect)).sum := by
  rw [tally_eq]
  simp

@[simp] theorem tally_path (spelling : Text) : (path spelling).tally effect = 0 := by
  have extend (e : Node) (names : List Text) (he : e.tally effect = 0) :
      (names.foldl (fun e name => member {} e (identifier {} name) false false) e).tally effect = 0 := by
    induction names generalizing e with
    | nil => exact he
    | cons name names ih => exact ih _ (by simp [he])
  unfold path
  split
  · exact tally_identifier _ _
  · exact extend _ _ (tally_identifier _ _)

@[simp] theorem tally_yieldStatement (o : Options) (t : Token) :
    (yieldStatement o t).tally effect = 1 := by
  simp [yieldStatement, contextCall]

@[simp] theorem tally_declareStatement (o : Options) (t : Token) (v : Variable) :
    (declareStatement o t v).tally effect = 1 := by
  have free (s : Text) : (string {} s []).tally effect = 0 := tally_isPlainKey rfl
  simp [declareStatement, contextCall, free, Function.comp_def]

@[simp] theorem tally_guard (o : Options) (t : Token) (name : Text) :
    (Cooperate.guard o t name).tally effect = 0 := by
  have throws : (throwStatement t (identifier {} name)).tally effect = 0 := by
    rw [tally_eq]
    simp
  rw [Cooperate.guard, tally_eq]
  simp [throws]

/-! Counting the effects of what the rules give. -/

theorem tally_loopBody (o : Options) (t : Token) (body : Node) :
    (loopBody o t body).result.tally effect = body.tally effect + 1 := by
  simp only [loopBody, Logged.result_bind, Logged.result_pure]
  split
  · simp [Nat.add_comm]
  · simp
  · rw [tally_eq effect (emptyStatement _)]
    simp
  · simp [Nat.add_comm]

theorem tally_prepend (t : Token) {statement body : Node} (h : body.isBlock)
    (free : statement.tally effect = 0) :
    (prepend t statement body).tally effect = body.tally effect := by
  cases body with
  | block b statements => simp [prepend, free]
  | _ => cases h

theorem tally_handler (o : Options) (t : Token) (p type : Node) {body : Node} (h : body.isBlock) :
    (handler o t p type body).result.tally effect = (catchClause t p type body).tally effect := by
  have guarded (name : Text) := tally_prepend t h (tally_guard o t name)
  cases p with
  | absent | identifier =>
      simp only [handler, Logged.result_bind, Logged.result_pure]
      rw [tally_eq, tally_eq effect (catchClause _ _ _ _)]
      simp [guarded]
  | _ => rfl

theorem tally_awaitedCall (o : Options) (t : Token) (f : Node) (args : List Node) (optional : Bool) :
    (awaitedCall o t f args optional).result.tally effect = (call t f args optional).tally effect := by
  simp only [awaitedCall, Logged.result_bind, Logged.result_pure]
  split <;> simp

/-- A setter is a method of something that has all the effects of the target. -/
theorem tally_receiver {o : Options} {target : Node} {r : Route} (h : route? o target = some r) :
    r.receiver.tally effect = target.tally effect := by
  obtain ⟨t, whole, key, computed, optional, rfl, known, receiver⟩ := route_receiver h
  rw [tally_member, tally_isPlainKey (isPlainKey_of_staticName known), Nat.add_zero]
  obtain rfl | ⟨_, _, _, _, rfl, named⟩ := receiver
  · rfl
  · rw [tally_member, tally_isPlainKey (isPlainKey_of_staticName named), Nat.add_zero]

/-- A write has the effects of its target once, and once more if it reads the target. -/
theorem tally_managedAssignment (o : Options) (t : Token) (operator : Text) (target value : Node) :
    (managedAssignment o t operator target value).result.tally effect =
      (assignment t operator target value).tally effect +
        putIn o (assignment t operator target value) +
        (reread? o (assignment t operator target value)).elim 0 (tally effect) := by
  have plain : (assignment t operator target value).tally effect =
      target.tally effect + value.tally effect := by
    rw [tally_eq]
    simp
  rw [managedAssignment_result, putIn, reread?, writeRoute?, plain]
  cases route : route? o target with
  | none => simp [plain]
  | some r =>
      have receiver := tally_receiver route
      have property : (string {} r.property []).tally effect = 0 := tally_isPlainKey rfl
      cases written : writtenValue? t operator target value with
      | none => simp [plain]
      | some v =>
          simp only [writtenValue?] at written
          split at written
          · rename_i simple
            obtain rfl := Option.some.inj written
            simp [Route.call, Route.access, receiver, property, simple]
          · rename_i compound
            obtain ⟨operation, -, rfl⟩ := Option.map_eq_some_iff.1 written
            simp [Route.call, Route.access, receiver, property, compound]
            omega

/-- The effects of a node after its rule. -/
theorem tally_applyRule (o : Options) {n : Node} (h : n.Shaped) :
    (n.applyRule o).tally effect =
      n.tally effect + putIn o n + (reread? o n).elim 0 (tally effect) := by
  rw [tally_eq effect n]
  cases n with
  | interfaceDeclaration t name bases members =>
      rw [applyRule, tally_block]
      simp [putIn, reread?, Function.comp_def]
  | forStatement | forIn | forOf | whileStatement | doWhile =>
      rw [applyRule, tally_eq]
      simp [putIn, reread?, tally_loopBody]
      omega
  | catchClause t p type body =>
      have fits := h.childrenFit
      simp only [ChildrenFit, positions, fit_cons] at fits
      rw [← tally_eq]
      exact tally_handler o t p type fits.2.2.1.admitted
  | call t f args optional =>
      rw [← tally_eq]
      exact tally_awaitedCall o t f args optional
  | assignment t operator target value =>
      rw [← tally_eq]
      exact tally_managedAssignment o t operator target value
  | _ => exact tally_eq effect _

theorem effect_mapPositions (f : Position → Node → Node) (n : Node) :
    effect (n.mapPositions f) = effect n := by
  cases n <;> rfl

/-- What the rule for a node puts in does not depend on whether its children are cooperative. -/
theorem Shaped.putIn_mapPositions (o : Options) {n : Node} (h : n.Shaped) :
    putIn o (n.mapPositions (cooperativeAt o)) = putIn o n := by
  have fits := h.childrenFit
  cases n with
  | interfaceDeclaration t name bases members =>
      have types (l : List Node) : l.map (cooperativeAt o .type) = l := List.map_id l
      have signatures (l : List Node) : l.map (cooperativeAt o .signature) = l := List.map_id l
      rw [mapPositions, types, signatures]
      rfl
  | assignment t operator target value =>
      simp only [ChildrenFit, positions, fit_cons] at fits
      exact congrArg (fun routed => if routed then 1 else 0)
        (fits.1.shaped.writeRoute_isSome o t operator value)
  | _ => rfl

theorem Shaped.reread_mapPositions (o : Options) {n : Node} (h : n.Shaped) :
    (reread? o (n.mapPositions (cooperativeAt o))).elim 0 (tally effect) = repeated o n := by
  have fits := h.childrenFit
  cases n with
  | assignment t operator target value =>
      simp only [ChildrenFit, positions, fit_cons] at fits
      have routed := fits.1.shaped.writeRoute_isSome o t operator value
      simp only [mapPositions, cooperativeAt, Position.isValue, if_true, repeated, reread?, routed]
      split <;> rfl
  | _ => rfl

/-- Cooperation keeps all effects, puts in the calls of the rules, and repeats the effects of targets
that are read. -/
theorem Shaped.tally_cooperative (o : Options) {n : Node} (h : n.Shaped) :
    (n.cooperative o).tally effect =
      n.tally fun m => effect m + putIn o m + repeated o m := by
  induction h with
  | @of n fits below ih =>
      have shaped := Shaped.of fits below
      have children : tallyOf effect (n.mapPositions (cooperativeAt o)).positions =
          tallyOf (fun m => effect m + putIn o m + repeated o m) n.positions := by
        rw [positions_mapPositions, tallyOf, tallyOf, List.map_map]
        congr 1
        refine List.map_congr_left fun s hc => ?_
        obtain ⟨p, c⟩ := s
        by_cases value : p.isValue c
        · have same := p.isValue_congr ((below p c hc).isPattern_cooperative o)
          simp [cooperativeAt, value, same, ih p c hc]
        · simp [cooperativeAt, value]
      rw [cooperative_eq o shaped, tally_applyRule o (shaped.cooperative_children o), tally_eq,
        children, effect_mapPositions, shaped.putIn_mapPositions o, shaped.reread_mapPositions o,
        tally_eq]
      omega

end Node

/-- A script that is accepted has each of its effects once after cooperation, besides the calls that the
rules put in, if and only if no write that reads its target has an effect in the target. Each call is
waited for or declares a variable. -/
theorem Script.parse_effects (o : Options) {source : Source} {program : Node}
    (h : Script.parse source = .ok program) :
    (program.cooperate o).result.tally Node.effect = program.tally Node.effect +
        program.tally (Node.putIn o) + program.tally (Node.repeated o) ∧
      ((program.cooperate o).result.tally Node.effect =
          program.tally Node.effect + program.tally (Node.putIn o) ↔
        ∀ write target, program.HasValue write → Node.reread? o write = some target →
          (target.cooperate o).result.tally Node.effect = 0) ∧
      ∀ n c, (program.cooperate o).result.HasValue n → n.HasChild c → c.isCall →
        (∃ t, n = .await t c) ∨
          ∃ t args, n = .expressionStatement t c ∧ c = contextCall o "declareVariable" args := by
  have shaped := Script.parse_shaped h
  have total : (program.cooperate o).result.tally Node.effect = program.tally Node.effect +
      program.tally (Node.putIn o) + program.tally (Node.repeated o) := by
    have sum := shaped.tally_cooperative o
    rw [Node.tally_add, Node.tally_add] at sum
    exact sum
  refine ⟨total, ?_, fun n c hn => (((shaped.cooperative_settled o).cooperates) n hn).awaits c⟩
  rw [total, Nat.add_eq_left, Node.tally_eq_zero]
  simp only [Node.repeated_eq_zero]
  exact ⟨fun none write target hw => none write hw target,
    fun none write hw target => none write target hw⟩

/-- A write that reads its target, in which nothing happens. -/
theorem Script.parse_effects_compound :
    ∃ program, Script.parse (.ofText (txt "while (f(a++)) a.x += new C(1)")) = .ok program ∧
      (program.cooperate .default).result.tally Node.effect = program.tally Node.effect +
        program.tally (Node.putIn .default) + program.tally (Node.repeated .default) := by
  have parsed : Script.parse (.ofText (txt "while (f(a++)) a.x += new C(1)")) = .ok _ := rfl
  exact ⟨_, parsed, (Script.parse_effects .default parsed).1⟩

/-- The call in the target of a compound write is there once, and then twice. -/
theorem Script.effects_repeated :
    ∃ t u v w x y z, ∃ program : Node, program = .program [.expressionStatement t
        (.assignment u (txt "+=") (.member v (.call w (.identifier x (txt "f")) [] false)
          (.identifier y (txt "x")) false false) (.number z (txt "1")))] ∧
      Script.parse (.ofText (txt "f().x += 1")) = .ok program ∧
      program.tally Node.effect = 1 ∧ program.tally (Node.putIn .default) = 1 ∧
      (program.cooperate .default).result.tally Node.effect = 3 := by
  refine ⟨_, _, _, _, _, _, _, _, rfl, rfl, ?_, ?_, ?_⟩
  · simp [Node.tally_eq, Node.positions, Node.each, Node.Position.isValue, Node.effect, Node.isEffect]
  · simp only [Node.tally_eq, Node.positions, Node.each, List.map, Node.tallyOf_cons, Node.tallyOf_nil]
    rfl
  · change Node.tally Node.effect (.program [.expressionStatement _ (.await _
      (.call _ (.member _ (.await _ (.call _ (.identifier _ (txt "f")) [.identifier _ (txt "self")] false))
        (.identifier _ (txt "setX")) false false) [.string _ (txt "x") [],
        .binary _ (.member _ (.await _ (.call _ (.identifier _ (txt "f"))
          [.identifier _ (txt "self")] false)) (.identifier _ (txt "x")) false false) (txt "+")
          (.number _ (txt "1"))] false))]) = 3
    simp [Node.tally_eq, Node.positions, Node.each, Node.Position.isValue, Node.effect, Node.isEffect]

end CoScript
