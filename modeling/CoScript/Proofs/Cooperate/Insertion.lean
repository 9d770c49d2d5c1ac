import Mathlib.Tactic.MkIffOfInductiveProp
import CoScript.Proofs.Cooperate.Contract
import CoScript.Proofs.Cooperate.Shape
import CoScript.Proofs.Text.Name

/-!
Cooperation only inserts. What the rules put in can be taken out again, knowing nothing but the names
that the host chose: the statement that every round of a loop begins with, the one that a handler
begins with, and the wait and the context of every call. For a script whose functions are asynchronous,
whose loops have blocks for bodies, whose handlers name the error or take it apart and which neither
declares an interface nor writes by way of a setter, nothing else happens, so the script comes back as
it was.
-/
namespace CoScript

open Cooperate

namespace Node

/-! Recognizing what the rules put in. -/

/-- The names along a dotted path. -/
def pathNames? : Node → Option (List Text)
  | identifier _ name => some [name]
  | member _ e (identifier _ name) false false => e.pathNames?.map (· ++ [name])
  | _ => none

/-- Whether an expression is the dotted path that is spelled so. -/
def spells (e : Node) (spelling : Text) : Bool :=
  e.pathNames? == some (Text.splitOn '.' spelling)

/-- Whether a statement gives way to the host. -/
def isYield (o : Options) : Node → Bool
  | expressionStatement _ (await _ (call _ (member _ context (identifier _ method) false false) []
      false)) => context.spells o.context && method == txt "delay"
  | _ => false

/-- Whether a statement passes interrupts on, in a handler with this parameter. -/
def isGuard (o : Options) : (param statement : Node) → Bool
  | identifier _ name,
    ifStatement _ (binary _ (identifier _ tested) operator interrupt)
      (throwStatement _ (identifier _ thrown)) absent =>
    tested == name && operator == txt "instanceof" && interrupt.spells o.interrupt && thrown == name
  | _, _ => false

/-- Whether a block starts with a statement of a kind. -/
def opensWith (kind : Node → Bool) : Node → Bool
  | block _ (first :: _) => kind first
  | _ => false

/-- A block without its first statement. -/
def withoutFirst : Node → Node
  | block t (_ :: rest) => block t rest
  | n => n

/-- What becomes of the body of a loop or a handler, which without what is inside of it is `inner`: a
first statement of a kind is left out. -/
def unopened (body : Node) (kind : Node → Bool) (inner : Node) : Node :=
  if body.opensWith kind then inner.withoutFirst else inner

mutual

/-- A tree from which everything is taken out that the rules put in. -/
def uncooperate (o : Options) : Node → Node
  | forStatement t init c u body =>
    forStatement t (init.uncooperate o) (c.uncooperate o) (u.uncooperate o)
      (body.unopened (isYield o) (body.uncooperate o))
  | forIn t left right body =>
    forIn t (left.uncooperate o) (right.uncooperate o)
      (body.unopened (isYield o) (body.uncooperate o))
  | forOf t awaits left right body =>
    forOf t awaits (left.uncooperate o) (right.uncooperate o)
      (body.unopened (isYield o) (body.uncooperate o))
  | whileStatement t c body =>
    whileStatement t (c.uncooperate o)
      (body.unopened (isYield o) (body.uncooperate o))
  | doWhile t body c =>
    doWhile t
      (body.unopened (isYield o) (body.uncooperate o))
      (c.uncooperate o)
  | catchClause t p type body =>
    catchClause t p type
      (body.unopened (p.isGuard o) (body.uncooperate o))
  | await t e =>
    match e with
    | call t f args optional =>
      call t (f.uncooperate o)
        ((uncooperateAll o args).drop (if receivesContext o f then 1 else 0)) optional
    | e => await t (e.uncooperate o)
  | program body => program (uncooperateAll o body)
  | block t body => block t (uncooperateAll o body)
  | expressionStatement t e => expressionStatement t (e.uncooperate o)
  | declaration t keyword ds => declaration t keyword (uncooperateAll o ds)
  | declarator t target definite type value =>
    declarator t (target.uncooperate o) definite type (value.uncooperate o)
  | functionDeclaration t f => functionDeclaration t (f.uncooperate o)
  | typeAlias t name type => typeAlias t (name.uncooperate o) type
  | ifStatement t c a b =>
    ifStatement t (c.uncooperate o) (a.uncooperate o) (b.uncooperate o)
  | returnStatement t v => returnStatement t (v.uncooperate o)
  | breakStatement t l => breakStatement t (l.uncooperate o)
  | continueStatement t l => continueStatement t (l.uncooperate o)
  | throwStatement t v => throwStatement t (v.uncooperate o)
  | tryStatement t b h f =>
    tryStatement t (b.uncooperate o) (h.uncooperate o) (f.uncooperate o)
  | switchStatement t d cases => switchStatement t (d.uncooperate o) (uncooperateAll o cases)
  | switchCase t test body => switchCase t (test.uncooperate o) (uncooperateAll o body)
  | labeled t l body => labeled t (l.uncooperate o) (body.uncooperate o)
  | template t chunks es => template t chunks (uncooperateAll o es)
  | array t es => array t (uncooperateAll o es)
  | object t ps => object t (uncooperateAll o ps)
  | property t key computed value shorthand method =>
    property t (key.uncooperate o) computed (value.uncooperate o) shorthand method
  | spread t e => spread t (e.uncooperate o)
  | parameter t target optional rest type default =>
    parameter t (target.uncooperate o) optional rest type (default.uncooperate o)
  | function t async name ps r body =>
    function t async (name.uncooperate o) (uncooperateAll o ps) r (body.uncooperate o)
  | arrow t async ps r body => arrow t async (uncooperateAll o ps) r (body.uncooperate o)
  | taggedTemplate t tag quasi => taggedTemplate t (tag.uncooperate o) (quasi.uncooperate o)
  | call t f args optional => call t (f.uncooperate o) (uncooperateAll o args) optional
  | new t f args => new t (f.uncooperate o) (uncooperateAll o args)
  | member t whole key computed optional =>
    member t (whole.uncooperate o) (key.uncooperate o) computed optional
  | assignment t operator target value =>
    assignment t operator (target.uncooperate o) (value.uncooperate o)
  | binary t left operator right => binary t (left.uncooperate o) operator (right.uncooperate o)
  | unary t operator e => unary t operator (e.uncooperate o)
  | update t operator e before => update t operator (e.uncooperate o) before
  | conditional t c a b => conditional t (c.uncooperate o) (a.uncooperate o) (b.uncooperate o)
  | sequence t es => sequence t (uncooperateAll o es)
  | assertion t e type satisfies => assertion t (e.uncooperate o) type satisfies
  | nonNull t e => nonNull t (e.uncooperate o)
  | arrayPattern t es => arrayPattern t (uncooperateAll o es)
  | objectPattern t ps rest => objectPattern t (uncooperateAll o ps) (rest.uncooperate o)
  | patternProperty t key computed value shorthand =>
    patternProperty t (key.uncooperate o) computed (value.uncooperate o) shorthand
  | assignmentPattern t target default =>
    assignmentPattern t (target.uncooperate o) (default.uncooperate o)
  | restElement t target => restElement t (target.uncooperate o)
  | n => n

/-- Trees from which everything is taken out that the rules put in. -/
def uncooperateAll (o : Options) : List Node → List Node
  | [] => []
  | n :: ns => n.uncooperate o :: uncooperateAll o ns

end

theorem uncooperateAll_eq_map (o : Options) (ns : List Node) :
    uncooperateAll o ns = ns.map (uncooperate o) := by
  induction ns with
  | nil => rfl
  | cons n ns ih => rw [uncooperateAll, ih, List.map_cons]

/-- The replacement of a child. -/
def uncooperateAt (o : Options) (p : Position) (c : Node) : Node :=
  if p.isValue c then c.uncooperate o else c

/-- Whether a rule wraps something around a node or puts something into it. -/
def isWrapped : Node → Bool
  | forStatement _ _ _ _ _ | forIn _ _ _ _ | forOf _ _ _ _ _ | whileStatement _ _ _
  | doWhile _ _ _ | catchClause _ _ _ _ | await _ (call _ _ _ _) => true
  | _ => false

theorem map_uncooperateAt (o : Options) (p : Position) (ns : List Node) :
    ns.map (uncooperateAt o p) = ns.map fun c => if p.isValue c then c.uncooperate o else c := rfl

/-- Nothing is taken out at a node that no rule is about. -/
theorem uncooperate_eq (o : Options) {n : Node} (h : n.isWrapped = false) :
    n.uncooperate o = n.mapPositions (uncooperateAt o) := by
  cases n with
  | forStatement | forIn | forOf | whileStatement | doWhile | catchClause => cases h
  | await t e =>
      cases e with
      | call => cases h
      | _ => rfl
  | property t key computed value shorthand method => cases method <;> rfl
  | _ =>
      simp only [mapPositions, map_uncooperateAt, Position.isValue, Bool.false_eq_true, if_true,
        if_false, List.map_id', ← uncooperateAll_eq_map]
      rfl

/-! What the rules put in is recognized. -/

theorem pathNames_path (spelling : Text) :
    (path spelling).pathNames? = some (Text.splitOn '.' spelling) := by
  have extend (names before : List Text) (e : Node) (h : e.pathNames? = some before) :
      (names.foldl (fun e name => member {} e (identifier {} name) false false) e).pathNames? =
        some (before ++ names) := by
    induction names generalizing before e with
    | nil => simpa using h
    | cons name names ih =>
        rw [List.foldl_cons, ih (before ++ [name]) _ (by simp [pathNames?, h])]
        simp
  unfold path
  split
  · exact absurd ‹_› (Text.splitOn_ne_nil '.' spelling)
  · rename_i first rest names
    rw [names]
    exact extend rest [first] _ rfl

theorem spells_path (spelling : Text) : (path spelling).spells spelling := by
  simp [spells, pathNames_path]

theorem isYield_yieldStatement (o : Options) (t : Token) : (yieldStatement o t).isYield o := by
  simp [yieldStatement, contextCall, isYield, spells_path]

theorem isGuard_guard (o : Options) (t u : Token) (name : Text) :
    (identifier t name).isGuard o (Cooperate.guard o u name) := by
  simp [Cooperate.guard, isGuard, spells_path]

/-! Taking out again. -/

/-- A node to which cooperation does nothing but put something in. -/
@[mk_iff] structure TakesInsertionsAt (o : Options) (n : Node) : Prop where
  async : n.async? ≠ some false
  loop : ∀ body, n.loopBody? = some body → body.isBlock
  handler : ∀ p body, n.handler? = some (p, body) → p.isPresent
  declared : n.isInterface = false
  unrouted : writeRoute? o n = none

/-- A tree to whose values cooperation does nothing but put something in. -/
def TakesInsertions (o : Options) (root : Node) : Prop :=
  ∀ n, root.HasValue n → n.TakesInsertionsAt o

theorem takesInsertions_iff {o : Options} {n : Node} :
    n.TakesInsertions o ↔ n.TakesInsertionsAt o ∧ AllValues (TakesInsertions o) n.positions :=
  forall_hasValue

section
variable {o : Options} {n : Node}

/-- The replacement of a child is undone if the child is. -/
theorem uncooperateAt_cooperativeAt {p : Position} {c : Node} (h : c.Shaped)
    (back : p.isValue c → (c.cooperative o).uncooperate o = c) :
    uncooperateAt o p (cooperativeAt o p c) = c := by
  rw [cooperativeAt]
  split
  · rename_i value
    rw [uncooperateAt, Position.isValue_congr (h.isPattern_cooperative o), if_pos value, back value]
  · exact if_neg ‹_›

/-- Where no rule applies there is nothing to take out. -/
theorem uncooperate_children (h : n.Shaped)
    (back : ∀ p c, (p, c) ∈ n.positions → p.isValue c → (c.cooperative o).uncooperate o = c)
    (bare : (n.mapPositions (cooperativeAt o)).isWrapped = false) :
    (n.mapPositions (cooperativeAt o)).uncooperate o = n := by
  rw [uncooperate_eq o bare, mapPositions_mapPositions]
  exact mapPositions_of_fixed fun p c hc =>
    uncooperateAt_cooperativeAt (h.childrenFit p c hc).shaped (back p c hc)

/-- A list comes back if its elements do. -/
theorem uncooperate_list {ns : List Node} (back : ∀ c ∈ ns, (c.cooperative o).uncooperate o = c) :
    uncooperateAll o (ns.map (cooperative o)) = ns := by
  rw [uncooperateAll_eq_map, List.map_map]
  exact (List.map_congr_left back).trans (List.map_id' ns)

/-- A block comes back without the statement that a rule put in front. -/
theorem unopened_block {kind : Node → Bool} {first : Node} (put : kind first) {t : Token}
    {statements : List Node}
    (back : ((block t statements).cooperative o).uncooperate o = block t statements) :
    (block t (first :: statements.map (cooperative o))).unopened kind
      ((block t (first :: statements.map (cooperative o))).uncooperate o) = block t statements := by
  rw [unopened, opensWith, if_pos put, ← back, cooperative_block]
  rfl

theorem unopened_of_none {kind : Node → Bool} {body inner : Node} (none : ∀ s, kind s = false) :
    body.unopened kind inner = inner := by
  have plain : body.opensWith kind = false := by
    unfold opensWith
    split
    · exact none _
    · rfl
  rw [unopened, plain, if_neg Bool.false_ne_true]

/-- A loop body that is a block comes back without the statement that gives way to the host. -/
theorem uncooperate_loopBody {body : Node} (braces : body.isBlock)
    (back : (body.cooperative o).uncooperate o = body) (t : Token) :
    (loopBody o t (body.cooperative o)).result.unopened (isYield o)
      ((loopBody o t (body.cooperative o)).result.uncooperate o) = body := by
  cases body with
  | block b statements =>
      rw [cooperative_block]
      exact unopened_block (isYield_yieldStatement o t) back
  | _ => cases braces

/-- A handler comes back without the statement that passes interrupts on. -/
theorem uncooperate_handler {t : Token} {p type body : Node}
    (h : (catchClause t p type body).Shaped) (named : p.isPresent)
    (back : (body.cooperative o).uncooperate o = body) :
    (((catchClause t p type body).mapPositions (cooperativeAt o)).applyRule o).uncooperate o =
      catchClause t p type body := by
  have fits := h.childrenFit
  simp only [ChildrenFit, positions, fit_cons] at fits
  obtain ⟨caught, -, braces, -⟩ := fits
  cases body with
  | block b statements =>
      have inner : cooperativeAt o .block (block b statements) = block b (statements.map (cooperative o)) :=
        cooperative_block o b statements
      rw [mapPositions, inner]
      cases p with
      | identifier u name => exact congrArg _ (unopened_block (isGuard_guard o u t name) back)
      -- The parameter takes the error apart, and no guard is recognized.
      | arrayPattern | objectPattern =>
          rw [cooperative_block] at back
          exact congrArg (catchClause t _ type) ((unopened_of_none fun _ => rfl).trans back)
      | absent => cases named
      | _ => cases (caught.required rfl).admitted
  | _ => cases braces.admitted

theorem uncooperate_wait (o : Options) (t u : Token) (f : Node) (args : List Node) (optional : Bool) :
    (await t (call u f args optional)).uncooperate o =
      call u (f.uncooperate o)
        ((uncooperateAll o args).drop (if receivesContext o f then 1 else 0)) optional := rfl

/-- A call comes back without the wait and without the context. -/
theorem uncooperate_awaitedCall (t : Token) {f : Node} {args : List Node} (optional : Bool)
    (callee : (f.cooperative o).uncooperate o = f)
    (arguments : ∀ a ∈ args, (a.cooperative o).uncooperate o = a) :
    (((call t f args optional).mapPositions (cooperativeAt o)).applyRule o).uncooperate o =
      call t f args optional := by
  have plain := uncooperate_list arguments
  change (await t (call t (f.cooperative o) (if receivesContext o (f.cooperative o) then
    path o.context :: args.map (cooperative o) else args.map (cooperative o)) optional)).uncooperate o = _
  rw [uncooperate_wait, callee]
  split
  · rw [uncooperateAll, plain, List.drop_one, List.tail_cons]
  · rw [plain, List.drop_zero]

theorem isWrapped_await (t : Token) {e : Node} (h : e.isCall = false) :
    (await t e).isWrapped = false := by
  cases e with
  | call => cases h
  | _ => rfl

end

/-- Cooperation comes undone where it only puts something in. -/
theorem Shaped.uncooperate_cooperative {o : Options} {n : Node} (h : n.Shaped)
    (ready : n.TakesInsertions o) : (n.cooperative o).uncooperate o = n := by
  induction h with
  | @of n fits below ih =>
      have shaped : n.Shaped := .of fits below
      obtain ⟨here, children⟩ := takesInsertions_iff.1 ready
      have back (p : Position) (c : Node) (hc : (p, c) ∈ n.positions) (value : p.isValue c) :
          (c.cooperative o).uncooperate o = c :=
        ih p c hc (children p c hc value)
      have round {body : Node} (hb : (.body, body) ∈ n.positions) (loop : n.loopBody? = some body) :=
        uncooperate_loopBody (here.loop body loop) (back .body body hb rfl)
      rw [cooperative_eq o shaped]
      cases n with
      | interfaceDeclaration => cases here.declared
      | forStatement t init c u body =>
          change forStatement t ((init.cooperative o).uncooperate o) ((c.cooperative o).uncooperate o)
            ((u.cooperative o).uncooperate o) _ = _
          rw [back (.optional .loopHead) init (by simp [positions]) rfl,
            back (.optional .expression) c (by simp [positions]) rfl,
            back (.optional .expression) u (by simp [positions]) rfl]
          exact congrArg _ (round (by simp [positions]) rfl t)
      | forIn t left right body =>
          change forIn t ((left.cooperative o).uncooperate o) ((right.cooperative o).uncooperate o) _ = _
          rw [back .loopHead left (by simp [positions]) rfl,
            back .expression right (by simp [positions]) rfl]
          exact congrArg _ (round (by simp [positions]) rfl t)
      | forOf t awaits left right body =>
          change forOf t awaits ((left.cooperative o).uncooperate o)
            ((right.cooperative o).uncooperate o) _ = _
          rw [back .loopHead left (by simp [positions]) rfl,
            back .expression right (by simp [positions]) rfl]
          exact congrArg _ (round (by simp [positions]) rfl t)
      | whileStatement t c body =>
          change whileStatement t ((c.cooperative o).uncooperate o) _ = _
          rw [back .expression c (by simp [positions]) rfl]
          exact congrArg _ (round (by simp [positions]) rfl t)
      | doWhile t body c =>
          change doWhile t _ ((c.cooperative o).uncooperate o) = _
          rw [back .expression c (by simp [positions]) rfl]
          exact congrArg (doWhile t · c) (round (by simp [positions]) rfl t)
      | catchClause t p type body =>
          exact uncooperate_handler shaped (here.handler p body rfl)
            (back .block body (by simp [positions]) rfl)
      | function t async name ps r body | arrow t async ps r body =>
          obtain rfl : async = true := by
            cases async with
            | true => rfl
            | false => exact absurd rfl here.async
          exact uncooperate_children shaped back rfl
      | call t f args optional =>
          exact uncooperate_awaitedCall t optional (back .expression f (by simp [positions]) rfl)
            fun a ha => back .expression a (by simp [positions, each, ha]) rfl
      | assignment t operator target value =>
          rw [← cooperative_eq o shaped, cooperative_unrouted shaped here.unrouted]
          exact uncooperate_children shaped back rfl
      | await t e =>
          have quiet := ((below .expression e List.mem_cons_self).cooperative_settled o).noCall
          refine uncooperate_children shaped back ?_
          exact isWrapped_await t quiet
      | _ => exact uncooperate_children shaped back rfl

end Node

/-- Cooperation only inserts: an accepted script with nothing to make asynchronous, no body to put in a
block, no error to name, no interface and no write by way of a setter comes back exactly when what the
rules put in is taken out again. -/
theorem Script.parse_uncooperate (o : Options) {source : Source} {program : Node}
    (h : Script.parse source = .ok program) (ready : program.TakesInsertions o) :
    (program.cooperate o).result.uncooperate o = program :=
  (Script.parse_shaped h).uncooperate_cooperative ready

/-- A statement of the script itself is not taken for the one that the rule puts in front of it. -/
theorem Script.parse_uncooperate_delay :
    ∃ program, Script.parse (.ofText (txt "for (;;) { await self.delay() }")) = .ok program ∧
      program.TakesInsertions .default ∧
      (program.cooperate .default).result.uncooperate .default = program := by
  obtain ⟨t, u, v, w, x, y, z, z', read⟩ : ∃ t u v w x y z z',
      Script.parse (.ofText (txt "for (;;) { await self.delay() }")) =
        .ok (.program [.forStatement t .absent .absent .absent (.block u [.expressionStatement v
          (.await w (.call x (.member y (.identifier z (txt "self")) (.identifier z' (txt "delay"))
            false false) [] false))])]) :=
    ⟨_, _, _, _, _, _, _, _, rfl⟩
  have ready : Node.TakesInsertions .default (.program [.forStatement t .absent .absent .absent (.block u
      [.expressionStatement v (.await w (.call x (.member y (.identifier z (txt "self"))
        (.identifier z' (txt "delay")) false false) [] false))])]) := by
    simp [Node.takesInsertions_iff, Node.takesInsertionsAt_iff, Node.positions,
      Node.Position.isValue, Node.async?, Node.loopBody?,
      Node.isBlock, Node.handler?, Node.isInterface, Node.writeRoute?]
  exact ⟨_, read, ready, parse_uncooperate .default read ready⟩

end CoScript
