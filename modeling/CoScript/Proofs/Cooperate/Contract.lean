import CoScript.Proofs.Cooperate.Routes
import CoScript.Proofs.Parse.StatementShape
import CoScript.Script

/-!
What a host may rely on in a cooperative script. The contract is stated node by node and holds of every
value of the tree, whatever names the host chose.

A call is the only node that depends on what is above it: it has to be waited for. So a tree that
keeps the contract may stand anywhere unless it is a call itself, and cooperation never leaves a call
by itself.
-/
namespace CoScript

open Cooperate

namespace Node

/-- Whether a function is asynchronous, for a node that is a function. -/
def async? : Node → Option Bool
  | function _ async _ _ _ _ | arrow _ async _ _ _ => some async
  | _ => none

/-- The body of a loop, for a node that is one. -/
def loopBody? : Node → Option Node
  | forStatement _ _ _ _ body | forIn _ _ _ body | forOf _ _ _ _ body | whileStatement _ _ body
  | doWhile _ body _ => some body
  | _ => none

/-- What a handler calls the error, and its body, for a node that is a handler. -/
def handler? : Node → Option (Node × Node)
  | catchClause _ p _ body => some (p, body)
  | _ => none

/-- What the host relies on at a node by itself. -/
structure ObeysRules (o : Options) (n : Node) : Prop where
  declared : n.isInterface = false
  async : ∀ a, n.async? = some a → a = true
  /-- Every round of a loop gives way to the host first. -/
  yields : ∀ body, n.loopBody? = some body →
    ∃ t u rest, body = block t (yieldStatement o u :: rest)
  /-- A handler names the error, or takes it apart, and passes interrupts on if it names it. -/
  guards : ∀ p body, n.handler? = some (p, body) → p.isPresent ∧
    ∀ t name, p = identifier t name → ∃ u v rest, body = block u (Cooperate.guard o v name :: rest)

/-- What the host relies on at a node. -/
structure CooperatesAt (o : Options) (n : Node) : Prop extends ObeysRules o n where
  /-- A call is waited for, unless it is a statement that declares a variable. -/
  awaits : ∀ c, n.HasChild c → c.isCall → (∃ t, n = await t c) ∨
    ∃ t args, n = expressionStatement t c ∧ c = contextCall o "declareVariable" args

/-- A tree that keeps the contract at all of its values. -/
def Cooperates (o : Options) (root : Node) : Prop :=
  ∀ n, root.HasValue n → n.CooperatesAt o

theorem cooperates_iff {o : Options} {n : Node} :
    n.Cooperates o ↔ n.CooperatesAt o ∧ ∀ c, n.HasChild c → c.Cooperates o := by
  rw [forall_hasChild]
  exact forall_hasValue

/-- A tree that keeps the contract wherever it stands. -/
structure Settled (o : Options) (n : Node) : Prop where
  cooperates : n.Cooperates o
  noCall : n.isCall = false

section
variable {o : Options} {n c : Node}

/-- A node above settled values keeps the contract if it obeys the rules. -/
theorem Cooperates.of (here : n.ObeysRules o) (children : AllValues (Settled o) n.positions) :
    n.Cooperates o := by
  rw [← forall_hasChild] at children
  refine cooperates_iff.2 ⟨⟨here, ?_⟩, fun c hc => (children c hc).cooperates⟩
  intro c hc call
  exact absurd call (by simp [(children c hc).noCall])

theorem Settled.of (here : n.ObeysRules o) (noCall : n.isCall = false)
    (children : AllValues (Settled o) n.positions) : n.Settled o :=
  ⟨.of here children, noCall⟩

/-- What is below a settled node is settled, except for the call that a node waits for. -/
theorem Settled.child (h : n.Settled o) (hc : n.HasChild c) (noAwait : ∀ t, n ≠ await t c)
    (noStatement : ∀ t, n ≠ expressionStatement t c) : c.Settled o := by
  obtain ⟨here, below⟩ := cooperates_iff.1 h.cooperates
  refine ⟨below c hc, Bool.eq_false_iff.2 fun call => ?_⟩
  obtain ⟨t, awaited⟩ | ⟨t, _, statement, _⟩ := here.awaits c hc call
  · exact noAwait t awaited
  · exact noStatement t statement

/-- A node that is no interface, function, loop or handler obeys the rules. -/
theorem ObeysRules.of_none (declared : n.isInterface = false) (async : n.async? = none)
    (loop : n.loopBody? = none) (handler : n.handler? = none) : n.ObeysRules o :=
  ⟨declared, by simp [async], by simp [loop], by simp [handler]⟩

/-- A node that no rule matches obeys the rules. -/
theorem ObeysRules.of_unmatched (h : n.hasRule = false) : n.ObeysRules o := by
  have unmatched : n.isInterface = false ∧ n.async? = none ∧ n.loopBody? = none ∧
      n.handler? = none := by
    cases n with
    | interfaceDeclaration | forStatement | forIn | forOf | whileStatement | doWhile | catchClause
    | function | arrow => cases h
    | _ => exact ⟨rfl, rfl, rfl, rfl⟩
  obtain ⟨declared, async, loop, handler⟩ := unmatched
  exact .of_none declared async loop handler

theorem ObeysRules.of_loop {body : Node} (h : n.loopBody? = some body)
    (yields : ∃ t u rest, body = block t (yieldStatement o u :: rest)) : n.ObeysRules o := by
  have started : ∀ b, n.loopBody? = some b → ∃ t u rest, b = block t (yieldStatement o u :: rest) := by
    intro b hb
    exact Option.some.inj (h.symm.trans hb) ▸ yields
  cases n with
  | forStatement | forIn | forOf | whileStatement | doWhile =>
      exact ⟨rfl, by rintro _ ⟨⟩, started, by rintro _ _ ⟨⟩⟩
  | _ => cases h

end

/-! Nodes that rules put in. -/

theorem path_settled (o : Options) (spelling : Text) : (path spelling).Settled o := by
  have leaf (name : Text) : (identifier {} name).Settled o := by
    exact .of (.of_unmatched rfl) rfl (by simp [positions])
  have extend (e : Node) (names : List Text) (he : e.Settled o) :
      (names.foldl (fun e name => member {} e (identifier {} name) false false) e).Settled o := by
    induction names generalizing e with
    | nil => exact he
    | cons name names ih =>
        refine ih _ (.of (.of_unmatched rfl) rfl ?_)
        simpa [positions, Position.isValue] using ⟨he, leaf name⟩
  unfold path
  split
  · exact leaf _
  · exact extend _ _ (leaf _)

theorem string_settled (o : Options) (s : Text) : (string {} s []).Settled o :=
  .of (.of_unmatched rfl) rfl (by simp [positions])

theorem call_cooperates {o : Options} {f : Node} {args : List Node} (t : Token) (optional : Bool)
    (hf : f.Settled o) (ha : ∀ a ∈ args, a.Settled o) : (call t f args optional).Cooperates o := by
  refine .of (.of_none rfl rfl rfl rfl) ?_
  simpa [positions, Position.isValue] using ⟨hf, ha⟩

/-- A call is settled once it is waited for. -/
theorem await_settled {o : Options} {c : Node} (t : Token) (h : c.Cooperates o) :
    (await t c).Settled o := by
  refine ⟨cooperates_iff.2 ⟨⟨.of_unmatched rfl, ?_⟩, ?_⟩, rfl⟩
  · rw [forall_hasChild]
    simp [positions, Position.isValue]
  · rw [forall_hasChild]
    simpa [positions, Position.isValue] using h

theorem contextCall_cooperates {o : Options} {args : List Node} (method : String)
    (h : ∀ a ∈ args, a.Settled o) : (contextCall o method args).Cooperates o := by
  have key : (identifier {} (txt method)).Settled o := .of (.of_unmatched rfl) rfl (by simp [positions])
  refine call_cooperates {} false (.of (.of_unmatched rfl) rfl ?_) h
  simpa [positions, Position.isValue] using ⟨path_settled o o.context, key⟩

theorem yieldStatement_settled (o : Options) (t : Token) : (yieldStatement o t).Settled o := by
  have call : (contextCall o "delay" []).Cooperates o := contextCall_cooperates "delay" (by simp)
  refine .of (.of_unmatched rfl) rfl ?_
  simpa [yieldStatement, positions, Position.isValue] using await_settled t call

theorem declareStatement_settled (o : Options) (t : Token) (v : Variable) :
    (declareStatement o t v).Settled o := by
  have args : ∀ a ∈ (v.name :: v.types).map fun s => string {} s [], a.Settled o := by
    intro a ha
    obtain ⟨s, -, rfl⟩ := List.mem_map.1 ha
    exact string_settled o s
  have call := contextCall_cooperates "declareVariable" args
  refine ⟨cooperates_iff.2 ⟨⟨.of_unmatched rfl, ?_⟩, ?_⟩, rfl⟩
  · rw [forall_hasChild]
    simp only [declareStatement, positions, allValues_cons, allValues_nil, and_true]
    exact fun _ _ => .inr ⟨_, _, rfl, rfl⟩
  · rw [forall_hasChild]
    simpa [declareStatement, positions, Position.isValue] using call

theorem guard_settled (o : Options) (t : Token) (name : Text) :
    (Cooperate.guard o t name).Settled o := by
  have leaf : (identifier {} name).Settled o := .of (.of_unmatched rfl) rfl (by simp [positions])
  have test : (binary t (identifier {} name) (txt "instanceof") (path o.interrupt)).Settled o := by
    refine .of (.of_unmatched rfl) rfl ?_
    simpa [positions, Position.isValue] using ⟨leaf, path_settled o o.interrupt⟩
  have throws : (throwStatement t (identifier {} name)).Settled o := by
    refine .of (.of_unmatched rfl) rfl ?_
    simpa [positions, Position.isValue] using leaf
  have nothing : absent.Settled o := .of (.of_unmatched rfl) rfl (by simp [positions])
  refine .of (.of_unmatched rfl) rfl ?_
  simpa [Cooperate.guard, positions, Position.isValue] using ⟨test, throws, nothing⟩

/-! Rules. -/

theorem block_settled {o : Options} {body : List Node} (t : Token)
    (h : ∀ s ∈ body, s.Settled o) : (block t body).Settled o := by
  refine .of (.of_unmatched rfl) rfl ?_
  simpa [positions, Position.isValue] using h

theorem Settled.statements {o : Options} {t : Token} {body : List Node}
    (h : (block t body).Settled o) : ∀ s ∈ body, s.Settled o := by
  intro s hs
  refine h.child ⟨.statement, ?_, rfl⟩ nofun nofun
  simpa [positions, each] using hs

theorem loopBody_settled {o : Options} {body : Node} (t : Token) (h : body.Settled o) :
    (loopBody o t body).result.Settled o := by
  have yields := yieldStatement_settled o t
  simp only [loopBody, Logged.result_bind, Logged.result_pure]
  split
  · exact block_settled _ (List.forall_mem_cons.2 ⟨yields, h.statements⟩)
  · exact block_settled _ (List.forall_mem_singleton.2 yields)
  · exact block_settled _ (List.forall_mem_singleton.2 yields)
  · exact block_settled _ (List.forall_mem_cons.2 ⟨yields, List.forall_mem_singleton.2 h⟩)

theorem loopBody_yields (o : Options) (t : Token) (body : Node) :
    ∃ u v rest, (loopBody o t body).result = block u (yieldStatement o v :: rest) := by
  simp only [loopBody, Logged.result_bind, Logged.result_pure]
  split <;> exact ⟨_, _, _, rfl⟩

theorem prepend_settled {o : Options} {statement body : Node} (t : Token)
    (hs : statement.Settled o) (hb : body.Settled o) : (prepend t statement body).Settled o := by
  unfold prepend
  split
  · exact block_settled _ (List.forall_mem_cons.2 ⟨hs, hb.statements⟩)
  · exact block_settled _ (List.forall_mem_singleton.2 hs)

theorem prepend_first (t : Token) (statement body : Node) :
    ∃ u rest, prepend t statement body = block u (statement :: rest) := by
  unfold prepend
  split <;> exact ⟨_, _, rfl⟩

theorem handler_settled {o : Options} {p body : Node} (t : Token) (type : Node)
    (hp : Position.caught.isValue p → p.Settled o) (hb : body.Settled o) :
    (handler o t p type body).result.Settled o := by
  have named (u : Token) (name : Text) :
      (catchClause t (identifier u name) type
        (prepend t (Cooperate.guard o t name) body)).Settled o := by
    have leaf : (identifier u name).Settled o := .of (.of_unmatched rfl) rfl (by simp [positions])
    refine .of ⟨rfl, by rintro _ ⟨⟩, by rintro _ ⟨⟩, ?_⟩ rfl ?_
    · rintro _ _ ⟨⟩
      refine ⟨rfl, ?_⟩
      rintro _ _ ⟨⟩
      obtain ⟨v, rest, first⟩ := prepend_first t (Cooperate.guard o t name) body
      exact ⟨v, t, rest, first⟩
    · simpa [positions, Position.isValue] using
        ⟨fun _ => leaf, prepend_settled t (guard_settled o t name) hb⟩
  unfold handler
  split
  · exact named t o.errorBinding
  · exact named _ _
  · rename_i present unnamed
    refine .of ⟨rfl, by rintro _ ⟨⟩, by rintro _ ⟨⟩, ?_⟩ rfl ?_
    · rintro _ _ ⟨⟩
      refine ⟨?_, fun u name named => absurd named (unnamed u name)⟩
      cases p with
      | absent => exact absurd rfl present
      | _ => rfl
    · simpa [positions, Position.isValue] using ⟨by simpa [Position.isValue] using hp, hb⟩

theorem awaitedCall_settled {o : Options} {f : Node} {args : List Node} (t : Token)
    (optional : Bool) (hf : f.Settled o) (ha : ∀ a ∈ args, a.Settled o) :
    (awaitedCall o t f args optional).result.Settled o := by
  refine await_settled t (call_cooperates t optional hf ?_)
  split
  · exact List.forall_mem_cons.2 ⟨path_settled o o.context, ha⟩
  · exact ha

theorem Settled.object {o : Options} {t : Token} {object key : Node} {computed optional : Bool}
    (h : (member t object key computed optional).Settled o) : object.Settled o := by
  refine h.child ⟨.expression, ?_, rfl⟩ nofun nofun
  simp [positions]

theorem managedAssignment_settled {o : Options} {target value : Node} (t : Token)
    (operator : Text) (ht : target.Settled o) (hv : value.Settled o) :
    (managedAssignment o t operator target value).result.Settled o := by
  obtain plain | ⟨r, v, hr, hw, routed⟩ := managedAssignment_cases o t operator target value
  · rw [plain]
    refine .of (.of_none rfl rfl rfl rfl) rfl ?_
    simpa [positions, Position.isValue] using ⟨ht, hv⟩
  have receiver : r.receiver.Settled o := by
    obtain ⟨_, object, _, _, _, rfl, -, same | ⟨_, _, _, _, rfl, -⟩⟩ := route_receiver hr
    · exact same ▸ ht.object
    · exact ht.object.object
  have written : v.Settled o := by
    unfold writtenValue? at hw
    split at hw
    · exact Option.some.inj hw ▸ hv
    · obtain ⟨op, -, rfl⟩ := Option.map_eq_some_iff.1 hw
      refine .of (.of_unmatched rfl) rfl ?_
      simpa [positions, Position.isValue] using ⟨ht, hv⟩
  have key : (identifier {} r.method).Settled o := .of (.of_unmatched rfl) rfl (by simp [positions])
  have callee : (member {} r.receiver (identifier {} r.method) false false).Settled o := by
    refine .of (.of_unmatched rfl) rfl ?_
    simpa [positions, Position.isValue] using ⟨receiver, key⟩
  rw [routed]
  refine await_settled t (call_cooperates t false callee ?_)
  exact List.forall_mem_cons.2 ⟨string_settled o r.property, List.forall_mem_singleton.2 written⟩

/-- A rule settles a node above settled values. -/
theorem applyRule_settled {o : Options} {n : Node} (h : AllValues (Settled o) n.positions) :
    (n.applyRule o).Settled o := by
  cases n with
  | interfaceDeclaration t name bases members =>
      refine block_settled t fun s hs => ?_
      obtain ⟨v, -, rfl⟩ := List.mem_map.1 hs
      exact declareStatement_settled o t v
  | forStatement t init c u body =>
      simp [positions, Position.isValue] at h
      refine .of (.of_loop rfl (loopBody_yields o t body)) rfl ?_
      simpa [applyRule, positions, Position.isValue] using
        ⟨h.1, h.2.1, h.2.2.1, loopBody_settled t h.2.2.2⟩
  | forIn t left right body | forOf t awaits left right body =>
      simp [positions, Position.isValue] at h
      refine .of (.of_loop rfl (loopBody_yields o t body)) rfl ?_
      simpa [applyRule, positions, Position.isValue] using ⟨h.1, h.2.1, loopBody_settled t h.2.2⟩
  | whileStatement t c body =>
      simp [positions, Position.isValue] at h
      refine .of (.of_loop rfl (loopBody_yields o t body)) rfl ?_
      simpa [applyRule, positions, Position.isValue] using ⟨h.1, loopBody_settled t h.2⟩
  | doWhile t body c =>
      simp [positions, Position.isValue] at h
      refine .of (.of_loop rfl (loopBody_yields o t body)) rfl ?_
      simpa [applyRule, positions, Position.isValue] using ⟨loopBody_settled t h.1, h.2⟩
  | catchClause t p type body =>
      simp only [positions, allValues_cons] at h
      exact handler_settled t type h.1 (h.2.2.1 rfl)
  | function t async name ps r body | arrow t async ps r body =>
      refine .of ⟨rfl, ?_, by rintro _ ⟨⟩, by rintro _ _ ⟨⟩⟩ rfl h
      exact fun a ha => (Option.some.inj ha).symm
  | call t f args optional =>
      simp [positions, Position.isValue] at h
      exact awaitedCall_settled t optional h.1 h.2
  | assignment t operator target value =>
      simp [positions, Position.isValue] at h
      exact managedAssignment_settled t operator h.1 h.2
  | _ => exact .of (.of_unmatched rfl) rfl h

/-- Cooperation settles every tree. -/
theorem Shaped.cooperative_settled (o : Options) {n : Node} (h : n.Shaped) :
    (n.cooperative o).Settled o := by
  induction h with
  | @of n fits below ih =>
      rw [cooperative_eq o (.of fits below)]
      exact applyRule_settled (allValues_cooperativeAt fun p c hc _ => ih p c hc)

end Node

/-- A script that is accepted keeps the contract after cooperation, at every value. -/
theorem Script.parse_cooperates (o : Options) {source : Source} {program n : Node}
    (h : Script.parse source = .ok program) (hn : (program.cooperate o).result.HasValue n) :
    n.CooperatesAt o :=
  ((Script.parse_shaped h).cooperative_settled o).cooperates n hn

/-- The contract holds at a loop that calls in its head and in its body, which is no block. -/
theorem Script.parse_cooperates_while :
    ∃ program t c body, Script.parse (.ofText (txt "while (f(g())) x.y()")) = .ok program ∧
      (program.cooperate .default).result = .program [.whileStatement t c body] ∧
      (Node.whileStatement t c body).CooperatesAt .default := by
  have parsed : Script.parse (.ofText (txt "while (f(g())) x.y()")) = .ok _ := rfl
  exact ⟨_, _, _, _, parsed, rfl, Script.parse_cooperates .default parsed
    (.child .root ⟨.statement, List.mem_singleton.2 rfl, rfl⟩)⟩

end CoScript
