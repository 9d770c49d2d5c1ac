import CoScript.Proofs.Cooperate.Contract
import CoScript.Proofs.Cooperate.Kept
import CoScript.Proofs.Tree.Subtrees

/-!
Patterns that take a value apart. Declarations, parameters and the heads of loops have their patterns
made cooperative, in the same way everywhere. A handler that takes the error apart keeps its pattern as
it is, so calls in it are not waited for. That makes no difference exactly if the pattern has nothing in
it that a rule is about.
-/
namespace CoScript

open Cooperate

namespace Node

/-- What a declarator or a parameter binds. -/
def boundTarget : Node → Node
  | declarator _ target _ _ _ | parameter _ target _ _ _ _ => target
  | n => n

/-- What a declaration binds. -/
def declared : Node → List Node
  | declaration _ _ ds => ds.map boundTarget
  | _ => []

/-- What a node binds itself: a declaration, a function, a loop with a declaration in its head, or a
handler. -/
def bindings : Node → List Node
  | function _ _ _ ps _ _ | arrow _ _ ps _ _ => ps.map boundTarget
  | forIn _ left _ _ | forOf _ _ left _ _ => left.declared
  | catchClause _ p _ _ => [p]
  | n => n.declared

/-- Whether a rule changes a node: it puts something in, or makes a function asynchronous. -/
def isRewritten (o : Options) : Node → Bool
  | interfaceDeclaration _ _ _ _ | forStatement _ _ _ _ _ | forIn _ _ _ _ | forOf _ _ _ _ _
  | whileStatement _ _ _ | doWhile _ _ _ | call _ _ _ _ => true
  | catchClause _ p _ _ => !p.isPattern
  | function _ async _ _ _ _ | arrow _ async _ _ _ => !async
  | assignment t operator target value =>
    (writeRoute? o (assignment t operator target value)).isSome
  | _ => false

section
variable {o : Options} {n c : Node}

/-! What is bound. -/

theorem FitsIn.boundTarget_cooperative (h : n.FitsIn .declarator ∨ n.FitsIn .parameter) :
    (n.cooperative o).boundTarget = n.boundTarget.cooperative o := by
  cases n with
  | declarator | parameter => rfl
  | _ => cases h with
    | inl h | inr h => cases h.admitted

theorem AllFit.boundTarget_cooperative {ns : List Node}
    (h : AllFit .declarator ns ∨ AllFit .parameter ns) :
    (ns.map (cooperative o)).map boundTarget = (ns.map boundTarget).map (cooperative o) := by
  rw [List.map_map, List.map_map]
  refine List.map_congr_left fun c hc => FitsIn.boundTarget_cooperative ?_
  exact h.imp (fun h => h c hc) fun h => h c hc

theorem Shaped.declared_cooperative (h : n.Shaped) :
    (n.cooperative o).declared = n.declared.map (cooperative o) := by
  have fits := h.childrenFit
  rw [cooperative_eq o h]
  cases n with
  | declaration t keyword ds =>
      simp only [ChildrenFit, positions, fit_each] at fits
      exact AllFit.boundTarget_cooperative (.inl fits)
  | catchClause t p type body =>
      simp only [mapPositions, applyRule, handler]
      split <;> rfl
  | assignment t operator target value =>
      obtain plain | ⟨r, v, -, -, routed⟩ := managedAssignment_cases o t operator
        (target.cooperative o) (value.cooperative o)
      · exact congrArg declared plain
      · exact congrArg declared routed
  | _ => rfl

/-- Whatever a node binds is made cooperative, unless the node is a handler. -/
theorem Shaped.bindings_cooperative (h : n.Shaped) (noHandler : n.handler? = none) :
    (n.cooperative o).bindings = n.bindings.map (cooperative o) := by
  have fits := h.childrenFit
  have declares := h.declared_cooperative (o := o)
  rw [cooperative_eq o h] at declares ⊢
  cases n with
  | forIn t left right body | forOf t awaits left right body =>
      exact (h.child ⟨.loopHead, .head _, rfl⟩).declared_cooperative
  | function t async name ps r body =>
      simp only [ChildrenFit, positions, fit_cons, fit_append, fit_each] at fits
      exact AllFit.boundTarget_cooperative (.inr fits.1.2)
  | arrow t async ps r body =>
      simp only [ChildrenFit, positions, fit_append, fit_each] at fits
      exact AllFit.boundTarget_cooperative (.inr fits.1)
  | catchClause => cases noHandler
  | assignment t operator target value =>
      obtain plain | ⟨r, v, -, -, routed⟩ := managedAssignment_cases o t operator
        (target.cooperative o) (value.cooperative o)
      · exact congrArg bindings plain
      · exact congrArg bindings routed
  | _ => exact declares

/-- A handler that takes the error apart keeps its pattern. -/
theorem bindings_handler {t : Token} {p type body : Node} (pattern : p.isPattern) :
    ((catchClause t p type body).cooperative o).bindings = [p] := by
  cases p with
  | arrayPattern | objectPattern => rfl
  | _ => cases pattern

/-! What stays as it is. -/

theorem cooperative_of_not_isRewritten (h : n.Shaped) (plain : n.isRewritten o = false) :
    n.cooperative o = n.mapPositions (cooperativeAt o) := by
  cases n with
  | assignment t operator target value =>
      exact cooperative_unrouted h (by simpa [isRewritten] using plain)
  | catchClause t p type body =>
      rw [cooperative_eq o h]
      cases p with
      | arrayPattern | objectPattern => rfl
      | _ => cases plain
  | function t async | arrow t async =>
      obtain rfl : async = true := by simpa [isRewritten] using plain
      exact cooperative_eq o h
  | interfaceDeclaration | forStatement | forIn | forOf | whileStatement | doWhile | call => cases plain
  | _ => exact cooperative_eq o h

/-- A block with a statement put in front is not the block that it was made from. -/
theorem block_ne_cons (t : Token) (body : List Node) (statement : Node) :
    block t body ≠ block t (statement :: body.map (cooperative o)) := by
  intro same
  have longer := congrArg List.length (block.inj same).2
  simp at longer

theorem loopBody_ne (t : Token) (body : Node) : (loopBody o t (body.cooperative o)).result ≠ body := by
  intro same
  obtain ⟨u, v, rest, yields⟩ := loopBody_yields o t (body.cooperative o)
  rw [same] at yields
  subst yields
  rw [cooperative_block] at same
  exact block_ne_cons _ _ _ same.symm

theorem prepend_ne (t : Token) (statement : Node) {body : Node} (h : body.isBlock) :
    prepend t statement (body.cooperative o) ≠ body := by
  cases body with
  | block b ss =>
      rw [cooperative_block]
      exact (block_ne_cons b ss statement).symm
  | _ => cases h

/-- A node that a rule changes does not stay as it is. -/
theorem Shaped.cooperative_ne (h : n.Shaped) (rewritten : n.isRewritten o) : n.cooperative o ≠ n := by
  have fits := h.childrenFit
  cases n with
  | interfaceDeclaration =>
      rw [cooperative_eq o h]
      rintro ⟨⟩
  | forStatement t init c u body =>
      rw [cooperative_eq o h]
      exact fun same => loopBody_ne t body (forStatement.inj same).2.2.2.2
  | forIn t left right body =>
      rw [cooperative_eq o h]
      exact fun same => loopBody_ne t body (forIn.inj same).2.2.2
  | forOf t awaits left right body =>
      rw [cooperative_eq o h]
      exact fun same => loopBody_ne t body (forOf.inj same).2.2.2.2
  | whileStatement t c body =>
      rw [cooperative_eq o h]
      exact fun same => loopBody_ne t body (whileStatement.inj same).2.2
  | doWhile t body c =>
      rw [cooperative_eq o h]
      exact fun same => loopBody_ne t body (doWhile.inj same).2.1
  | catchClause t p type body =>
      simp only [ChildrenFit, positions, fit_cons] at fits
      rw [cooperative_eq o h]
      obtain rfl | caught := fits.1.absent_or
      · rintro ⟨⟩
      · cases p with
        | identifier u name =>
            exact fun same => prepend_ne t _ fits.2.2.1.admitted (catchClause.inj same).2.2.2
        | arrayPattern | objectPattern => cases rewritten
        | _ => cases caught.admitted
  | function t async | arrow t async =>
      obtain rfl : async = false := by simpa [isRewritten] using rewritten
      rw [cooperative_eq o h]
      rintro ⟨⟩
  | call t f args optional =>
      rw [cooperative_eq o h]
      rintro ⟨⟩
  | assignment t operator target value =>
      obtain ⟨r, routed⟩ := Option.isSome_iff_exists.1 rewritten
      obtain ⟨v, -, called⟩ := cooperative_routed h routed
      rw [called]
      rintro ⟨⟩
  | _ => cases rewritten

/-- A tree stays as it is exactly if no rule changes a value of it. -/
theorem Shaped.cooperative_eq_self_iff (h : n.Shaped) :
    n.cooperative o = n ↔ ∀ m, n.HasValue m → m.isRewritten o = false := by
  induction h with
  | @of n fits below ih =>
      have shaped : n.Shaped := .of fits below
      constructor
      · intro same m hm
        have plain : n.isRewritten o = false :=
          Bool.eq_false_iff.2 fun rewritten => shaped.cooperative_ne rewritten same
        obtain rfl | ⟨c, ⟨p, hp, value⟩, hm⟩ := hasValue_iff.1 hm
        · exact plain
        · rw [cooperative_of_not_isRewritten shaped plain] at same
          have kept : cooperativeAt o p c = c := fixed_of_mapPositions same p c hp
          rw [cooperativeAt, if_pos value] at kept
          exact (ih p c hp).1 kept m hm
      · intro plain
        rw [cooperative_of_not_isRewritten shaped (plain n .root)]
        refine mapPositions_of_fixed fun p c hc => ?_
        change cooperativeAt o p c = c
        unfold cooperativeAt
        split
        · rename_i value
          exact (ih p c hc).2 fun m hm => plain m (HasChild.hasValue ⟨p, hc, value⟩ hm)
        · rfl

/-! Calls and functions in a pattern. -/

/-- A call in a tree is found again, waited for and given the context. -/
theorem Shaped.hasValue_call (h : n.Shaped) {t : Token} {f : Node} {args : List Node}
    {optional : Bool} (hc : n.HasValue (call t f args optional)) :
    (n.cooperative o).HasValue ((call t f args optional).cooperative o) ∧
      (call t f args optional).cooperative o =
        await t (call t (f.cooperative o)
          (if receivesContext o (f.cooperative o) then path o.context :: args.map (cooperative o)
            else args.map (cooperative o)) optional) := by
  have awaited : (call t f args optional).cooperative o =
      await t (call t (f.cooperative o)
        (if receivesContext o (f.cooperative o) then path o.context :: args.map (cooperative o)
          else args.map (cooperative o)) optional) := by
    rw [cooperative_eq o (h.value hc)]
    rfl
  refine ⟨h.hasValue_lasting hc ?_ rfl rfl, awaited⟩
  rw [awaited]
  rfl

/-- A function in a tree is found again and asynchronous. -/
theorem Shaped.hasValue_function (h : n.Shaped) (hc : n.HasValue c) (function : c.async?.isSome) :
    (n.cooperative o).HasValue (c.cooperative o) ∧ (c.cooperative o).async? = some true := by
  have shaped := h.value hc
  obtain ⟨async, lasting, access, key⟩ : (c.cooperative o).async? = some true ∧
      (c.cooperative o).isLasting ∧ c.isMember = false ∧ c.isPlainKey = false := by
    rw [cooperative_eq o shaped]
    cases c with
    | function | arrow => exact ⟨rfl, rfl, rfl, rfl⟩
    | _ => cases function
  exact ⟨h.hasValue_lasting hc lasting access key, async⟩

/-- A node that binds something is found again. -/
theorem Shaped.hasValue_binder (h : n.Shaped) (hc : n.HasValue c) (binds : c.bindings ≠ []) :
    (n.cooperative o).HasValue (c.cooperative o) := by
  have shaped := h.value hc
  obtain ⟨lasting, access, key⟩ :
      (c.cooperative o).isLasting ∧ c.isMember = false ∧ c.isPlainKey = false := by
    rw [cooperative_eq o shaped]
    cases c with
    | declaration | function | arrow | forIn | forOf => exact ⟨rfl, rfl, rfl⟩
    | catchClause t p type body =>
        simp only [mapPositions, applyRule, handler]
        refine ⟨?_, rfl, rfl⟩
        split <;> rfl
    | _ => exact absurd rfl binds
  exact h.hasValue_lasting hc lasting access key

end

end Node

/-- The patterns of an accepted script are made cooperative in the same way in declarations, parameters
and the heads of loops: every call in them is waited for and given the context, and every function
becomes asynchronous. A handler keeps its pattern instead, which is the same exactly if no rule changes
anything in it. -/
theorem Script.parse_bindings (o : Options) {source : Source} {program : Node}
    (h : Script.parse source = .ok program) :
    (∀ n ∈ program.subtrees,
      (n.handler? = none →
        (n.cooperate o).result.bindings = n.bindings.map fun p => (p.cooperate o).result) ∧
      (∀ t p type body, n = .catchClause t p type body → p.isPattern →
        (n.cooperate o).result.bindings = [p] ∧
          ((p.cooperate o).result = p ↔ ∀ m, p.HasValue m → m.isRewritten o = false)) ∧
      (program.HasValue n → n.bindings ≠ [] →
        (program.cooperate o).result.HasValue (n.cooperate o).result)) ∧
    ∀ p ∈ program.subtrees, p.isPattern →
      (p.cooperate o).result.isPattern ∧
      (∀ t f args optional, p.HasValue (.call t f args optional) →
        (p.cooperate o).result.HasValue ((Node.call t f args optional).cooperate o).result ∧
        ((Node.call t f args optional).cooperate o).result =
          .await t (.call t (f.cooperate o).result
            (if receivesContext o (f.cooperate o).result
              then path o.context :: args.map fun a => (a.cooperate o).result
              else args.map fun a => (a.cooperate o).result) optional)) ∧
      (∀ f, p.HasValue f → f.async?.isSome →
        (p.cooperate o).result.HasValue (f.cooperate o).result ∧
        (f.cooperate o).result.async? = some true) ∧
      (p.cooperate o).result.Cooperates o := by
  have shaped := Script.parse_shaped h
  constructor
  · intro n hn
    have here := shaped.subtree hn
    refine ⟨here.bindings_cooperative, ?_, shaped.hasValue_binder⟩
    rintro t p type body rfl pattern
    have part := (here.childrenFit _ p (.head _)).shaped
    exact ⟨Node.bindings_handler pattern, part.cooperative_eq_self_iff⟩
  · intro p hp pattern
    have here := shaped.subtree hp
    refine ⟨(here.isPattern_cooperative o).trans pattern, fun t f args optional => here.hasValue_call,
      fun f => here.hasValue_function, (here.cooperative_settled o).cooperates⟩

/-- A pattern that takes the first element of a list, and calls `f` if there is none. -/
def Node.firstElement (t u v w x : Token) : Node :=
  .arrayPattern t [.assignmentPattern u (.identifier v (txt "a"))
    (.call w (.identifier x (txt "f")) [] false)]

/-- A declaration with such a pattern. -/
def Node.firstOf (s d t u v w x b : Token) : Node :=
  .declaration s (txt "let")
    [.declarator d (.firstElement t u v w x) false .absent (.identifier b (txt "b"))]

/-- A declaration waits for the call in its pattern. -/
theorem Script.parse_bindings_declaration :
    ∃ s d t u v w x b, Script.parse (.ofText (txt "let [a = f()] = b")) =
        .ok (.program [.firstOf s d t u v w x b]) ∧
      ((Node.firstOf s d t u v w x b).cooperate .default).result.bindings =
        [((Node.firstElement t u v w x).cooperate .default).result] ∧
      ((Node.firstElement t u v w x).cooperate .default).result.HasValue
        (.await w (.call w (.identifier x (txt "f")) [.identifier {} (txt "self")] false)) := by
  obtain ⟨s, d, t, u, v, w, x, b, parsed⟩ : ∃ s d t u v w x b,
      Script.parse (.ofText (txt "let [a = f()] = b")) =
        .ok (.program [.firstOf s d t u v w x b]) := ⟨_, _, _, _, _, _, _, _, rfl⟩
  obtain ⟨alike, waits⟩ := Script.parse_bindings .default parsed
  have within := Script.parse_shaped parsed
  have declared : (Node.program [.firstOf s d t u v w x b]).HasValue (.firstOf s d t u v w x b) :=
    .child .root ⟨_, .head _, rfl⟩
  have pattern : (Node.program [.firstOf s d t u v w x b]).HasValue (.firstElement t u v w x) :=
    .child (.child declared ⟨_, .head _, rfl⟩) ⟨_, .head _, rfl⟩
  have call := (waits _ (within.mem_subtrees pattern rfl) rfl).2.1 w (.identifier x (txt "f")) [] false
    (.child (.child .root ⟨_, .head _, rfl⟩) ⟨_, .tail _ (.head _), rfl⟩)
  refine ⟨s, d, t, u, v, w, x, b, parsed, (alike _ (within.mem_subtrees declared rfl)).1 rfl, ?_⟩
  exact call.2 ▸ call.1

/-- A handler does not wait for the call in its pattern. -/
theorem Script.handler_keeps_call :
    ∃ s b c t u v w x d, Script.parse (.ofText (txt "try {} catch ([a = f()]) {}")) =
        .ok (.program [.tryStatement s (.block b [])
          (.catchClause c (.firstElement t u v w x) .absent (.block d [])) .absent]) ∧
      ((Node.catchClause c (.firstElement t u v w x) .absent (.block d [])).cooperate
          .default).result.bindings = [.firstElement t u v w x] ∧
      ((Node.firstElement t u v w x).cooperate .default).result ≠ .firstElement t u v w x := by
  refine ⟨_, _, _, _, _, _, _, _, _, rfl, rfl, ?_⟩
  rintro ⟨⟩

end CoScript
