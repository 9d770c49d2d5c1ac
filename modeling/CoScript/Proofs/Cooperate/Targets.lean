import CoScript.Proofs.Cooperate.Kept
import CoScript.Proofs.Parse.StatementShape
import CoScript.Proofs.Tree.Subtrees
import CoScript.Proofs.Tree.Values

/-!
What is written to. Arrays and objects that take a value apart are literals, and a default value in one
is an assignment. The rules do not tell such an assignment from one that is a value, so a default whose
target has a setter is made a call that is waited for, and nothing can be written to that. Everything
else that is written to stays a target.
-/
namespace CoScript

open Cooperate

namespace Node

/-- The value of an entry of an object. -/
def entryValue : Node → Node
  | property _ _ _ value _ _ => value
  | n => n

/-- The elements of a literal that takes a value apart, without the holes. -/
def elements : Node → List Node
  | array _ es => es.filter isPresent
  | object _ ps => ps.map entryValue
  | _ => []

/-- What an element writes to: the rest may be spread, and there may be a default. -/
def bound : Node → Node
  | spread _ e => e
  | assignment t operator target value =>
    if operator = txt "=" then target else assignment t operator target value
  | n => n

/-- A node that can be written to. -/
inductive IsTarget : Node → Prop
  | name (t : Token) (name : Text) : IsTarget (identifier t name)
  | access (t : Token) (object key : Node) (computed optional : Bool) :
      IsTarget (member t object key computed optional)
  | assertion {t : Token} {e type : Node} {satisfies : Bool} (h : IsTarget e) :
      IsTarget (assertion t e type satisfies)
  | nonNull {t : Token} {e : Node} (h : IsTarget e) : IsTarget (nonNull t e)
  | apart {n : Node} (literal : n.isDestructuring) (elements : ∀ e ∈ n.elements, IsTarget e.bound) :
      IsTarget n

/-- An assignment that is a default of a target. -/
inductive HasDefault : (target d : Node) → Prop
  | here {n d : Node} (hd : d ∈ n.elements) (default : d.isAssignment) : HasDefault n d
  | inside {n e d : Node} (he : e ∈ n.elements) (h : HasDefault e.bound d) : HasDefault n d
  | assertion {t : Token} {e type d : Node} {satisfies : Bool} (h : HasDefault e d) :
      HasDefault (assertion t e type satisfies) d
  | nonNull {t : Token} {e d : Node} (h : HasDefault e d) : HasDefault (nonNull t e) d

/-- What a node writes to: the left side of an assignment, or an expression that heads a loop. -/
def written? : Node → Option Node
  | assignment _ _ target _ => some target
  | forIn _ left _ _ | forOf _ _ left _ _ => if left.isExpression then some left else none
  | _ => none

/-- A tree in which only targets are written to. -/
def WritesTargets (n : Node) : Prop :=
  ∀ m ∈ n.subtrees, ∀ x, m.written? = some x → x.IsTarget

/-! One target. -/

section
variable {o : Options} {n e d : Node}

theorem hasValue_bound (e : Node) : e.HasValue e.bound := by
  cases e with
  | spread => exact .child .root ⟨.expression, .head _, rfl⟩
  | assignment =>
      rw [bound]
      split
      · exact .child .root ⟨.expression, .head _, rfl⟩
      · exact .root
  | _ => exact .root

theorem Shaped.entry {t : Token} {ps : List Node} {p : Node} (h : (object t ps).Shaped) (hp : p ∈ ps) :
    ∃ u key computed value shorthand method, p = property u key computed value shorthand method := by
  have fits := h.childrenFit
  simp only [ChildrenFit, positions, fit_each] at fits
  have sort := (fits p hp).admitted
  cases p with
  | property => exact ⟨_, _, _, _, _, _, rfl⟩
  | _ => cases sort

theorem Shaped.hasValue_element (h : n.Shaped) (he : e ∈ n.elements) : n.HasValue e := by
  cases n with
  | array t es =>
      exact .child .root ⟨_, List.mem_map_of_mem (List.mem_filter.1 he).1, rfl⟩
  | object t ps =>
      obtain ⟨p, hp, rfl⟩ := List.mem_map.1 he
      obtain ⟨u, key, computed, value, shorthand, method, rfl⟩ := h.entry hp
      refine .child (.child .root ⟨.entry, List.mem_map_of_mem hp, rfl⟩) ⟨_, .tail _ (.head _), ?_⟩
      cases method <;> rfl
  | _ => cases he

/-- The elements of a literal are made cooperative one by one. -/
theorem Shaped.elements_cooperative (h : n.Shaped) (literal : n.isDestructuring) :
    (n.cooperative o).isDestructuring ∧
      (n.cooperative o).elements = n.elements.map (cooperative o) := by
  have fits := h.childrenFit
  rw [cooperative_eq o h]
  cases n with
  | array t es =>
      refine ⟨rfl, ?_⟩
      simp only [ChildrenFit, positions, fit_each] at fits
      change (es.map (cooperative o)).filter isPresent = (es.filter isPresent).map (cooperative o)
      rw [List.filter_map]
      congr 1
      refine List.filter_congr fun e he => ?_
      exact (fits e he).shaped.isPresent_cooperative o
  | object t ps =>
      refine ⟨rfl, ?_⟩
      change ((ps.map (cooperative o)).map entryValue) = (ps.map entryValue).map (cooperative o)
      rw [List.map_map, List.map_map]
      refine List.map_congr_left fun p hp => ?_
      obtain ⟨u, key, computed, value, shorthand, method, rfl⟩ := h.entry hp
      cases computed <;> rfl
  | _ => cases literal

theorem Shaped.of_element (h : n.Shaped) (he : e ∈ n.elements) : e.Shaped ∧ e.bound.Shaped :=
  have shaped := h.value (h.hasValue_element he)
  ⟨shaped, shaped.value (hasValue_bound e)⟩

/-! Inversions. -/

theorem isTarget_assertion {t : Token} {type : Node} {satisfies : Bool} :
    (assertion t e type satisfies).IsTarget ↔ e.IsTarget := by
  refine ⟨fun h => ?_, .assertion⟩
  cases h with
  | assertion h => exact h
  | apart literal => cases literal

theorem isTarget_nonNull {t : Token} : (nonNull t e).IsTarget ↔ e.IsTarget := by
  refine ⟨fun h => ?_, .nonNull⟩
  cases h with
  | nonNull h => exact h
  | apart literal => cases literal

theorem isTarget_apart (literal : n.isDestructuring) :
    n.IsTarget ↔ ∀ e ∈ n.elements, e.bound.IsTarget := by
  refine ⟨fun h => ?_, .apart literal⟩
  cases h with
  | apart _ elements => exact elements
  | _ => cases literal

theorem hasDefault_assertion {t : Token} {type : Node} {satisfies : Bool} :
    (assertion t e type satisfies).HasDefault d ↔ e.HasDefault d := by
  refine ⟨fun h => ?_, .assertion⟩
  cases h with
  | here hd | inside hd => cases hd
  | assertion h => exact h

theorem hasDefault_nonNull {t : Token} : (nonNull t e).HasDefault d ↔ e.HasDefault d := by
  refine ⟨fun h => ?_, .nonNull⟩
  cases h with
  | here hd | inside hd => cases hd
  | nonNull h => exact h

theorem hasDefault_apart (literal : n.isDestructuring) :
    n.HasDefault d ↔ ∃ e ∈ n.elements, (d = e ∧ e.isAssignment) ∨ e.bound.HasDefault d := by
  constructor
  · intro h
    cases h with
    | here hd default => exact ⟨d, hd, .inl ⟨rfl, default⟩⟩
    | inside he h => exact ⟨_, he, .inr h⟩
    | _ => cases literal
  · rintro ⟨e, he, ⟨rfl, default⟩ | h⟩
    · exact .here he default
    · exact .inside he h

theorem HasDefault.isMember_eq (h : n.HasDefault d) : n.isMember = false := by
  cases h with
  | here he | inside he =>
      cases n with
      | member => cases he
      | _ => rfl
  | _ => rfl

/-- An element is the rest, has a default, or is what it writes to. -/
theorem bound_cases (e : Node) :
    (∃ t rest, e = spread t rest) ∨ (∃ t operator left value, e = assignment t operator left value) ∨
      (e.bound = e ∧ e.isAssignment = false) := by
  cases e with
  | spread t rest => exact .inl ⟨t, rest, rfl⟩
  | assignment t operator left value => exact .inr (.inl ⟨t, operator, left, value, rfl⟩)
  | _ => exact .inr (.inr ⟨rfl, rfl⟩)

/-! Targets under cooperation. -/

/-- What is a target by itself is not taken for the rest or for a default afterwards. -/
theorem IsTarget.bound_cooperative (target : n.IsTarget) (h : n.Shaped) :
    (n.cooperative o).bound = n.cooperative o := by
  cases target with
  | access =>
      rw [cooperative_member o h]
      rfl
  | name | assertion | nonNull => rfl
  | apart literal =>
      cases n with
      | array | object => rfl
      | _ => cases literal

/-- An element stays one that writes to a target, unless it is a default that goes through a setter. -/
theorem IsTarget.element_iff (target : e.bound.IsTarget) (h : e.Shaped)
    (below : (e.bound.cooperative o).IsTarget ↔ ∀ d, e.bound.HasDefault d → writeRoute? o d = none) :
    (e.cooperative o).bound.IsTarget ↔
      (e.isAssignment → writeRoute? o e = none) ∧
        ∀ d, e.bound.HasDefault d → writeRoute? o d = none := by
  rw [← below]
  obtain ⟨t, rest, rfl⟩ | ⟨t, operator, left, value, rfl⟩ | ⟨same, plain⟩ := bound_cases e
  · exact (and_iff_right (by rintro ⟨⟩)).symm
  · by_cases equals : operator = txt "="
    · subst equals
      cases routed : writeRoute? o (assignment t (txt "=") left value) with
      | none =>
          rw [cooperative_unrouted h routed]
          exact (and_iff_right fun _ => rfl).symm
      | some r =>
          obtain ⟨v, -, called⟩ := cooperative_routed h routed
          rw [called]
          refine iff_of_false (fun waits => ?_) fun both => absurd (both.1 rfl) (by simp)
          cases waits with
          | apart literal => cases literal
    · rw [bound, if_neg equals] at target
      cases target with
      | apart literal => cases literal
  · rw [same] at target ⊢
    rw [target.bound_cooperative h, plain]
    exact (and_iff_right (by rintro ⟨⟩)).symm

/-- A target stays one exactly if no default in it goes through a setter. -/
theorem IsTarget.cooperative_iff (target : n.IsTarget) (h : n.Shaped) :
    (n.cooperative o).IsTarget ↔ ∀ d, n.HasDefault d → writeRoute? o d = none := by
  induction target with
  | name t name =>
      refine iff_of_true (.name t name) fun d default => ?_
      cases default with
      | here hd | inside hd => cases hd
  | access t object key computed optional =>
      rw [cooperative_member o h]
      refine iff_of_true (.access _ _ _ _ _) fun d default => ?_
      cases default.isMember_eq
  | @assertion t e type satisfies _ ih =>
      have below := ih (h.child ⟨.expression, .head _, rfl⟩)
      simp only [hasDefault_assertion]
      exact isTarget_assertion.trans below
  | @nonNull t e _ ih =>
      have below := ih (h.child ⟨.expression, .head _, rfl⟩)
      simp only [hasDefault_nonNull]
      exact isTarget_nonNull.trans below
  | @apart n literal targets ih =>
      obtain ⟨literal', mapped⟩ := h.elements_cooperative (o := o) literal
      have element (e : Node) (he : e ∈ n.elements) :=
        (targets e he).element_iff (h.of_element he).1 (ih e he (h.of_element he).2)
      rw [isTarget_apart literal', mapped, List.forall_mem_map]
      simp only [hasDefault_apart literal]
      constructor
      · rintro kept d ⟨e, he, ⟨rfl, default⟩ | below⟩
        · exact ((element d he).1 (kept d he)).1 default
        · exact ((element e he).1 (kept e he)).2 d below
      · intro none e he
        refine (element e he).2 ⟨fun default => none e ⟨e, he, .inl ⟨rfl, default⟩⟩, fun d below => ?_⟩
        exact none d ⟨e, he, .inr below⟩

/-! Whole trees. -/

theorem writesTargets_iff :
    n.WritesTargets ↔ (∀ x, n.written? = some x → x.IsTarget) ∧
      Throughout (fun _ c => c.WritesTargets) n.positions := by
  constructor
  · intro h
    constructor
    · intro x hx
      have present : n.isPresent := by
        cases n with
        | absent => cases hx
        | _ => rfl
      exact h n (mem_subtrees.2 ⟨present, .inl rfl⟩) x hx
    · intro p c hc m hm
      have present : n.isPresent := by
        cases n with
        | absent => cases hc
        | _ => rfl
      exact h m (mem_subtrees.2 ⟨present, .inr ⟨p, c, hc, hm⟩⟩)
  · rintro ⟨here, below⟩ m hm
    obtain ⟨-, rfl | ⟨p, c, hc, hm⟩⟩ := mem_subtrees.1 hm
    · exact here
    · exact below p c hc m hm

/-- A node that writes nothing itself. -/
theorem WritesTargets.of (silent : n.written? = none)
    (children : Throughout (fun _ c => c.WritesTargets) n.positions) : n.WritesTargets :=
  writesTargets_iff.2 ⟨by simp [silent], children⟩

theorem WritesTargets.child (h : n.WritesTargets) {p : Position} (hc : (p, e) ∈ n.positions) :
    e.WritesTargets :=
  (writesTargets_iff.1 h).2 p e hc

/-! Nodes that rules put in write nothing. -/

theorem identifier_writesTargets (t : Token) (name : Text) : (identifier t name).WritesTargets :=
  .of rfl (by simp [positions])

theorem member_writesTargets {t : Token} {object key : Node} (computed optional : Bool)
    (ho : object.WritesTargets) (hk : key.WritesTargets) :
    (member t object key computed optional).WritesTargets :=
  .of rfl (by simpa [positions] using ⟨ho, hk⟩)

theorem path_writesTargets (spelling : Text) : (path spelling).WritesTargets := by
  have extend (e : Node) (names : List Text) (he : e.WritesTargets) :
      (names.foldl (fun e name => member {} e (identifier {} name) false false) e).WritesTargets := by
    induction names generalizing e with
    | nil => exact he
    | cons name names ih =>
        exact ih _ (member_writesTargets false false he (identifier_writesTargets _ _))
  unfold path
  split
  · exact identifier_writesTargets _ _
  · exact extend _ _ (identifier_writesTargets _ _)

theorem string_writesTargets (s : Text) : (string {} s []).WritesTargets :=
  .of rfl (by simp [positions])

theorem call_writesTargets {t : Token} {f : Node} {args : List Node} (optional : Bool)
    (hf : f.WritesTargets) (ha : ∀ a ∈ args, a.WritesTargets) :
    (call t f args optional).WritesTargets :=
  .of rfl (by simpa [positions] using ⟨hf, ha⟩)

theorem await_writesTargets {t : Token} (he : e.WritesTargets) : (await t e).WritesTargets :=
  .of rfl (by simpa [positions] using he)

theorem expressionStatement_writesTargets {t : Token} (he : e.WritesTargets) :
    (expressionStatement t e).WritesTargets :=
  .of rfl (by simpa [positions] using he)

theorem block_writesTargets {t : Token} {body : List Node} (h : ∀ s ∈ body, s.WritesTargets) :
    (block t body).WritesTargets :=
  .of rfl (by simpa [positions] using h)

theorem WritesTargets.statements {t : Token} {body : List Node} (h : (block t body).WritesTargets) :
    ∀ s ∈ body, s.WritesTargets :=
  fun _ hs => h.child (List.mem_map_of_mem hs)

theorem contextCall_writesTargets (method : String) {args : List Node}
    (h : ∀ a ∈ args, a.WritesTargets) : (contextCall o method args).WritesTargets :=
  call_writesTargets false
    (member_writesTargets false false (path_writesTargets _) (identifier_writesTargets _ _)) h

theorem yieldStatement_writesTargets (t : Token) : (yieldStatement o t).WritesTargets :=
  expressionStatement_writesTargets (await_writesTargets (contextCall_writesTargets _ (by simp)))

theorem declareStatement_writesTargets (t : Token) (v : Variable) :
    (declareStatement o t v).WritesTargets := by
  refine expressionStatement_writesTargets (contextCall_writesTargets _ fun a ha => ?_)
  obtain ⟨s, -, rfl⟩ := List.mem_map.1 ha
  exact string_writesTargets s

theorem guard_writesTargets (t : Token) (name : Text) :
    (Cooperate.guard o t name).WritesTargets := by
  have test : (binary t (identifier {} name) (txt "instanceof") (path o.interrupt)).WritesTargets :=
    .of rfl (by simpa [positions] using ⟨identifier_writesTargets _ _, path_writesTargets _⟩)
  have throws : (throwStatement t (identifier {} name)).WritesTargets :=
    .of rfl (by simpa [positions] using identifier_writesTargets _ _)
  have nothing : absent.WritesTargets := .of rfl (by simp [positions])
  exact .of rfl (by simpa [Cooperate.guard, positions] using ⟨test, throws, nothing⟩)

theorem loopBody_writesTargets (t : Token) (h : n.WritesTargets) :
    (loopBody o t n).result.WritesTargets := by
  have yields := yieldStatement_writesTargets (o := o) t
  simp only [loopBody, Logged.result_bind, Logged.result_pure]
  split
  · exact block_writesTargets (List.forall_mem_cons.2 ⟨yields, h.statements⟩)
  · exact block_writesTargets (List.forall_mem_singleton.2 yields)
  · exact block_writesTargets (List.forall_mem_singleton.2 yields)
  · exact block_writesTargets (List.forall_mem_cons.2 ⟨yields, List.forall_mem_singleton.2 h⟩)

theorem prepend_writesTargets (t : Token) (he : e.WritesTargets) (hn : n.WritesTargets) :
    (prepend t e n).WritesTargets := by
  unfold prepend
  split
  · exact block_writesTargets (List.forall_mem_cons.2 ⟨he, hn.statements⟩)
  · exact block_writesTargets (List.forall_mem_singleton.2 he)

theorem handler_writesTargets {t : Token} {param type body : Node} (hp : param.WritesTargets)
    (hT : type.WritesTargets) (hb : body.WritesTargets) :
    (handler o t param type body).result.WritesTargets := by
  have guarded (name : Text) := prepend_writesTargets t (guard_writesTargets (o := o) t name) hb
  unfold handler
  split
  · exact .of rfl (by simpa [positions] using ⟨identifier_writesTargets _ _, hT, guarded _⟩)
  · exact .of rfl (by simpa [positions] using ⟨hp, hT, guarded _⟩)
  · exact .of rfl (by simpa [positions] using ⟨hp, hT, hb⟩)

theorem route_writesTargets {target : Node} {r : Route} (hr : route? o target = some r)
    (h : target.WritesTargets) : r.receiver.WritesTargets := by
  obtain ⟨_, object, _, _, _, rfl, -, same | ⟨_, _, _, _, rfl, -⟩⟩ := route_receiver hr
  · exact same ▸ h.child (.head _)
  · exact (h.child (.head _)).child (.head _)

theorem writtenValue_writesTargets {t : Token} {operator : Text} {target value v : Node}
    (hv : writtenValue? t operator target value = some v) (ht : target.WritesTargets)
    (h : value.WritesTargets) : v.WritesTargets := by
  unfold writtenValue? at hv
  split at hv
  · exact Option.some.inj hv ▸ h
  · obtain ⟨op, -, rfl⟩ := Option.map_eq_some_iff.1 hv
    exact .of rfl (by simpa [positions] using ⟨ht, h⟩)

/-- A rule puts in nothing that is written to. -/
theorem applyRule_writesTargets (here : ∀ x, (n.applyRule o).written? = some x → x.IsTarget)
    (h : Throughout (fun _ c => c.WritesTargets) n.positions) : (n.applyRule o).WritesTargets := by
  cases n with
  | interfaceDeclaration t name bases members =>
      refine block_writesTargets fun s hs => ?_
      obtain ⟨v, -, rfl⟩ := List.mem_map.1 hs
      exact declareStatement_writesTargets t v
  | forStatement t init c u body =>
      simp only [positions, throughout_cons, throughout_nil, and_true] at h
      refine writesTargets_iff.2 ⟨here, ?_⟩
      simpa [applyRule, positions] using ⟨h.1, h.2.1, h.2.2.1, loopBody_writesTargets t h.2.2.2⟩
  | forIn t left right body | forOf t awaits left right body =>
      simp only [positions, throughout_cons, throughout_nil, and_true] at h
      refine writesTargets_iff.2 ⟨here, ?_⟩
      simpa [applyRule, positions] using ⟨h.1, h.2.1, loopBody_writesTargets t h.2.2⟩
  | whileStatement t c body =>
      simp only [positions, throughout_cons, throughout_nil, and_true] at h
      refine writesTargets_iff.2 ⟨here, ?_⟩
      simpa [applyRule, positions] using ⟨h.1, loopBody_writesTargets t h.2⟩
  | doWhile t body c =>
      simp only [positions, throughout_cons, throughout_nil, and_true] at h
      refine writesTargets_iff.2 ⟨here, ?_⟩
      simpa [applyRule, positions] using ⟨loopBody_writesTargets t h.1, h.2⟩
  | catchClause t p type body =>
      simp only [positions, throughout_cons, throughout_nil, and_true] at h
      exact handler_writesTargets h.1 h.2.1 h.2.2
  | call t f args optional =>
      simp only [positions, throughout_cons, throughout_each] at h
      refine await_writesTargets (call_writesTargets optional h.1 ?_)
      split
      · exact List.forall_mem_cons.2 ⟨path_writesTargets _, h.2⟩
      · exact h.2
  | assignment t operator target value =>
      simp only [positions, throughout_cons, throughout_nil, and_true] at h
      obtain plain | ⟨r, v, hr, hv, routed⟩ := managedAssignment_cases o t operator target value
      · rw [applyRule, plain] at here ⊢
        exact writesTargets_iff.2 ⟨here, by simpa [positions] using h⟩
      · rw [applyRule, routed]
        have access : (member {} r.receiver (identifier {} r.method) false false).WritesTargets :=
          member_writesTargets false false (route_writesTargets hr h.1) (identifier_writesTargets _ _)
        refine await_writesTargets (call_writesTargets false access ?_)
        exact List.forall_mem_cons.2 ⟨string_writesTargets _,
          List.forall_mem_singleton.2 (writtenValue_writesTargets hv h.1 h.2)⟩
  | _ => exact writesTargets_iff.2 ⟨here, h⟩

/-- What a node writes to is made cooperative, unless the write goes through a setter. -/
theorem Shaped.written_cooperative (h : n.Shaped) :
    (n.cooperative o).written? =
      if (writeRoute? o n).isSome then none else n.written?.map (cooperative o) := by
  have headed {left : Node} (h : left.Shaped) :
      (if (left.cooperative o).isExpression then some (left.cooperative o) else none) =
        (if left.isExpression then some left else none).map (cooperative o) := by
    have kept : (left.cooperative o).isExpression = left.isExpression := by
      rw [isExpression, cooperative_eq o h, category_applyRule, category_mapPositions, isExpression]
    rw [kept]
    split <;> rfl
  cases n with
  | assignment t operator target value =>
      cases routed : writeRoute? o (assignment t operator target value) with
      | none =>
          rw [cooperative_unrouted h routed]
          rfl
      | some r =>
          obtain ⟨v, -, called⟩ := cooperative_routed h routed
          rw [called]
          rfl
  | forIn t left right body | forOf t awaits left right body =>
      rw [cooperative_eq o h]
      exact headed (h.child ⟨_, .head _, rfl⟩)
  | catchClause t p type body =>
      rw [cooperative_eq o h]
      simp only [mapPositions, applyRule, handler]
      split <;> rfl
  | _ =>
      rw [cooperative_eq o h]
      rfl

/-- Cooperation keeps what is written to if what the values of the tree write to stays a target. -/
theorem Shaped.cooperative_writesTargets (h : n.Shaped) (valid : n.WritesTargets)
    (kept : ∀ m, n.HasValue m → ∀ x, m.written? = some x → (x.cooperative o).IsTarget) :
    (n.cooperative o).WritesTargets := by
  induction h with
  | @of n fits below ih =>
      have shaped : n.Shaped := .of fits below
      have written := shaped.written_cooperative (o := o)
      rw [cooperative_eq o shaped] at written ⊢
      refine applyRule_writesTargets (fun x hx => ?_) fun p c' hc' => ?_
      · rw [written] at hx
        split at hx
        · cases hx
        · obtain ⟨y, hy, rfl⟩ := Option.map_eq_some_iff.1 hx
          exact kept n .root y hy
      · rw [positions_mapPositions] at hc'
        obtain ⟨⟨q, c⟩, hc, heq⟩ := List.mem_map.1 hc'
        obtain ⟨rfl, rfl⟩ := Prod.mk.inj heq
        simp only [cooperativeAt]
        split
        · rename_i value
          exact ih q c hc (valid.child hc) fun m hm => kept m (HasChild.hasValue ⟨q, hc, value⟩ hm)
        · exact valid.child hc

/-- In the other direction, what the values of the tree write to is found in the cooperative tree. -/
theorem Shaped.written_of_cooperative (h : n.Shaped) (valid : (n.cooperative o).WritesTargets)
    {m x : Node} (hm : n.HasValue m) (hx : m.written? = some x) (noAccess : x.isMember = false) :
    (x.cooperative o).IsTarget := by
  have unrouted : writeRoute? o m = none := by
    cases m with
    | assignment =>
        obtain rfl := Option.some.inj hx
        rw [writeRoute?, route_of_not_isMember o noAccess, ite_self]
    | _ => rfl
  have written := (h.value hm).written_cooperative (o := o)
  rw [unrouted, hx] at written
  obtain ⟨lasting, access, key, present⟩ : (m.cooperative o).isLasting ∧ m.isMember = false ∧
      m.isPlainKey = false ∧ (m.cooperative o).isPresent := by
    rw [(h.value hm).isPresent_cooperative o]
    cases m with
    | assignment =>
        rw [cooperative_unrouted (h.value hm) unrouted]
        exact ⟨rfl, rfl, rfl, rfl⟩
    | forIn | forOf =>
        rw [cooperative_eq o (h.value hm)]
        exact ⟨rfl, rfl, rfl, rfl⟩
    | _ => cases hx
  have found := h.hasValue_lasting hm lasting access key
  exact valid _ ((h.cooperative_fitsIn o).1.mem_subtrees found present) _ written

end

end Node

/-- If only targets are written to in an accepted script, then only targets are written to in the
cooperative script, if and only if no default in what is written to goes through a setter. -/
theorem Script.parse_writesTargets_iff (o : Options) {source : Source} {program : Node}
    (h : Script.parse source = .ok program) (valid : program.WritesTargets) :
    (program.cooperate o).result.WritesTargets ↔
      ∀ m x d, program.HasValue m → m.written? = some x → x.HasDefault d →
        Node.writeRoute? o d = none := by
  have shaped := Script.parse_shaped h
  have target {m x : Node} (hm : program.HasValue m) (hx : m.written? = some x) :
      x.IsTarget ∧ x.Shaped := by
    have present : m.isPresent := by
      cases m with
      | absent => cases hx
      | _ => rfl
    have found : m.HasValue x := by
      cases m with
      | assignment => exact Option.some.inj hx ▸ .child .root ⟨_, .head _, rfl⟩
      | forIn | forOf =>
          simp only [Node.written?] at hx
          split at hx
          · exact Option.some.inj hx ▸ .child .root ⟨_, .head _, rfl⟩
          · cases hx
      | _ => cases hx
    exact ⟨valid m (shaped.mem_subtrees hm present) x hx, shaped.value (hm.trans found)⟩
  constructor
  · intro kept m x d hm hx default
    obtain ⟨isTarget, shaped'⟩ := target hm hx
    have stays := shaped.written_of_cooperative kept hm hx default.isMember_eq
    exact (isTarget.cooperative_iff shaped').1 stays d default
  · intro none
    refine shaped.cooperative_writesTargets valid fun m hm x hx => ?_
    obtain ⟨isTarget, shaped'⟩ := target hm hx
    exact (isTarget.cooperative_iff shaped').2 fun d default => none m x d hm hx default

/-- A default for a property, in a statement. -/
def Node.defaulted (t u v w x y z a b : Token) (property : Text) : Node :=
  .expressionStatement t (.assignment u (txt "=") (.array v [.assignment w (txt "=")
    (.member x (.identifier y (txt "a")) (.identifier z property) false false) (.number a (txt "1"))])
    (.identifier b (txt "b")))

theorem Node.defaulted_writesTargets (t u v w x y z a b : Token) (property : Text) :
    (Node.program [defaulted t u v w x y z a b property]).WritesTargets := by
  have target (value : Node) : (Node.array v [.assignment w (txt "=")
      (.member x (.identifier y (txt "a")) (.identifier z property) false false) value]).IsTarget :=
    .apart rfl (by simp [elements, isPresent, bound, IsTarget.access])
  simp [defaulted, WritesTargets, subtrees_eq, positions, each, written?, isPresent, IsTarget.access,
    target]

/-- A default without a setter. -/
theorem Script.parse_writesTargets_default :
    ∃ t u v w x y z a b, Script.parse (.ofText (txt "[a.k = 1] = b")) =
        .ok (.program [Node.defaulted t u v w x y z a b (txt "k")]) ∧
      (Node.program [Node.defaulted t u v w x y z a b (txt "k")]).WritesTargets ∧
      ((Node.program [Node.defaulted t u v w x y z a b (txt "k")]).cooperate
        .default).result.WritesTargets := by
  obtain ⟨t, u, v, w, x, y, z, a, b, parsed⟩ : ∃ t u v w x y z a b,
      Script.parse (.ofText (txt "[a.k = 1] = b")) =
        .ok (.program [Node.defaulted t u v w x y z a b (txt "k")]) :=
    ⟨_, _, _, _, _, _, _, _, _, rfl⟩
  have valid := Node.defaulted_writesTargets t u v w x y z a b (txt "k")
  refine ⟨t, u, v, w, x, y, z, a, b, parsed, valid,
    (Script.parse_writesTargets_iff .default parsed valid).2 fun m target d hm hx default => ?_⟩
  have access (o k) : ¬Node.HasDefault (.member x o k false false) d := fun h => by
    cases h.isMember_eq
  rw [← Node.mem_values] at hm
  simp [Node.defaulted, Node.values_eq, Node.positions, Node.each, Node.Position.isValue] at hm
  obtain rfl | rfl | rfl | rfl | rfl | rfl | rfl | rfl | rfl | rfl := hm
  all_goals cases hx
  · exact absurd default (access _ _)
  · obtain ⟨e, he, ⟨rfl, -⟩ | default⟩ := (Node.hasDefault_apart rfl).1 default <;>
      obtain rfl := List.mem_singleton.1 he
    · rfl
    · exact absurd default (access _ _)

/-- A default with a setter is made a call that is waited for. -/
theorem Script.default_not_target :
    ∃ t u v w x y z a b, Script.parse (.ofText (txt "[a.x = 1] = b")) =
        .ok (.program [Node.defaulted t u v w x y z a b (txt "x")]) ∧
      (Node.program [Node.defaulted t u v w x y z a b (txt "x")]).WritesTargets ∧
      ¬((Node.program [Node.defaulted t u v w x y z a b (txt "x")]).cooperate
        .default).result.WritesTargets := by
  refine ⟨_, _, _, _, _, _, _, _, _, rfl, Node.defaulted_writesTargets _ _ _ _ _ _ _ _ _ _, ?_⟩
  intro kept
  have written := ((kept.child (.head _)).child (.head _))
  have target := (Node.writesTargets_iff.1 written).1 _ rfl
  have element := (Node.isTarget_apart rfl).1 target _ (.head _)
  cases element with
  | apart literal => cases literal

end CoScript
