import CoScript.Proofs.Cooperate.Shape

/-!
What lasts through cooperation. A rule takes a body apart to put a statement in front, it fills a place
that is empty, and otherwise leaves what is below the node where it is. Only a write by way of a setter
leaves something out: the access that it replaces, and the name of the property.
-/
namespace CoScript

open Cooperate

namespace Node

/-- Whether a node is an assignment. -/
def isAssignment : Node → Bool
  | assignment _ _ _ _ => true
  | _ => false

/-- Whether a node lasts: it is no block that a rule takes apart and no place that a rule fills. -/
def isLasting : Node → Bool
  | absent | emptyStatement _ | block _ _ => false
  | _ => true

section
variable {o : Options} {n c m : Node} {t : Token}

theorem HasChild.hasValue (hc : n.HasChild c) (hm : c.HasValue m) : n.HasValue m :=
  hasValue_iff.2 (.inr ⟨c, hc, hm⟩)

theorem hasChild_block {body : List Node} : (block t body).HasChild c ↔ c ∈ body := by
  constructor
  · rintro ⟨p, hp, -⟩
    obtain ⟨s, hs, heq⟩ := List.mem_map.1 hp
    exact (Prod.mk.inj heq).2 ▸ hs
  · exact fun hc => ⟨.statement, List.mem_map_of_mem hc, rfl⟩

theorem HasValue.eq_of_leaf (h : n.HasValue m) (leaf : n.positions = []) : m = n := by
  obtain same | ⟨_, ⟨_, hp, -⟩, -⟩ := hasValue_iff.1 h
  · exact same
  · rw [leaf] at hp
    cases hp

/-- What lasts in a block is in one of its statements. -/
theorem HasValue.of_block {body : List Node} (h : (block t body).HasValue m)
    (lasting : m.isLasting) : ∃ s ∈ body, s.HasValue m := by
  obtain rfl | ⟨s, hs, hm⟩ := hasValue_iff.1 h
  · cases lasting
  · exact ⟨s, hasChild_block.1 hs, hm⟩

theorem HasValue.to_block {body : List Node} {s : Node} (hs : s ∈ body) (hm : s.HasValue m) :
    (block t body).HasValue m :=
  (hasChild_block.2 hs).hasValue hm

theorem HasValue.loopBody (h : n.HasValue m) (lasting : m.isLasting) :
    (loopBody o t n).result.HasValue m := by
  simp only [Cooperate.loopBody, Logged.result_bind, Logged.result_pure]
  split
  · obtain ⟨s, hs, hm⟩ := h.of_block lasting
    exact .to_block (List.mem_cons_of_mem _ hs) hm
  · cases h.eq_of_leaf rfl ▸ lasting
  · cases h.eq_of_leaf rfl ▸ lasting
  · exact .to_block (List.mem_cons_of_mem _ List.mem_cons_self) h

theorem HasValue.prepend {statement : Node} (h : n.HasValue m) (hn : n.isBlock)
    (lasting : m.isLasting) : (prepend t statement n).HasValue m := by
  cases n with
  | block =>
      obtain ⟨s, hs, hm⟩ := h.of_block lasting
      exact .to_block (List.mem_cons_of_mem _ hs) hm
  | _ => cases hn

theorem HasValue.handler {p type body : Node} (hb : body.isBlock)
    (hc : (catchClause t p type body).HasChild c) (hm : c.HasValue m) (lasting : m.isLasting) :
    (handler o t p type body).result.HasValue m := by
  obtain ⟨q, hq, value⟩ := hc
  simp only [positions, List.mem_cons, Prod.mk.injEq, List.not_mem_nil, or_false] at hq
  unfold Cooperate.handler
  obtain ⟨rfl, rfl⟩ | ⟨rfl, rfl⟩ | ⟨rfl, rfl⟩ := hq
  · split
    · cases hm.eq_of_leaf rfl ▸ lasting
    · exact HasChild.hasValue ⟨.optional .caught, .head _, value⟩ hm
    · exact HasChild.hasValue ⟨.optional .caught, .head _, value⟩ hm
  · cases value
  · split
    · exact HasChild.hasValue ⟨.block, .tail _ (.tail _ (.head _)), rfl⟩ (hm.prepend hb lasting)
    · exact HasChild.hasValue ⟨.block, .tail _ (.tail _ (.head _)), rfl⟩ (hm.prepend hb lasting)
    · exact HasChild.hasValue ⟨.block, .tail _ (.tail _ (.head _)), rfl⟩ hm

/-- A rule keeps what lasts below a node, unless it is a write. -/
theorem HasValue.applyRule (h : n.Shaped) (noWrite : n.isAssignment = false) (hc : n.HasChild c)
    (hm : c.HasValue m) (lasting : m.isLasting) : (n.applyRule o).HasValue m := by
  have fits := h.childrenFit
  obtain ⟨p, hp, value⟩ := id hc
  cases n with
  | interfaceDeclaration t name bases members =>
      simp only [positions, each, List.mem_cons, List.mem_append, List.mem_map, Prod.mk.injEq] at hp
      obtain (⟨rfl, rfl⟩ | ⟨_, -, rfl, rfl⟩) | ⟨_, -, rfl, rfl⟩ := hp
      all_goals cases value
  | forStatement t init c u body =>
      simp only [positions, List.mem_cons, Prod.mk.injEq, List.not_mem_nil, or_false] at hp
      obtain ⟨rfl, rfl⟩ | ⟨rfl, rfl⟩ | ⟨rfl, rfl⟩ | ⟨rfl, rfl⟩ := hp
      · exact HasChild.hasValue ⟨_, .head _, value⟩ hm
      · exact HasChild.hasValue ⟨_, .tail _ (.head _), value⟩ hm
      · exact HasChild.hasValue ⟨_, .tail _ (.tail _ (.head _)), value⟩ hm
      · exact HasChild.hasValue ⟨.body, .tail _ (.tail _ (.tail _ (.head _))), rfl⟩
          (hm.loopBody lasting)
  | forIn t left right body | forOf t awaits left right body =>
      simp only [positions, List.mem_cons, Prod.mk.injEq, List.not_mem_nil, or_false] at hp
      obtain ⟨rfl, rfl⟩ | ⟨rfl, rfl⟩ | ⟨rfl, rfl⟩ := hp
      · exact HasChild.hasValue ⟨_, .head _, value⟩ hm
      · exact HasChild.hasValue ⟨_, .tail _ (.head _), value⟩ hm
      · exact HasChild.hasValue ⟨.body, .tail _ (.tail _ (.head _)), rfl⟩ (hm.loopBody lasting)
  | whileStatement t c body =>
      simp only [positions, List.mem_cons, Prod.mk.injEq, List.not_mem_nil, or_false] at hp
      obtain ⟨rfl, rfl⟩ | ⟨rfl, rfl⟩ := hp
      · exact HasChild.hasValue ⟨_, .head _, value⟩ hm
      · exact HasChild.hasValue ⟨.body, .tail _ (.head _), rfl⟩ (hm.loopBody lasting)
  | doWhile t body c =>
      simp only [positions, List.mem_cons, Prod.mk.injEq, List.not_mem_nil, or_false] at hp
      obtain ⟨rfl, rfl⟩ | ⟨rfl, rfl⟩ := hp
      · exact HasChild.hasValue ⟨.body, .head _, rfl⟩ (hm.loopBody lasting)
      · exact HasChild.hasValue ⟨_, .tail _ (.head _), value⟩ hm
  | catchClause t p type body =>
      simp only [ChildrenFit, positions, fit_cons] at fits
      exact HasValue.handler fits.2.2.1.admitted hc hm lasting
  | function | arrow => exact HasChild.hasValue ⟨p, hp, value⟩ hm
  | call t f args optional =>
      have called : (await t (call t f (if receivesContext o f then path o.context :: args else args)
          optional)).HasChild _ := ⟨.expression, .head _, rfl⟩
      refine called.hasValue (HasChild.hasValue ⟨p, ?_, value⟩ hm)
      simp only [positions, each, List.mem_cons] at hp ⊢
      refine hp.imp_right fun hp => ?_
      split
      · exact .tail _ hp
      · exact hp
  | assignment => cases noWrite
  | _ => exact hc.hasValue hm

theorem Shaped.hasChild_cooperative (h : n.Shaped) (hc : n.HasChild c) :
    (n.mapPositions (cooperativeAt o)).HasChild (c.cooperative o) := by
  obtain ⟨p, hp, value⟩ := id hc
  refine ⟨p, ?_, ?_⟩
  · rw [positions_mapPositions]
    exact List.mem_map.2 ⟨(p, c), hp, by simp [cooperativeAt, value]⟩
  · rw [Position.isValue_congr ((h.child hc).isPattern_cooperative o), value]

/-- What lasts below a child is found below the node after cooperation, unless it is a write by way of
a setter. -/
theorem Shaped.hasValue_cooperative (h : n.Shaped) (unrouted : writeRoute? o n = none)
    (hc : n.HasChild c) (hm : (c.cooperative o).HasValue m) (lasting : m.isLasting) :
    (n.cooperative o).HasValue m := by
  cases write : n.isAssignment with
  | false =>
      have kept : (n.mapPositions (cooperativeAt o)).isAssignment = false := by
        cases n <;> first | rfl | cases write
      rw [cooperative_eq o h]
      exact HasValue.applyRule (h.cooperative_children o) kept (h.hasChild_cooperative hc) hm lasting
  | true =>
      cases n with
      | assignment t operator target value =>
          rw [cooperative_unrouted h unrouted]
          obtain ⟨p, hp, -⟩ := hc
          simp only [positions, List.mem_cons, Prod.mk.injEq, List.not_mem_nil, or_false] at hp
          obtain ⟨-, rfl⟩ | ⟨-, rfl⟩ := hp
          · exact HasChild.hasValue ⟨.expression, .head _, rfl⟩ hm
          · exact HasChild.hasValue ⟨.expression, .tail _ (.head _), rfl⟩ hm
      | _ => cases write

/-- The access to the setter, the receiver and the value are part of the call of a setter. -/
theorem hasValue_routedCall (r : Route) (t : Token) (v : Node) :
    (await t (r.call t v)).HasValue r.access ∧ (await t (r.call t v)).HasValue r.receiver ∧
      (await t (r.call t v)).HasValue v := by
  have called : (await t (r.call t v)).HasValue (r.call t v) :=
    .child .root ⟨.expression, .head _, rfl⟩
  have access : (await t (r.call t v)).HasValue r.access :=
    .child called ⟨.expression, .head _, rfl⟩
  exact ⟨access, .child access ⟨.expression, .head _, rfl⟩,
    .child called ⟨.expression, .tail _ (.tail _ (.head _)), rfl⟩⟩

theorem hasValue_written {operator : Text} {target value v : Node}
    (h : writtenValue? t operator target value = some v) :
    v.HasValue value ∧ (operator ≠ txt "=" → v.HasValue target) := by
  unfold writtenValue? at h
  split at h
  · obtain rfl := Option.some.inj h
    exact ⟨.root, fun compound => absurd ‹_› compound⟩
  · obtain ⟨op, -, rfl⟩ := Option.map_eq_some_iff.1 h
    exact ⟨.child .root ⟨.expression, .tail _ (.head _), rfl⟩,
      fun _ => .child .root ⟨.expression, .head _, rfl⟩⟩

/-- What is written to keeps everything in the receiver but accesses and names of properties. -/
theorem HasValue.of_target {r : Route} (h : (n.cooperative o).HasValue m) (shaped : n.Shaped)
    (hr : route? o n = some r) (noAccess : m.isMember = false) (noKey : m.isPlainKey = false) :
    (r.receiver.cooperative o).HasValue m := by
  -- One access is passed at a time: below it is the object, or a key that is a name.
  have pass {t : Token} {whole key : Node} {computed optional : Bool}
      (shaped : (member t whole key computed optional).Shaped)
      (known : (member t whole key computed optional).staticName?.isSome)
      (h : ((member t whole key computed optional).cooperative o).HasValue m) :
      (whole.cooperative o).HasValue m := by
    have plain := isPlainKey_of_staticName known
    rw [cooperative_member o shaped, cooperative_of_isPlainKey o plain] at h
    obtain rfl | ⟨c, ⟨p, hp, -⟩, hm⟩ := hasValue_iff.1 h
    · cases noAccess
    simp only [positions, List.mem_cons, Prod.mk.injEq, List.not_mem_nil, or_false] at hp
    obtain ⟨-, rfl⟩ | ⟨-, rfl⟩ := hp
    · exact hm
    · have leaf : c.positions = [] := by
        cases c with
        | identifier | privateName | string | number => rfl
        | _ => cases plain
      rw [hm.eq_of_leaf leaf, plain] at noKey
      cases noKey
  obtain ⟨t, object, key, computed, optional, rfl, known, same | ⟨u, k, c, q, rfl, known'⟩⟩ :=
    route_receiver hr
  · exact same ▸ pass shaped known h
  · exact pass (shaped.child ⟨.expression, .head _, rfl⟩) known' (pass shaped known h)

/-- What neither is an access nor names a property is found again, also in what is written to. -/
theorem Shaped.hasValue_lasting {root : Node} (h : root.Shaped) (hm : root.HasValue m)
    (lasting : (m.cooperative o).isLasting) (noAccess : m.isMember = false)
    (noKey : m.isPlainKey = false) : (root.cooperative o).HasValue (m.cooperative o) := by
  have shaped := h.value hm
  induction h with
  | @of root fits below ih =>
      obtain rfl | ⟨c, hc, hm⟩ := hasValue_iff.1 hm
      · exact .root
      have root_shaped : root.Shaped := .of fits below
      obtain ⟨p, hp, -⟩ := id hc
      have inner := ih p c hp hm
      cases routed : writeRoute? o root with
      | none => exact root_shaped.hasValue_cooperative routed hc inner lasting
      | some r =>
          obtain ⟨t, operator, target, value, rfl, hr, -⟩ := writeRoute_eq_some routed
          obtain ⟨v, hv, written⟩ := cooperative_routed root_shaped routed
          obtain ⟨-, received, valued⟩ := hasValue_routedCall (r.map (cooperative o)) t v
          rw [written]
          simp only [positions, List.mem_cons, Prod.mk.injEq, List.not_mem_nil, or_false] at hp
          obtain ⟨-, rfl⟩ | ⟨-, rfl⟩ := hp
          · exact received.trans (inner.of_target (root_shaped.child hc) hr
              ((shaped.isMember_cooperative o).trans noAccess)
              ((shaped.isPlainKey_cooperative o).trans noKey))
          · exact (valued.trans (hasValue_written hv).1).trans inner

end

end Node

end CoScript
