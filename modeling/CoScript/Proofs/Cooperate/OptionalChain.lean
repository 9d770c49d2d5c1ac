import CoScript.Proofs.Cooperate.Chain
import CoScript.Proofs.Cooperate.Kept
import CoScript.Proofs.Parse.StatementShape

/-!
Optional chains of a script after cooperation. Every access and every call of a script is found again
in the cooperative script, up to accesses that writes leave out. It is still skipped when an optional
link before it finds nothing, unless there is a call in between.
-/
namespace CoScript

open Cooperate

namespace Node

/-- A node of a tree is found after cooperation as the counterpart of a node: of itself or, if it is
the target of a write by way of a setter, of the access to the setter. -/
inductive Survives (o : Options) : (root n v : Node) → Prop
  | here (n : Node) : Survives o n n n
  | inside {root c n v : Node} (unrouted : writeRoute? o root = none) (hc : root.HasChild c)
      (h : Survives o c n v) : Survives o root n v
  | target {t : Token} {operator : Text} {target value : Node} {r : Route}
      (routed : writeRoute? o (assignment t operator target value) = some r) :
      Survives o (assignment t operator target value) target r.access
  | receiver {t : Token} {operator : Text} {target value n v : Node} {r : Route}
      (routed : writeRoute? o (assignment t operator target value) = some r)
      (h : Survives o r.receiver n v) : Survives o (assignment t operator target value) n v
  | value {t : Token} {operator : Text} {target value n v : Node} {r : Route}
      (routed : writeRoute? o (assignment t operator target value) = some r)
      (h : Survives o value n v) : Survives o (assignment t operator target value) n v
  /-- A compound assignment reads its target. -/
  | read {t : Token} {operator : Text} {target value n v : Node} {r : Route}
      (routed : writeRoute? o (assignment t operator target value) = some r)
      (compound : operator ≠ txt "=") (h : Survives o target n v) :
      Survives o (assignment t operator target value) n v

/-- A node that a write leaves out: the access to the variables or effects that are written to. -/
def LeftOut (o : Options) (root n : Node) : Prop :=
  ∃ t target value r, root.HasValue (assignment t (txt "=") target value) ∧
    writeRoute? o (assignment t (txt "=") target value) = some r ∧ target.next? = some n ∧
    n.next? = some r.receiver

theorem Survives.self_or_access {o : Options} {root n v : Node} (h : Survives o root n v)
    (shaped : root.Shaped) : n.Shaped ∧ (v = n ∨ ∃ r, route? o n = some r ∧ v = r.access) := by
  have parts {t : Token} {operator : Text} {target value : Node}
      (h : (assignment t operator target value).Shaped) :
      target.FitsIn .expression ∧ value.FitsIn .expression := by
    have fits := h.childrenFit
    simpa [ChildrenFit, positions] using fits
  induction h with
  | here n => exact ⟨shaped, .inl rfl⟩
  | inside unrouted hc _ ih => exact ih (shaped.child hc)
  | target routed =>
      obtain ⟨_, _, _, _, ⟨⟩, hr, -⟩ := writeRoute_eq_some routed
      exact ⟨(parts shaped).1.shaped, .inr ⟨_, hr, rfl⟩⟩
  | receiver routed _ ih =>
      obtain ⟨_, _, _, _, ⟨⟩, hr, -⟩ := writeRoute_eq_some routed
      exact ih (route_receiver_fitsIn hr (parts shaped).1).shaped
  | value routed _ ih => exact ih (parts shaped).2.shaped
  | read routed compound _ ih => exact ih (parts shaped).1.shaped

/-- A chain is kept after cooperation exactly as far as it has no call in it and is not left out. -/
theorem Survives.mem_spine_iff {o : Options} {root n v l : Node} (h : Survives o root n v)
    (shaped : root.Shaped) (hl : l ∈ n.spine) (optional : l.isOptional) :
    counterpart o l ∈ (counterpart o v).spine ↔ l ∈ n.unbroken ∧ l ∈ v.spine := by
  obtain ⟨here, rfl | ⟨r, hr, rfl⟩⟩ := h.self_or_access shaped
  · rw [here.mem_spine_counterpart o hl optional, and_iff_left hl]
  · exact here.mem_spine_access hr hl optional

/-- A key that gives a name is not part of a chain. -/
theorem Survives.of_isPlainKey {o : Options} {key n v : Node} (h : Survives o key n v)
    (plain : key.isPlainKey) : n.next? = none := by
  cases key with
  | identifier | privateName | string | number =>
      cases h with
      | here => rfl
      | inside _ hc _ =>
          obtain ⟨p, hp, -⟩ := hc
          cases hp
  | _ => cases plain

theorem hasChild_member {t : Token} {whole key c : Node} {computed optional : Bool}
    (h : (member t whole key computed optional).HasChild c) : c = whole ∨ c = key := by
  obtain ⟨p, hp, -⟩ := h
  simp only [positions, List.mem_cons, Prod.mk.injEq, List.not_mem_nil, or_false] at hp
  exact hp.imp And.right And.right

/-- The links of a target survive, except for the access to variables or effects. -/
theorem Survives.of_target {o : Options} {t : Token} {operator : Text} {target value n v x : Node}
    {r : Route} (h : Survives o target n v) (link : n.next? = some x)
    (routed : writeRoute? o (assignment t operator target value) = some r) :
    (∃ v, Survives o (assignment t operator target value) n v) ∨
      LeftOut o (assignment t operator target value) n := by
  obtain ⟨_, _, _, _, ⟨⟩, hr, -⟩ := writeRoute_eq_some routed
  by_cases compound : operator ≠ txt "="
  · exact .inl ⟨v, .read routed compound h⟩
  obtain rfl := Decidable.not_not.1 compound
  have noKey {key : Node} (plain : key.isPlainKey) (h : Survives o key n v) : False := by
    rw [h.of_isPlainKey plain] at link
    cases link
  obtain ⟨u, whole, key, computed, optional, rfl, known, received⟩ := route_receiver hr
  cases h with
  | here => exact .inl ⟨_, .target routed⟩
  | inside _ hc h =>
      obtain rfl | rfl := (hasChild_member hc).symm
      · exact (noKey (isPlainKey_of_staticName known) h).elim
      obtain same | ⟨_, _, _, _, rfl, known⟩ := received
      · exact .inl ⟨v, .receiver routed (same ▸ h)⟩
      cases h with
      | here => exact .inr ⟨_, _, _, _, .root, routed, rfl, rfl⟩
      | inside _ hc h =>
          obtain rfl | rfl := hasChild_member hc
          · exact .inl ⟨v, .receiver routed h⟩
          · exact (noKey (isPlainKey_of_staticName known) h).elim

theorem LeftOut.of_child {o : Options} {root c n : Node} (hc : root.HasChild c)
    (h : LeftOut o c n) : LeftOut o root n := by
  obtain ⟨t, target, value, r, hv, rest⟩ := h
  exact ⟨t, target, value, r, hasValue_iff.2 (.inr ⟨c, hc, hv⟩), rest⟩

/-- Every access and every call survives, except for accesses that a write leaves out. -/
theorem Shaped.survives_or_leftOut (o : Options) {root n x : Node} (h : root.Shaped)
    (hn : root.HasValue n) (link : n.next? = some x) :
    (∃ v, Survives o root n v) ∨ LeftOut o root n := by
  induction h with
  | @of root fits below ih =>
      obtain rfl | ⟨c, hc, hm⟩ := hasValue_iff.1 hn
      · exact .inl ⟨n, .here n⟩
      obtain ⟨p, hp, -⟩ := id hc
      obtain out | ⟨v, hv⟩ := (ih p c hp hm).symm
      · exact .inr (out.of_child hc)
      cases routed : writeRoute? o root with
      | none => exact .inl ⟨v, .inside routed hc hv⟩
      | some r =>
          obtain ⟨t, operator, target, value, rfl, -⟩ := writeRoute_eq_some routed
          simp only [positions, List.mem_cons, Prod.mk.injEq, List.not_mem_nil, or_false] at hp
          obtain ⟨-, rfl⟩ | ⟨-, rfl⟩ := hp
          · exact hv.of_target link routed
          · exact .inl ⟨v, .value routed hv⟩

/-! Counterparts are part of the cooperative script. -/

section
variable {o : Options} {n x : Node}

theorem isLasting_of_next (h : n.next? = some x) : n.isLasting := by
  cases n with
  | member | call => rfl
  | _ => cases h

theorem counterpart_access {r : Route} (h : r.access.Shaped) :
    counterpart o r.access = (r.map (cooperative o)).access := by
  rw [counterpart_of_not_isCall o rfl]
  exact cooperative_member o h

/-- What a node survives as is part of the cooperative script. -/
theorem Survives.hasValue {root v : Node} (h : Survives o root n v) (shaped : root.Shaped)
    (link : n.next? = some x) : (root.cooperative o).HasValue (counterpart o v) := by
  induction h with
  | here n =>
      cases call : n.isCall with
      | false =>
          rw [counterpart_of_not_isCall o call]
          exact .root
      | true =>
          obtain ⟨t, heq⟩ := shaped.cooperative_of_isCall o call
          rw [heq]
          exact .child .root ⟨.expression, .head _, rfl⟩
  | @inside root c n v unrouted hc h ih =>
      have links : ∃ y, (counterpart o v).next? = some y := by
        obtain ⟨here, rfl | ⟨r, hr, rfl⟩⟩ := h.self_or_access (shaped.child hc)
        · exact ⟨_, (here.counterpart_of_next o link).1⟩
        · exact ⟨_, ((route_access_shaped here hr).counterpart_of_next o rfl).1⟩
      obtain ⟨y, hy⟩ := links
      exact shaped.hasValue_cooperative unrouted hc (ih (shaped.child hc) link) (isLasting_of_next hy)
  | target routed =>
      obtain ⟨here, -⟩ := (Survives.target routed).self_or_access shaped
      obtain ⟨_, _, _, _, ⟨⟩, hr, -⟩ := writeRoute_eq_some routed
      obtain ⟨w, -, heq⟩ := cooperative_routed shaped routed
      rw [heq, counterpart_access (route_access_shaped here hr)]
      exact (hasValue_routedCall _ _ w).1
  | receiver routed _ ih =>
      obtain ⟨here, -⟩ := (Survives.target routed).self_or_access shaped
      obtain ⟨_, _, _, _, ⟨⟩, hr, -⟩ := writeRoute_eq_some routed
      obtain ⟨w, -, heq⟩ := cooperative_routed shaped routed
      rw [heq]
      exact (hasValue_routedCall _ _ w).2.1.trans (ih ((route_access_shaped here hr).next rfl) link)
  | value routed _ ih =>
      obtain ⟨w, hw, heq⟩ := cooperative_routed shaped routed
      rw [heq]
      refine ((hasValue_routedCall _ _ w).2.2.trans (hasValue_written hw).1).trans (ih ?_ link)
      exact shaped.child ⟨.expression, .tail _ (.head _), rfl⟩
  | read routed compound _ ih =>
      obtain ⟨w, hw, heq⟩ := cooperative_routed shaped routed
      rw [heq]
      refine ((hasValue_routedCall _ _ w).2.2.trans ((hasValue_written hw).2 compound)).trans
        (ih ?_ link)
      exact shaped.child ⟨.expression, .head _, rfl⟩

end

end Node

/-- In a script that is accepted, every access and every call is found again after cooperation, except
for accesses that writes leave out. There it still reaches an optional link of its chain exactly if
there is no call in between and the link is not left out. -/
theorem Script.optional_link_reached_iff (o : Options) {source : Source} {program : Node}
    (h : Script.parse source = .ok program) :
    (∀ n x, program.HasValue n → n.next? = some x →
      (∃ v, Node.Survives o program n v) ∨ Node.LeftOut o program n) ∧
    ∀ n v l, Node.Survives o program n v → l ∈ n.spine → l.isOptional →
      (program.cooperate o).result.HasValue (Node.counterpart o v) ∧
      (Node.counterpart o l ∈ (Node.counterpart o v).spine ↔ l ∈ n.unbroken ∧ l ∈ v.spine) := by
  have shaped := Script.parse_shaped h
  refine ⟨fun n x hn link => shaped.survives_or_leftOut o hn link, ?_⟩
  intro n v l hv hl optional
  have link : ∃ x, n.next? = some x := by
    cases hn : n.next? with
    | some x => exact ⟨x, rfl⟩
    | none =>
        rw [Node.spine_of_no_next hn, List.mem_singleton] at hl
        exact hn ▸ Node.next_of_isOptional (hl ▸ optional)
  obtain ⟨x, hx⟩ := link
  exact ⟨hv.hasValue shaped hx, hv.mem_spine_iff shaped hl optional⟩

/-- A call after an optional link still reaches it: it is the call that is waited for. -/
theorem Script.optional_link_reached_call :
    ∃ t e l, Script.parse (.ofText (txt "a?.b.c()")) = .ok (.program [.expressionStatement t e]) ∧
      l ∈ e.spine ∧ l.isOptional ∧
      Node.counterpart .default l ∈ (Node.counterpart .default e).spine := by
  have parsed : Script.parse (.ofText (txt "a?.b.c()")) = .ok _ := rfl
  refine ⟨_, _, _, parsed, .tail _ (.tail _ (.head _)), rfl, ?_⟩
  have reached := (Script.optional_link_reached_iff .default parsed).2 _ _ _
    (.inside rfl ⟨.statement, .head _, rfl⟩ (.inside rfl ⟨.expression, .head _, rfl⟩ (.here _)))
    (.tail _ (.tail _ (.head _))) rfl
  exact reached.2.2 ⟨.tail _ (.tail _ (.head _)), .tail _ (.tail _ (.head _))⟩

/-- An access after a call does not reach the optional link before the call any more. -/
theorem Script.optional_link_lost :
    ∃ t e l, Script.parse (.ofText (txt "a?.b().c")) = .ok (.program [.expressionStatement t e]) ∧
      l ∈ e.spine ∧ l.isOptional ∧
      ((Node.program [.expressionStatement t e]).cooperate .default).result =
        .program [.expressionStatement t (Node.counterpart .default e)] ∧
      (Node.counterpart .default e).spine.any Node.isOptional = false :=
  ⟨_, _, _, rfl, .tail _ (.tail _ (.head _)), rfl, rfl, rfl⟩

end CoScript
