import CoScript.Proofs.Cooperate.Shape

/-!
Chains of accesses and calls. A chain is followed from its end to its start, through what is accessed
or called. Waiting for a call ends the chain that goes on after it, so of a chain only the part after
the last call stays in one piece, except for what the access to a setter leaves out.
-/
namespace CoScript

open Cooperate

namespace Node

/-- What a node continues in a chain: the object of an access or the function of a call. -/
def next? : Node → Option Node
  | member _ whole _ _ _ => some whole
  | call _ f _ _ => some f
  | _ => none

/-- Whether a node is skipped when what it continues is missing. -/
def isOptional : Node → Bool
  | member _ _ _ _ optional | call _ _ _ optional => optional
  | _ => false

/-- The chain that ends with a node, from the end to the start. -/
def spine : Node → List Node
  | member t whole key computed optional => member t whole key computed optional :: whole.spine
  | call t f args optional => call t f args optional :: f.spine
  | n => [n]

/-- The part of a chain that has no call before its end. -/
def unbroken : Node → List Node
  | member t whole key computed optional =>
    member t whole key computed optional :: if whole.isCall then [] else whole.unbroken
  | call t f args optional => call t f args optional :: if f.isCall then [] else f.unbroken
  | n => [n]

section
variable {n x l : Node}

theorem spine_of_next (h : n.next? = some x) : n.spine = n :: x.spine := by
  cases n with
  | member | call => rw [spine, Option.some.inj h]
  | _ => cases h

theorem unbroken_of_next (h : n.next? = some x) :
    n.unbroken = n :: if x.isCall then [] else x.unbroken := by
  cases n with
  | member | call => rw [unbroken, Option.some.inj h]
  | _ => cases h

theorem spine_of_no_next (h : n.next? = none) : n.spine = [n] := by
  cases n with
  | member | call => cases h
  | _ => rfl

theorem unbroken_of_no_next (h : n.next? = none) : n.unbroken = [n] := by
  cases n with
  | member | call => cases h
  | _ => rfl

theorem mem_spine_self (n : Node) : n ∈ n.spine := by
  cases h : n.next? with
  | none => simp [spine_of_no_next h]
  | some x => simp [spine_of_next h]

theorem mem_unbroken_self (n : Node) : n ∈ n.unbroken := by
  cases h : n.next? with
  | none => simp [unbroken_of_no_next h]
  | some x => simp [unbroken_of_next h]

theorem sizeOf_next (h : n.next? = some x) : sizeOf x < sizeOf n := by
  cases n with
  | member | call =>
      rw [← Option.some.inj h]
      simp only [member.sizeOf_spec, call.sizeOf_spec]
      omega
  | _ => cases h

/-- Chains are followed link by link. -/
theorem chain_induction {P : Node → Prop} (start : ∀ n, n.next? = none → P n)
    (link : ∀ n x, n.next? = some x → P x → P n) (n : Node) : P n := by
  induction n using spine.induct with
  | case1 t object key computed optional ih => exact link _ object rfl ih
  | case2 t f args optional ih => exact link _ f rfl ih
  | case3 n noMember noCall =>
      refine start n ?_
      cases n with
      | member => exact absurd rfl (noMember _ _ _ _ _)
      | call => exact absurd rfl (noCall _ _ _ _)
      | _ => rfl

theorem sizeOf_of_mem_spine (h : l ∈ n.spine) : sizeOf l ≤ sizeOf n := by
  induction n using chain_induction with
  | start n hn =>
      rw [spine_of_no_next hn] at h
      exact Nat.le_of_eq (congrArg sizeOf (List.mem_singleton.1 h))
  | link n x hn ih =>
      rw [spine_of_next hn] at h
      obtain rfl | h := List.mem_cons.1 h
      · exact Nat.le_refl _
      · exact Nat.le_of_lt (Nat.lt_of_le_of_lt (ih h) (sizeOf_next hn))

theorem not_mem_spine_next (h : n.next? = some x) : n ∉ x.spine := fun mem =>
  Nat.lt_irrefl _ (Nat.lt_of_le_of_lt (sizeOf_of_mem_spine mem) (sizeOf_next h))

theorem next_of_isOptional (h : n.isOptional) : ∃ x, n.next? = some x := by
  cases n with
  | member | call => exact ⟨_, rfl⟩
  | _ => cases h

theorem Shaped.next (h : n.Shaped) (hx : n.next? = some x) : x.Shaped := by
  have fits := h.childrenFit
  cases n with
  | member | call =>
      rw [← Option.some.inj hx]
      simp only [ChildrenFit, positions, fit_cons] at fits
      exact fits.1.shaped
  | _ => cases hx

theorem Shaped.of_mem_spine (h : n.Shaped) (hl : l ∈ n.spine) : l.Shaped := by
  induction n using chain_induction with
  | start n hn =>
      rw [spine_of_no_next hn] at hl
      exact List.mem_singleton.1 hl ▸ h
  | link n x hn ih =>
      rw [spine_of_next hn] at hl
      obtain rfl | hl := List.mem_cons.1 hl
      · exact h
      · exact ih (h.next hn) hl

end

/-! Counterparts. -/

/-- What a node is after cooperation, without the waiting around a call. -/
def counterpart (o : Options) (n : Node) : Node :=
  match n.isCall, n.cooperative o with
  | true, await _ c => c
  | _, m => m

section
variable (o : Options) {n x l : Node}

theorem counterpart_of_not_isCall (h : n.isCall = false) : counterpart o n = n.cooperative o := by
  rw [counterpart, h]

theorem cooperative_call {t : Token} {f : Node} {args : List Node} {optional : Bool}
    (h : (call t f args optional).Shaped) :
    ∃ args', (call t f args optional).cooperative o =
      await t (call t (f.cooperative o) args' optional) := by
  rw [cooperative_eq o h]
  exact ⟨_, rfl⟩

/-- A call is waited for. -/
theorem Shaped.cooperative_of_isCall (h : n.Shaped) (call : n.isCall) :
    ∃ t, n.cooperative o = await t (counterpart o n) := by
  cases n with
  | call t f args optional =>
      obtain ⟨args', heq⟩ := cooperative_call o h
      refine ⟨t, ?_⟩
      rw [counterpart, heq]
      rfl
  | _ => cases call

/-- The counterpart of a link continues the cooperative form of what the link continues. -/
theorem Shaped.counterpart_of_next (h : n.Shaped) (hx : n.next? = some x) :
    (counterpart o n).next? = some (x.cooperative o) ∧
      (counterpart o n).isOptional = n.isOptional := by
  cases n with
  | member t whole key computed optional =>
      obtain rfl := Option.some.inj hx
      rw [counterpart_of_not_isCall o rfl, cooperative_member o h]
      exact ⟨rfl, rfl⟩
  | call t f args optional =>
      obtain rfl := Option.some.inj hx
      obtain ⟨args', heq⟩ := cooperative_call o h
      rw [counterpart, heq]
      exact ⟨rfl, rfl⟩
  | _ => cases hx

theorem sizeOf_counterpart_le (h : n.Shaped) :
    sizeOf (counterpart o n) ≤ sizeOf (n.cooperative o) := by
  cases call : n.isCall with
  | false => exact Nat.le_of_eq (congrArg sizeOf (counterpart_of_not_isCall o call))
  | true =>
      obtain ⟨t, heq⟩ := h.cooperative_of_isCall o call
      rw [heq, await.sizeOf_spec]
      omega

/-- Whatever comes before a node in a chain is smaller, after cooperation as well. -/
theorem Shaped.sizeOf_counterpart (h : n.Shaped) (hl : l ∈ n.spine) :
    sizeOf (counterpart o l) ≤ sizeOf (n.cooperative o) := by
  induction n using chain_induction with
  | start n hn =>
      rw [spine_of_no_next hn] at hl
      rw [List.mem_singleton.1 hl]
      exact sizeOf_counterpart_le o h
  | link n x hn ih =>
      rw [spine_of_next hn] at hl
      obtain rfl | hl := List.mem_cons.1 hl
      · exact sizeOf_counterpart_le o h
      · have below := ih (h.next hn) hl
        have smaller := sizeOf_next (h.counterpart_of_next o hn).1
        have inside := sizeOf_counterpart_le o h
        omega

/-- A link before another one in a chain does not have the same counterpart. -/
theorem Shaped.counterpart_ne (h : n.Shaped) (hx : n.next? = some x) (hl : l ∈ x.spine) :
    counterpart o l ≠ counterpart o n := by
  intro same
  have below := (h.next hx).sizeOf_counterpart o hl
  have smaller := sizeOf_next (h.counterpart_of_next o hx).1
  rw [same] at below
  omega

/-- A link of a chain is reached after cooperation exactly if there is no call in between. -/
theorem Shaped.mem_spine_counterpart (h : n.Shaped) (hl : l ∈ n.spine) (optional : l.isOptional) :
    counterpart o l ∈ (counterpart o n).spine ↔ l ∈ n.unbroken := by
  induction n using chain_induction with
  | start n hn =>
      rw [spine_of_no_next hn] at hl
      obtain rfl := List.mem_singleton.1 hl
      exact iff_of_true (mem_spine_self _) (mem_unbroken_self _)
  | link n x hn ih =>
      rw [spine_of_next hn] at hl
      obtain rfl | hl := List.mem_cons.1 hl
      · exact iff_of_true (mem_spine_self _) (mem_unbroken_self _)
      have hne : l ≠ n := fun same => not_mem_spine_next hn (same ▸ hl)
      rw [spine_of_next (h.counterpart_of_next o hn).1, unbroken_of_next hn, List.mem_cons,
        List.mem_cons, or_iff_right (h.counterpart_ne o hn hl), or_iff_right hne]
      cases call : x.isCall with
      | false =>
          rw [← counterpart_of_not_isCall o call]
          exact ih (h.next hn) hl
      | true =>
          -- The chain ends where the call is waited for, and no link is a wait.
          obtain ⟨t, heq⟩ := (h.next hn).cooperative_of_isCall o call
          rw [heq]
          refine iff_of_false (fun mem => ?_) (by simp)
          have waits : counterpart o l = await t (counterpart o x) := List.mem_singleton.1 mem
          obtain ⟨y, hy⟩ := next_of_isOptional optional
          have continues := (((h.next hn).of_mem_spine hl).counterpart_of_next o hy).1
          rw [waits] at continues
          cases continues

end

/-! Chains that end with an access to a setter. -/

theorem mem_unbroken_of_next {n x l : Node} (hn : n.next? = some x) (hl : l ∈ x.spine) :
    l ∈ n.unbroken ↔ x.isCall = false ∧ l ∈ x.unbroken := by
  have hne : l ≠ n := fun same => not_mem_spine_next hn (same ▸ hl)
  rw [unbroken_of_next hn, List.mem_cons, or_iff_right hne]
  cases x.isCall <;> simp

theorem route_access_shaped {o : Options} {n : Node} {r : Route} (h : n.Shaped)
    (hr : route? o n = some r) : r.access.Shaped := by
  have admitted : Position.expression.admits n := by
    obtain ⟨_, _, _, _, _, rfl, -⟩ := route_receiver hr
    rfl
  have key : (identifier {} r.method).FitsIn (.key false) := .intro rfl (.leaf rfl)
  refine ChildrenFit.shaped ?_
  simpa [Route.access, ChildrenFit, positions] using
    ⟨route_receiver_fitsIn hr ⟨admitted, h⟩, key⟩

/-- What the target of a write has before the receiver is bigger than the receiver. -/
theorem sizeOf_receiver_lt {o : Options} {n l : Node} {r : Route} (h : n.Shaped)
    (hr : route? o n = some r) (hl : l ∈ n.spine) (dropped : l ∉ r.receiver.spine) :
    sizeOf (r.receiver.cooperative o) < sizeOf (counterpart o l) := by
  obtain ⟨t, whole, key, computed, optional, rfl, -, same | ⟨u, k, c, q, rfl, -⟩⟩ :=
    route_receiver hr
  · subst same
    have hn : (member t r.receiver key computed optional).next? = some r.receiver := rfl
    rw [spine_of_next hn, List.mem_cons, or_iff_left dropped] at hl
    rw [hl]
    exact sizeOf_next (h.counterpart_of_next o hn).1
  · have hn : (member t (member u r.receiver k c q) key computed optional).next? =
      some (member u r.receiver k c q) := rfl
    have hx : (member u r.receiver k c q).next? = some r.receiver := rfl
    have owner : sizeOf (r.receiver.cooperative o) <
        sizeOf (counterpart o (member u r.receiver k c q)) :=
      sizeOf_next ((h.next hn).counterpart_of_next o hx).1
    rw [spine_of_next hn, spine_of_next hx, List.mem_cons, List.mem_cons, or_iff_left dropped] at hl
    obtain rfl | rfl := hl
    · have inside := sizeOf_next (h.counterpart_of_next o hn).1
      rw [counterpart_of_not_isCall o rfl] at owner
      omega
    · exact owner

/-- The access to a setter reaches the links of the target that are part of the receiver, if there is
no call in between. -/
theorem Shaped.mem_spine_access {o : Options} {n l : Node} {r : Route} (h : n.Shaped)
    (hr : route? o n = some r) (hl : l ∈ n.spine) (optional : l.isOptional) :
    counterpart o l ∈ (counterpart o r.access).spine ↔ l ∈ n.unbroken ∧ l ∈ r.access.spine := by
  have access := route_access_shaped h hr
  have hx : r.access.next? = some r.receiver := rfl
  have hne : l ≠ r.access := by
    rintro rfl
    cases optional
  by_cases hr' : l ∈ r.receiver.spine
  · have reached : l ∈ r.access.spine := by
      rw [spine_of_next hx]
      exact List.mem_cons_of_mem _ hr'
    rw [access.mem_spine_counterpart o reached optional, and_iff_left reached,
      mem_unbroken_of_next hx hr']
    obtain ⟨t, whole, key, computed, q, rfl, -, same | ⟨u, k, c, q', rfl, -⟩⟩ := route_receiver hr
    · subst same
      exact (mem_unbroken_of_next rfl hr').symm
    · have hw : l ∈ (member u r.receiver k c q').spine := List.mem_cons_of_mem _ hr'
      have owner : l ∈ (member u r.receiver k c q').unbroken ↔ _ := mem_unbroken_of_next rfl hr'
      have target : l ∈ (member t (member u r.receiver k c q') key computed q).unbroken ↔ _ :=
        mem_unbroken_of_next rfl hw
      rw [target, owner]
      exact (and_iff_right rfl).symm
  · refine iff_of_false (fun mem => ?_) fun both => ?_
    · rw [spine_of_next (access.counterpart_of_next o hx).1, List.mem_cons] at mem
      obtain same | mem := mem
      · obtain ⟨y, hy⟩ := next_of_isOptional optional
        have kept := ((h.of_mem_spine hl).counterpart_of_next o hy).2
        rw [same, (access.counterpart_of_next o hx).2, optional] at kept
        cases kept
      · have small := sizeOf_of_mem_spine mem
        have big := sizeOf_receiver_lt h hr hl hr'
        omega
    · rw [spine_of_next hx, List.mem_cons, or_iff_right hne] at both
      exact hr' both.2

end Node

end CoScript
