import CoScript.Proofs.Cooperate.Rules

/-!
Writes that go through setters. Which setter is called, and on what, depends on the target alone, and it
is the same whether the target is looked at before or after it is made cooperative.
-/
namespace CoScript

namespace Cooperate

/-- The setter that a write goes through, what it is a method of, and the property it sets. -/
structure Route where
  property : Text
  receiver : Node
  method : Text

/-- The access to a setter. -/
def Route.access (r : Route) : Node :=
  .member {} r.receiver (.identifier {} r.method) false false

/-- The call of a setter. -/
def Route.call (r : Route) (t : Token) (value : Node) : Node :=
  .call t r.access [.string {} r.property [], value] false

/-- How a write to a target is routed, if it is. -/
def route? (o : Options) : Node → Option Route
  | .member t object key computed optional =>
    (Node.member t object key computed optional).staticName?.bind fun name =>
      (setter? o name object).map fun s => ⟨name, s.1, s.2⟩
  | _ => none

theorem managedAssignment_result (o : Options) (t : Token) (operator : Text) (target value : Node) :
    (managedAssignment o t operator target value).result =
      match route? o target, writtenValue? t operator target value with
      | some r, some v => .await t (r.call t v)
      | _, _ => .assignment t operator target value := by
  cases target with
  | member u object key computed optional =>
      simp only [managedAssignment, route?]
      cases (Node.member u object key computed optional).staticName? with
      | none => rfl
      | some name =>
          dsimp only [Option.bind_some]
          cases setter? o name object with
          | none => rfl
          | some s =>
              cases writtenValue? t operator (Node.member u object key computed optional) value <;>
                rfl
  | _ => rfl

/-- A setter is a method of the object that is written to, or of what that object is taken from. In
the second case the name of the object is known. -/
theorem setter_receiver {o : Options} {name method : Text} {object receiver : Node}
    (h : setter? o name object = some (receiver, method)) :
    receiver = object ∨ ∃ t key computed optional,
      object = .member t receiver key computed optional ∧ object.staticName?.isSome := by
  have known {name : Text} {n : Node} (h : n.accesses name) : n.staticName?.isSome := by
    rw [beq_iff_eq.1 h]
    rfl
  unfold setter? at h
  split at h
  · split at h
    · obtain ⟨rfl, -⟩ := Prod.mk.inj (Option.some.inj h)
      exact .inr ⟨_, _, _, _, rfl, known ‹_›⟩
    split at h
    · obtain ⟨rfl, -⟩ := Prod.mk.inj (Option.some.inj h)
      exact .inr ⟨_, _, _, _, rfl, known ‹_›⟩
    · obtain ⟨_, -, heq⟩ := Option.map_eq_some_iff.1 h
      exact .inl (Prod.mk.inj heq).1.symm
  · obtain ⟨_, -, heq⟩ := Option.map_eq_some_iff.1 h
    exact .inl (Prod.mk.inj heq).1.symm

theorem route_receiver {o : Options} {target : Node} {r : Route} (h : route? o target = some r) :
    ∃ t object key computed optional, target = .member t object key computed optional ∧
      target.staticName?.isSome ∧ (r.receiver = object ∨
        ∃ u k c p, object = .member u r.receiver k c p ∧ object.staticName?.isSome) := by
  cases target with
  | member t object key computed optional =>
      obtain ⟨name, known, mapped⟩ := Option.bind_eq_some_iff.1 h
      obtain ⟨s, hs, rfl⟩ := Option.map_eq_some_iff.1 mapped
      exact ⟨t, object, key, computed, optional, rfl, by rw [known]; rfl, setter_receiver hs⟩
  | _ => cases h

/-- An assignment stays one, or it becomes the call of a setter. -/
theorem managedAssignment_cases (o : Options) (t : Token) (operator : Text) (target value : Node) :
    (managedAssignment o t operator target value).result = .assignment t operator target value ∨
      ∃ r v, route? o target = some r ∧ writtenValue? t operator target value = some v ∧
        (managedAssignment o t operator target value).result = .await t (r.call t v) := by
  rw [managedAssignment_result]
  split
  · rename_i r v hr hv
    exact .inr ⟨r, v, hr, hv, rfl⟩
  · exact .inl rfl

/-- A route on whose way something was done to the receiver. -/
def Route.map (f : Node → Node) (r : Route) : Route :=
  { r with receiver := f r.receiver }

end Cooperate

open Cooperate

namespace Node

/-- Whether a node is an access to a property. -/
def isMember : Node → Bool
  | member _ _ _ _ _ => true
  | _ => false

/-- A rule replaces a statement by a statement and an expression by an expression, and it leaves
accesses, keys and patterns alone. -/
theorem kind_applyRule (o : Options) (n : Node) :
    (n.applyRule o).category = n.category ∧ (n.applyRule o).isMember = n.isMember ∧
      (n.applyRule o).isPlainKey = n.isPlainKey ∧ (n.applyRule o).isPattern = n.isPattern := by
  cases n with
  | catchClause t p type body => cases p <;> exact ⟨rfl, rfl, rfl, rfl⟩
  | assignment t operator target value =>
      obtain plain | ⟨r, v, -, -, routed⟩ := managedAssignment_cases o t operator target value
      · rw [applyRule, plain]
        exact ⟨rfl, rfl, rfl, rfl⟩
      · rw [applyRule, routed]
        exact ⟨rfl, rfl, rfl, rfl⟩
  | _ => exact ⟨rfl, rfl, rfl, rfl⟩

@[simp] theorem category_applyRule (o : Options) (n : Node) :
    (n.applyRule o).category = n.category :=
  (kind_applyRule o n).1

section
variable {n : Node} (o : Options) (h : n.Shaped)
include h

theorem Shaped.isMember_cooperative : (n.cooperative o).isMember = n.isMember := by
  rw [cooperative_eq o h, (kind_applyRule o _).2.1]
  cases n <;> rfl

theorem Shaped.isPlainKey_cooperative : (n.cooperative o).isPlainKey = n.isPlainKey := by
  rw [cooperative_eq o h, (kind_applyRule o _).2.2.1, isPlainKey_mapPositions]

theorem Shaped.isPattern_cooperative : (n.cooperative o).isPattern = n.isPattern := by
  rw [cooperative_eq o h, (kind_applyRule o _).2.2.2, isPattern_mapPositions]

end

theorem cooperative_of_isPlainKey (o : Options) {n : Node} (h : n.isPlainKey) :
    n.cooperative o = n := by
  cases n with
  | identifier | privateName | string | number => rfl
  | _ => cases h

theorem cooperative_member (o : Options) {t : Token} {object key : Node} {computed optional : Bool}
    (h : (member t object key computed optional).Shaped) :
    (member t object key computed optional).cooperative o =
      member t (object.cooperative o) (key.cooperative o) computed optional := by
  rw [cooperative_eq o h]
  rfl

theorem staticName_of_not_isMember {n : Node} (h : n.isMember = false) : n.staticName? = none := by
  cases n with
  | member => cases h
  | _ => rfl

/-- The name of a property that a key gives. -/
def keyName? : (computed : Bool) → Node → Option Text
  | false, identifier _ name => some name
  | true, string _ value _ => some value
  | _, _ => none

/-- A name that is known does not depend on what the property is taken from. -/
theorem staticName_member (t : Token) (object key : Node) (computed optional : Bool) :
    (member t object key computed optional).staticName? = keyName? computed key := by
  cases key <;> cases computed <;> rfl

theorem keyName_of_not_isPlainKey {key : Node} (computed : Bool) (h : key.isPlainKey = false) :
    keyName? computed key = none := by
  cases key with
  | identifier | string => cases h
  | _ => cases computed <;> rfl

theorem isPlainKey_of_staticName {t : Token} {object key : Node} {computed optional : Bool}
    (h : (member t object key computed optional).staticName?.isSome) : key.isPlainKey := by
  rw [staticName_member] at h
  cases plain : key.isPlainKey with
  | true => rfl
  | false =>
      rw [keyName_of_not_isPlainKey computed plain] at h
      cases h

theorem Shaped.keyName_cooperative (o : Options) (computed : Bool) {key : Node} (h : key.Shaped) :
    keyName? computed (key.cooperative o) = keyName? computed key := by
  cases plain : key.isPlainKey with
  | true => rw [cooperative_of_isPlainKey o plain]
  | false =>
      rw [keyName_of_not_isPlainKey computed plain,
        keyName_of_not_isPlainKey computed ((h.isPlainKey_cooperative o).trans plain)]

theorem Shaped.staticName_cooperative (o : Options) {n : Node} (h : n.Shaped) :
    (n.cooperative o).staticName? = n.staticName? := by
  cases n with
  | member t object key computed optional =>
      have fits := h.childrenFit
      simp only [ChildrenFit, positions, fit_cons] at fits
      rw [cooperative_member o h, staticName_member, staticName_member,
        fits.2.1.shaped.keyName_cooperative o]
  | _ => exact staticName_of_not_isMember (h.isMember_cooperative o)

theorem setter_of_not_isMember {n : Node} (o : Options) (name : Text) (h : n.isMember = false) :
    setter? o name n = (o.setters.lookup name).map (n, ·) := by
  cases n with
  | member => cases h
  | _ => rfl

theorem Shaped.setter_cooperative (o : Options) (name : Text) {object : Node} (h : object.Shaped) :
    setter? o name (object.cooperative o) =
      (setter? o name object).map fun s => (s.1.cooperative o, s.2) := by
  cases object with
  | member t owner key computed optional =>
      have same (name : Text) : ((member t owner key computed optional).cooperative o).accesses name =
          (member t owner key computed optional).accesses name := by
        rw [accesses, h.staticName_cooperative o, accesses]
      rw [cooperative_member o h] at same ⊢
      simp only [setter?, same]
      cases (member t owner key computed optional).accesses (txt "variables") <;>
        cases (member t owner key computed optional).accesses (txt "effects") <;>
        simp [cooperative_member o h, Function.comp_def]
  | _ =>
      rw [setter_of_not_isMember o name (h.isMember_cooperative o),
        setter_of_not_isMember o name rfl, Option.map_map]
      rfl

theorem route_of_not_isMember {n : Node} (o : Options) (h : n.isMember = false) :
    route? o n = none := by
  cases n with
  | member => cases h
  | _ => rfl

/-- The route of a write is the same before and after the target is made cooperative. -/
theorem Shaped.route_cooperative (o : Options) {target : Node} (h : target.Shaped) :
    route? o (target.cooperative o) = (route? o target).map (Route.map (cooperative o)) := by
  cases target with
  | member t object key computed optional =>
      have fits := h.childrenFit
      simp only [ChildrenFit, positions, fit_cons] at fits
      have same := h.staticName_cooperative o
      rw [cooperative_member o h] at same ⊢
      simp only [route?, same, fits.1.shaped.setter_cooperative o]
      cases (member t object key computed optional).staticName? with
      | none => rfl
      | some name =>
          simp only [Option.bind_some, Option.map_map]
          rfl
  | _ =>
      rw [route_of_not_isMember o (h.isMember_cooperative o)]
      rfl

/-- The route of a node that is a write by way of a setter. -/
def writeRoute? (o : Options) : Node → Option Route
  | assignment t operator target value =>
    if (writtenValue? t operator target value).isSome then route? o target else none
  | _ => none

/-- Whether a value can be written depends on the operator alone. -/
theorem writtenValue_isSome (t : Token) (operator : Text) (target value target' value' : Node) :
    (writtenValue? t operator target value).isSome =
      (writtenValue? t operator target' value').isSome := by
  simp only [writtenValue?]
  split
  · rfl
  · simp

section
attribute [local simp] writeRoute?

theorem writeRoute_eq_some {o : Options} {a : Node} {r : Route} (h : writeRoute? o a = some r) :
    ∃ t operator target value, a = assignment t operator target value ∧
      route? o target = some r ∧ (writtenValue? t operator target value).isSome := by
  cases a with
  | assignment t operator target value =>
      obtain ⟨writes, routed⟩ :
          (writtenValue? t operator target value).isSome ∧ route? o target = some r := by simpa using h
      exact ⟨t, operator, target, value, rfl, routed, writes⟩
  | _ => cases h

end

section
variable {o : Options} {t : Token} {operator : Text} {target value : Node}

theorem cooperative_assignment (h : (assignment t operator target value).Shaped) :
    (assignment t operator target value).cooperative o =
      (managedAssignment o t operator (target.cooperative o) (value.cooperative o)).result := by
  rw [cooperative_eq o h]
  rfl

theorem cooperative_unrouted (h : (assignment t operator target value).Shaped)
    (unrouted : writeRoute? o (assignment t operator target value) = none) :
    (assignment t operator target value).cooperative o =
      assignment t operator (target.cooperative o) (value.cooperative o) := by
  have fits := h.childrenFit
  simp only [ChildrenFit, positions, fit_cons] at fits
  rw [cooperative_assignment h]
  obtain plain | ⟨r, v, hr, hv, -⟩ := managedAssignment_cases o t operator
    (target.cooperative o) (value.cooperative o)
  · exact plain
  · have writes : (writtenValue? t operator target value).isSome := by
      rw [writtenValue_isSome t operator target value (target.cooperative o) (value.cooperative o), hv]
      rfl
    rw [writeRoute?, if_pos writes] at unrouted
    rw [fits.1.shaped.route_cooperative o, unrouted] at hr
    cases hr

theorem cooperative_routed (h : (assignment t operator target value).Shaped) {r : Route}
    (routed : writeRoute? o (assignment t operator target value) = some r) :
    ∃ v, writtenValue? t operator (target.cooperative o) (value.cooperative o) = some v ∧
      (assignment t operator target value).cooperative o =
        await t ((r.map (cooperative o)).call t v) := by
  have fits := h.childrenFit
  simp only [ChildrenFit, positions, fit_cons] at fits
  obtain ⟨_, _, _, _, ⟨⟩, hr, writes⟩ := writeRoute_eq_some routed
  rw [writtenValue_isSome t operator target value (target.cooperative o) (value.cooperative o)]
    at writes
  obtain ⟨v, hv⟩ := Option.isSome_iff_exists.1 writes
  refine ⟨v, hv, ?_⟩
  rw [cooperative_assignment h, managedAssignment_result, fits.1.shaped.route_cooperative o, hr, hv]
  rfl

end

end Node

end CoScript
