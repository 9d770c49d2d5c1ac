import CoScript.Proofs.Erasure.Commute
import CoScript.Proofs.Parse.StatementShape

/-!
When types matter. The order of cooperation and erasing types is visible exactly where a decision comes
out differently for a callee or a target without types. If two setters are called on different parts of
the same target, the receivers differ in how many accesses they are made of, so the results differ
whatever happens inside of them.
-/
namespace CoScript

open Cooperate

namespace Node

/-- A decision at a node does not depend on types: whether a call receives the context, and which
setter a write goes through. -/
def AgreesAt (o : Options) : Node → Prop
  | call _ f _ _ => receivesContext o f.eraseTypes = receivesContext o f
  | assignment t operator target value =>
    writeRoute? o (assignment t operator target.eraseTypes value.eraseTypes) =
      (writeRoute? o (assignment t operator target value)).map (Route.map eraseTypes)
  | _ => True

/-- How many accesses an expression ends with. -/
def accessDepth : Node → Nat
  | member _ whole _ _ _ => whole.accessDepth + 1
  | assertion _ e _ _ => e.accessDepth
  | nonNull _ e => e.accessDepth
  | _ => 0

theorem accessDepth_withoutTokens (n : Node) : n.withoutTokens.accessDepth = n.accessDepth := by
  induction n using accessDepth.induct with
  | case1 t whole key computed optional ih => exact congrArg (· + 1) ih
  | case2 t e type satisfies ih | case3 t e ih => exact ih
  | case4 n noMember noAssertion noNonNull =>
      cases n with
      | member => exact absurd rfl (noMember _ _ _ _ _)
      | assertion => exact absurd rfl (noAssertion _ _ _ _)
      | nonNull => exact absurd rfl (noNonNull _ _)
      | _ => rfl

theorem accessDepth_eraseTypes (n : Node) : n.eraseTypes.accessDepth = n.accessDepth := by
  induction n using accessDepth.induct with
  | case1 t whole key computed optional ih => exact congrArg (· + 1) ih
  | case2 t e type satisfies ih | case3 t e ih => exact ih
  | case4 n noMember noAssertion noNonNull =>
      cases n with
      | member => exact absurd rfl (noMember _ _ _ _ _)
      | assertion => exact absurd rfl (noAssertion _ _ _ _)
      | nonNull => exact absurd rfl (noNonNull _ _)
      | _ => rfl

theorem Shaped.accessDepth_cooperative (o : Options) {n : Node} (h : n.Shaped) :
    (n.cooperative o).accessDepth = n.accessDepth := by
  induction h with
  | @of n fits below ih =>
      rw [cooperative_eq o (.of fits below)]
      cases n with
      | member t whole key computed optional =>
          exact congrArg (· + 1) (ih .expression whole (by simp [positions]))
      | assertion t e type satisfies | nonNull t e => exact ih .expression e (by simp [positions])
      | catchClause t p type body =>
          simp only [mapPositions]
          generalize cooperativeAt o (.optional .caught) p = q
          cases q <;> rfl
      | assignment t operator target value =>
          obtain plain | ⟨r, v, -, -, routed⟩ := managedAssignment_cases o t operator
            (target.cooperative o) (value.cooperative o)
          · exact (congrArg accessDepth plain).trans rfl
          · exact (congrArg accessDepth routed).trans rfl
      | _ => rfl

/-! Routes of targets without types. -/

theorem eraseTypes_of_isPlainKey {n : Node} (h : n.isPlainKey) : n.eraseTypes = n := by
  cases n with
  | identifier | privateName | string | number => rfl
  | _ => cases h

/-- An access to a property whose name is known stays one. -/
theorem eraseTypes_member {t : Token} {whole key : Node} {computed optional : Bool}
    (known : (member t whole key computed optional).staticName?.isSome) :
    (member t whole key computed optional).eraseTypes =
      member t whole.eraseTypes key computed optional := by
  rw [eraseTypes, eraseTypes_of_isPlainKey (isPlainKey_of_staticName known), ite_self]

theorem setter_of_unknown {n : Node} (o : Options) (name : Text) (unknown : n.staticName? = none) :
    setter? o name n = (o.setters.lookup name).map (n, ·) := by
  unfold setter?
  split
  · simp [accesses, unknown]
  · rfl

/-- The setter for an object with a known name does not depend on types. -/
theorem setter_eraseTypes {o : Options} (name : Text) {whole : Node}
    (known : whole.staticName?.isSome) :
    setter? o name whole.eraseTypes =
      (setter? o name whole).map fun s => (s.1.eraseTypes, s.2) := by
  cases whole with
  | member t owner key computed optional =>
      have same (property : Text) :
          (member t owner.eraseTypes key computed optional).accesses property =
            (member t owner key computed optional).accesses property := by
        simp only [accesses, staticName_member]
      rw [eraseTypes_member known]
      simp only [setter?, same]
      cases (member t owner key computed optional).accesses (txt "variables") <;>
        cases (member t owner key computed optional).accesses (txt "effects") <;>
        simp [eraseTypes_member known, Function.comp_def]
  | _ => cases known

/-- A setter for an object without types is the one for the object, or it is called on one access
less. -/
theorem setter_eraseTypes_cases {o : Options} {name : Text} {whole : Node} {s s' : Node × Text}
    (hs : setter? o name whole = some s) (hs' : setter? o name whole.eraseTypes = some s') :
    s' = (s.1.eraseTypes, s.2) ∨ s'.1.accessDepth + 1 = s.1.accessDepth := by
  cases known : whole.staticName? with
  | some key =>
      rw [setter_eraseTypes name (by rw [known]; rfl), hs] at hs'
      exact .inl (Option.some.inj hs').symm
  | none =>
      rw [setter_of_unknown o name known] at hs
      obtain ⟨method, found, rfl⟩ := Option.map_eq_some_iff.1 hs
      have depth := accessDepth_eraseTypes whole
      generalize whole.eraseTypes = erased at hs' depth ⊢
      cases erased with
      | member t owner key computed optional =>
          simp only [setter?] at hs'
          split at hs'
          · obtain rfl := Option.some.inj hs'
            exact .inr depth
          split at hs'
          · obtain rfl := Option.some.inj hs'
            exact .inr depth
          · rw [found] at hs'
            exact .inl (Option.some.inj hs').symm
      | _ =>
          rw [setter_of_not_isMember o name rfl, found] at hs'
          exact .inl (Option.some.inj hs').symm

theorem route_eraseTypes_cases {o : Options} {target : Node} {r r' : Route}
    (hr : route? o target = some r) (hr' : route? o target.eraseTypes = some r') :
    r' = r.map eraseTypes ∨ r'.receiver.accessDepth + 1 = r.receiver.accessDepth := by
  obtain ⟨t, whole, key, computed, optional, rfl, known, -⟩ := route_receiver hr
  rw [eraseTypes_member known] at hr'
  obtain ⟨name, hname, mapped⟩ := Option.bind_eq_some_iff.1 hr
  obtain ⟨s, hs, rfl⟩ := Option.map_eq_some_iff.1 mapped
  obtain ⟨name', hname', mapped'⟩ := Option.bind_eq_some_iff.1 hr'
  obtain ⟨s', hs', rfl⟩ := Option.map_eq_some_iff.1 mapped'
  rw [staticName_member] at hname hname'
  obtain rfl := Option.some.inj (hname.symm.trans hname')
  refine (setter_eraseTypes_cases hs hs').imp (fun same => ?_) id
  rw [same]
  rfl

/-! Writes. -/

theorem FitsIn.commutes_name (o : Options) {n : Node} (h : n.FitsIn .name) : Commutes o n := by
  cases n with
  | identifier => rfl
  | _ => cases h.admitted

/-- The order matters for an access with a known name where it matters for what is accessed. -/
theorem commutes_member {o : Options} {t : Token} {whole key : Node} {computed optional : Bool}
    (h : (member t whole key computed optional).Shaped)
    (known : (member t whole key computed optional).staticName?.isSome) :
    Commutes o (member t whole key computed optional) ↔ Commutes o whole := by
  have first := eraseTypes_member known
  have plain := isPlainKey_of_staticName known
  have known' : (member t (whole.cooperative o) key computed optional).staticName?.isSome := by
    rwa [staticName_member] at known ⊢
  have second := h.eraseTypes
  rw [first] at second
  rw [Commutes, first, cooperative_member o h, cooperative_member o second,
    cooperative_of_isPlainKey o plain, eraseTypes_member known']
  simp [Alike, Commutes, withoutTokens]

theorem commutes_receiver {o : Options} {target : Node} {r : Route} (h : target.Shaped)
    (hr : route? o target = some r) : Commutes o target ↔ Commutes o r.receiver := by
  obtain ⟨t, whole, key, computed, optional, rfl, known, received⟩ := route_receiver hr
  rw [commutes_member h known]
  obtain same | ⟨u, k, c, q, rfl, known⟩ := received
  · rw [same]
  · exact commutes_member (h.child ⟨.expression, .head _, rfl⟩) known

section
variable {o : Options} {t : Token} {operator : Text} {target value : Node}

/-- What is written, in either order. -/
theorem alike_written {v v' : Node}
    (hv : writtenValue? t operator (target.cooperative o) (value.cooperative o) = some v)
    (hv' : writtenValue? t operator (target.eraseTypes.cooperative o)
      (value.eraseTypes.cooperative o) = some v')
    (ht : Commutes o target) : v.eraseTypes.Alike v' ↔ Commutes o value := by
  unfold writtenValue? at hv hv'
  split at hv
  · rw [if_pos ‹_›] at hv'
    obtain rfl := Option.some.inj hv
    obtain rfl := Option.some.inj hv'
    rfl
  · rw [if_neg ‹_›] at hv'
    obtain ⟨op, found, rfl⟩ := Option.map_eq_some_iff.1 hv
    obtain ⟨op', found', rfl⟩ := Option.map_eq_some_iff.1 hv'
    obtain rfl := Option.some.inj (found.symm.trans found')
    rw [Commutes, Alike] at ht
    simp [Alike, Commutes, eraseTypes, withoutTokens, ht]

theorem alike_routedCall {r r' : Route} {v v' : Node} :
    (await t (r.call t v)).eraseTypes.Alike (await t (r'.call t v')) ↔
      r.receiver.eraseTypes.Alike r'.receiver ∧ r.method = r'.method ∧ r.property = r'.property ∧
        v.eraseTypes.Alike v' := by
  simp [Alike, Route.call, Route.access, eraseTypes, eraseTypesAll, withoutTokens, and_assoc]

/-- Receivers with different numbers of accesses are not alike, in whatever order. -/
theorem not_alike_of_accessDepth {m n : Node} (hm : m.Shaped) (hn : n.Shaped)
    (h : n.accessDepth + 1 = m.accessDepth) :
    ¬(m.cooperative o).eraseTypes.Alike (n.cooperative o) := by
  intro alike
  have depth := congrArg accessDepth alike
  rw [accessDepth_withoutTokens, accessDepth_withoutTokens, accessDepth_eraseTypes,
    hm.accessDepth_cooperative o, hn.accessDepth_cooperative o] at depth
  omega

theorem commutes_assignment (h : (assignment t operator target value).Shaped) :
    Commutes o (assignment t operator target value) ↔
      AgreesAt o (assignment t operator target value) ∧ Commutes o target ∧ Commutes o value := by
  have fits := h.childrenFit
  simp only [ChildrenFit, positions, fit_cons] at fits
  have h' : (assignment t operator target.eraseTypes value.eraseTypes).Shaped := h.eraseTypes
  have erased : (assignment t operator target value).eraseTypes =
    assignment t operator target.eraseTypes value.eraseTypes := rfl
  rw [Commutes, erased, AgreesAt]
  cases hr : writeRoute? o (assignment t operator target value) with
  | none =>
      rw [cooperative_unrouted h hr]
      cases hr' : writeRoute? o (assignment t operator target.eraseTypes value.eraseTypes) with
      | none =>
          rw [cooperative_unrouted h' hr']
          simp [Alike, Commutes, eraseTypes, withoutTokens]
      | some r' =>
          obtain ⟨v', -, routed⟩ := cooperative_routed h' hr'
          rw [routed]
          exact iff_of_false (by rintro ⟨⟩) (by simp)
  | some r =>
      obtain ⟨v, hv, routed⟩ := cooperative_routed h hr
      rw [routed]
      cases hr' : writeRoute? o (assignment t operator target.eraseTypes value.eraseTypes) with
      | none =>
          rw [cooperative_unrouted h' hr']
          exact iff_of_false (by rintro ⟨⟩) (by simp)
      | some r' =>
          obtain ⟨v', hv', routed'⟩ := cooperative_routed h' hr'
          obtain ⟨_, _, _, _, ⟨⟩, hroute, -⟩ := writeRoute_eq_some hr
          obtain ⟨_, _, _, _, ⟨⟩, hroute', -⟩ := writeRoute_eq_some hr'
          rw [routed', alike_routedCall]
          obtain rfl | depth := route_eraseTypes_cases hroute hroute'
          · have received := commutes_receiver fits.1.shaped hroute
            constructor
            · rintro ⟨alike, -, -, written⟩
              have ht := received.2 alike
              exact ⟨rfl, ht, (alike_written hv hv' ht).1 written⟩
            · rintro ⟨-, ht, hvalue⟩
              exact ⟨received.1 ht, rfl, rfl, (alike_written hv hv' ht).2 hvalue⟩
          · have receiver := route_receiver_fitsIn hroute fits.1
            have receiver' := route_receiver_fitsIn hroute'
              ⟨fits.1.isExpression_eraseTypes, fits.1.shaped.eraseTypes⟩
            refine iff_of_false (fun both => ?_) fun both => ?_
            · exact not_alike_of_accessDepth receiver.shaped receiver'.shaped depth both.1
            · have same : r'.receiver = r.receiver.eraseTypes :=
                congrArg Route.receiver (Option.some.inj both.1)
              rw [same, accessDepth_eraseTypes] at depth
              omega

end

/-! Trees. -/

/-- The order matters for a node where a decision comes out differently or it matters below. -/
theorem Shaped.commutes_iff_children (o : Options) {n : Node} (h : n.Shaped)
    (noInterface : n.isInterface = false)
    (below : AllValues (fun c => c.isInterface = false) n.positions) :
    Commutes o n ↔ AgreesAt o n ∧ AllValues (Commutes o) n.positions := by
  have fits := h.childrenFit
  have ordinary := h.commutes_of_flags o n n n below
  cases n with
  | interfaceDeclaration => cases noInterface
  | call t f args optional =>
      refine (commutes_call o h).trans (and_congr_right' ?_)
      simp [positions, Position.isValue]
  | assignment t operator target value =>
      refine (commutes_assignment h).trans (and_congr_right' ?_)
      simp [positions, Position.isValue]
  | program body | block t body =>
      simp only [ChildrenFit, positions, fit_each] at fits
      simp only [positions, allValues_each, Position.isValue, true_implies] at below ⊢
      refine Iff.trans ?_ (and_iff_right trivial).symm
      rw [← statements_alike o fits below]
      simp [Commutes, Alike, Node.eraseTypes, cooperative_program, cooperative_block, withoutTokens]
  | switchCase t test body =>
      simp only [ChildrenFit, positions, fit_cons, fit_each] at fits
      simp only [positions, allValues_cons, allValues_each, Position.isValue, true_implies] at below ⊢
      refine Iff.trans ?_ (and_iff_right trivial).symm
      rw [← statements_alike o fits.2 below.2]
      simp [Commutes, Alike, Node.eraseTypes, cooperative_switchCase, withoutTokens]
  | typeAlias t name type =>
      simp only [ChildrenFit, positions, fit_cons] at fits
      refine iff_of_true rfl ⟨trivial, ?_⟩
      simpa [positions, Position.isValue] using fits.1.commutes_name o
  | assertion t e type satisfies | nonNull t e =>
      refine Iff.trans ?_ (and_iff_right trivial).symm
      simp [positions, Position.isValue]
      rfl
  | propertySignature | methodSignature | indexSignature =>
      exact iff_of_true rfl ⟨trivial, by simp [positions, Position.isValue]⟩
  | forStatement | forIn | forOf | whileStatement | doWhile =>
      exact (h.commutes_loop o rfl below).trans (and_iff_right trivial).symm
  | catchClause => exact (commutes_catch o h).trans (and_iff_right trivial).symm
  | function t async name ps r body =>
      refine Iff.trans ?_ (and_iff_right trivial).symm
      exact h.commutes_of_flags o (function t true name ps r body) (function t async name ps r body)
        (function t true name ps r body) below (by rintro ⟨⟩) (by rintro ⟨⟩)
        (fun _ => rfl) (fun _ => rfl) (fun _ => rfl) (fun _ => rfl) rfl
  | arrow t async ps r body =>
      refine Iff.trans ?_ (and_iff_right trivial).symm
      exact h.commutes_of_flags o (arrow t true ps r body) (arrow t async ps r body)
        (arrow t true ps r body) below (by rintro ⟨⟩) (by rintro ⟨⟩)
        (fun _ => rfl) (fun _ => rfl) (fun _ => rfl) (fun _ => rfl) rfl
  | declarator t target definite type value =>
      refine Iff.trans ?_ (and_iff_right trivial).symm
      exact h.commutes_of_flags o (declarator t target definite type value)
        (declarator t target false type value) (declarator t target false type value)
        below (by rintro ⟨⟩) (by rintro ⟨⟩) (fun _ => rfl) (fun _ => rfl) (fun _ => rfl) (fun _ => rfl) rfl
  | parameter t target optional rest type default =>
      refine Iff.trans ?_ (and_iff_right trivial).symm
      exact h.commutes_of_flags o (parameter t target optional rest type default)
        (parameter t target false rest type default) (parameter t target false rest type default)
        below (by rintro ⟨⟩) (by rintro ⟨⟩) (fun _ => rfl) (fun _ => rfl) (fun _ => rfl) (fun _ => rfl) rfl
  | _ =>
      refine Iff.trans ?_ (and_iff_right trivial).symm
      exact ordinary (by rintro ⟨⟩) (by rintro ⟨⟩) (fun _ => rfl) (fun _ => rfl) (fun _ => rfl) (fun _ => rfl) rfl

/-- The order matters for a tree exactly where one of its decisions depends on types. -/
theorem Shaped.commutes_iff (o : Options) {n : Node} (h : n.Shaped)
    (noInterface : ∀ m, n.HasValue m → m.isInterface = false) :
    Commutes o n ↔ ∀ m, n.HasValue m → m.AgreesAt o := by
  induction h with
  | @of n fits below ih =>
      obtain ⟨here, inside⟩ := forall_hasValue.1 noInterface
      have children : AllValues (fun c => c.isInterface = false) n.positions :=
        fun p c hc value => inside p c hc value c .root
      rw [Shaped.commutes_iff_children o (.of fits below) here children, forall_hasValue]
      refine and_congr_right' (forall₃_congr fun p c hc => ?_)
      exact forall_congr' fun value => ih p c hc (inside p c hc value)

end Node

/-- In a script that is accepted and declares no interface, types have no influence on cooperation
exactly if no call and no write in it is decided differently for a callee or a target with types. -/
theorem Script.types_irrelevant_iff (o : Options) {source : Source} {program : Node}
    (h : Script.parse source = .ok program)
    (noInterface : ∀ n, program.HasValue n → n.isInterface = false) :
    (program.cooperate o).result.eraseTypes.Alike (program.eraseTypes.cooperate o).result ↔
      ∀ n, program.HasValue n → n.AgreesAt o :=
  (Script.parse_shaped h).commutes_iff o noInterface

/-- An assertion below a target and one on a value have no influence. -/
theorem Script.types_irrelevant_receiver :
    ∃ program, Script.parse (.ofText (txt "(a as any).x = b!")) = .ok program ∧
      (∀ n, program.HasValue n → n.isInterface = false) ∧
      (program.cooperate .default).result.eraseTypes.Alike
        (program.eraseTypes.cooperate .default).result := by
  obtain ⟨t₀, t₁, t₂, t₃, t₄, t₅, t₆, t₇, type, parsed⟩ : ∃ t₀ t₁ t₂ t₃ t₄ t₅ t₆ t₇ type,
      Script.parse (.ofText (txt "(a as any).x = b!")) =
        .ok (.program [.expressionStatement t₀ (.assignment t₁ (txt "=")
          (.member t₂ (.assertion t₃ (.identifier t₄ (txt "a")) type false)
            (.identifier t₅ (txt "x")) false false)
          (.nonNull t₆ (.identifier t₇ (txt "b"))))]) :=
    ⟨_, _, _, _, _, _, _, _, _, rfl⟩
  have values : ∀ n, Node.HasValue (.program [.expressionStatement t₀ (.assignment t₁ (txt "=")
      (.member t₂ (.assertion t₃ (.identifier t₄ (txt "a")) type false)
        (.identifier t₅ (txt "x")) false false)
      (.nonNull t₆ (.identifier t₇ (txt "b"))))]) n →
      n.isInterface = false ∧ n.AgreesAt .default := by
    simp only [Node.forall_hasValue (n := .program _),
      Node.forall_hasValue (n := .expressionStatement _ _),
      Node.forall_hasValue (n := .assignment _ _ _ _), Node.forall_hasValue (n := .member _ _ _ _ _),
      Node.forall_hasValue (n := .assertion _ _ _ _), Node.forall_hasValue (n := .nonNull _ _),
      Node.forall_hasValue (n := .identifier _ _), Node.positions, Node.allValues_each,
      Node.allValues_cons, Node.allValues_nil, List.mem_singleton, forall_eq, Node.Position.isValue,
      true_implies]
    simp [Node.isInterface, Node.AgreesAt]
    rfl
  refine ⟨_, parsed, fun n hn => (values n hn).1, ?_⟩
  exact (Script.types_irrelevant_iff .default parsed fun n hn => (values n hn).1).2
    fun n hn => (values n hn).2

/-- A function that does not receive the context receives it once its type is asserted. -/
theorem Script.types_change_call :
    ∃ program, Script.parse (.ofText (txt "(String as any)(1)")) = .ok program ∧
      (∀ n, program.HasValue n → n.isInterface = false) ∧
      ¬(program.cooperate .default).result.eraseTypes.Alike
        (program.eraseTypes.cooperate .default).result := by
  refine ⟨.program [.expressionStatement _ (.call _ (.assertion _ (.identifier _ _) _ _)
    [.number _ _] _)], rfl, ?_, fun same => nomatch (same : _ = _)⟩
  simp only [Node.forall_hasValue (n := .program _),
    Node.forall_hasValue (n := .expressionStatement _ _), Node.forall_hasValue (n := .call _ _ _ _),
    Node.forall_hasValue (n := .assertion _ _ _ _), Node.forall_hasValue (n := .identifier _ _),
    Node.forall_hasValue (n := .number _ _), Node.positions, Node.allValues_each,
    Node.allValues_cons, Node.allValues_nil, List.mem_singleton, forall_eq, Node.Position.isValue,
    true_implies]
  simp [Node.isInterface]

end CoScript
