import CoScript.Proofs.Cooperate.Routes

/-!
Cooperation keeps trees well shaped: what a rule puts in is well shaped, and a node stays a node of
the sort that its position asks for.
-/
namespace CoScript

open Cooperate

namespace Node

/-! Nodes that rules put in. -/

theorem path_fitsIn (spelling : Text) : (path spelling).FitsIn .expression := by
  have leaf (name : Text) : (identifier {} name).FitsIn .expression := .intro rfl (.leaf rfl)
  have extend (e : Node) (names : List Text) (he : e.FitsIn .expression) :
      (names.foldl (fun e name => member {} e (identifier {} name) false false) e).FitsIn
        .expression := by
    induction names generalizing e with
    | nil => exact he
    | cons name names ih =>
        have key : (identifier {} name).FitsIn (.key false) := .intro rfl (.leaf rfl)
        refine ih _ (.intro rfl ?_)
        simpa [ChildrenFit, positions] using ⟨he, key⟩
  unfold path
  split
  · exact leaf _
  · exact extend _ _ (leaf _)

theorem string_fitsIn (s : Text) : (string {} s []).FitsIn .expression :=
  .intro rfl (.leaf rfl)

theorem contextCall_fitsIn (o : Options) (method : String) {args : List Node}
    (h : AllFit .expression args) : (contextCall o method args).FitsIn .expression := by
  have key : (identifier {} (txt method)).FitsIn (.key false) := .intro rfl (.leaf rfl)
  have callee : (member {} (path o.context) (identifier {} (txt method)) false false).FitsIn
      .expression := by
    refine .intro rfl ?_
    simpa [ChildrenFit, positions] using ⟨path_fitsIn o.context, key⟩
  refine .intro rfl ?_
  simpa [ChildrenFit, positions, contextCall] using ⟨callee, h⟩

theorem yieldStatement_fitsIn (o : Options) (t : Token) :
    (yieldStatement o t).FitsIn .statement := by
  have call := contextCall_fitsIn o "delay" (allFit_nil _)
  have awaited : (await t (contextCall o "delay" [])).FitsIn .expression := by
    refine .intro rfl ?_
    simpa [ChildrenFit, positions] using call
  refine .intro rfl ?_
  simpa [ChildrenFit, positions, yieldStatement] using awaited

theorem declareStatement_fitsIn (o : Options) (t : Token) (v : Variable) :
    (declareStatement o t v).FitsIn .statement := by
  have args : AllFit .expression ((v.name :: v.types).map fun s => string {} s []) := by
    intro n hn
    obtain ⟨s, -, rfl⟩ := List.mem_map.1 hn
    exact string_fitsIn s
  refine .intro rfl ?_
  simpa [ChildrenFit, positions, declareStatement] using
    contextCall_fitsIn o "declareVariable" args

theorem guard_fitsIn (o : Options) (t : Token) (name : Text) :
    (guard o t name).FitsIn .statement := by
  have leaf : (identifier {} name).FitsIn .expression := .intro rfl (.leaf rfl)
  have test : (binary t (identifier {} name) (txt "instanceof") (path o.interrupt)).FitsIn
      .expression := by
    refine .intro rfl ?_
    simpa [ChildrenFit, positions] using ⟨leaf, path_fitsIn o.interrupt⟩
  have throws : (throwStatement t (identifier {} name)).FitsIn .body := by
    refine .intro rfl ?_
    simpa [ChildrenFit, positions] using leaf
  refine .intro rfl ?_
  simpa [ChildrenFit, positions, Cooperate.guard] using ⟨test, throws, absent_fitsIn .body⟩

/-! Rules. -/

theorem FitsIn.statements {t : Token} {body : List Node} {p : Position}
    (h : (block t body).FitsIn p) : AllFit .statement body := by
  simpa [ChildrenFit, positions] using h.childrenFit

theorem FitsIn.object {t : Token} {object property : Node} {computed optional : Bool}
    {p : Position} (h : (member t object property computed optional).FitsIn p) :
    object.FitsIn .expression := by
  have children := h.childrenFit
  simp only [ChildrenFit, positions, fit_cons] at children
  exact children.1

theorem block_fitsIn {t : Token} {body : List Node} {p : Position}
    (admitted : p.admits (block t body)) (h : AllFit .statement body) : (block t body).FitsIn p := by
  refine .intro admitted ?_
  simpa [ChildrenFit, positions] using h

theorem loopBody_fitsIn (o : Options) (t : Token) {body : Node} (h : body.FitsIn .body) :
    (loopBody o t body).result.FitsIn .body := by
  have yields := yieldStatement_fitsIn o t
  simp only [loopBody, Logged.result_bind, Logged.result_pure]
  split
  · exact block_fitsIn rfl (.cons yields h.statements)
  · exact block_fitsIn rfl (.singleton yields)
  · exact block_fitsIn rfl (.singleton yields)
  · exact block_fitsIn rfl (.cons yields (.singleton ⟨h.admitted, h.shaped⟩))

theorem prepend_fitsIn (t : Token) {statement body : Node} (hs : statement.FitsIn .statement)
    (hb : body.FitsIn .block) : (prepend t statement body).FitsIn .block := by
  unfold prepend
  split
  · exact block_fitsIn rfl (.cons hs hb.statements)
  · exact block_fitsIn rfl (.singleton hs)

theorem handler_shaped (o : Options) (t : Token) {p type body : Node}
    (hp : p.FitsIn (.optional .caught)) (hT : type.FitsIn (.optional .type))
    (hb : body.FitsIn .block) : (handler o t p type body).result.Shaped := by
  have guarded (name : Text) := prepend_fitsIn t (guard_fitsIn o t name) hb
  unfold handler
  split
  · have caught : (identifier t o.errorBinding).FitsIn .caught := .intro rfl (.leaf rfl)
    refine ChildrenFit.shaped ?_
    simpa [ChildrenFit, positions] using ⟨caught.optional, hT, guarded _⟩
  · refine ChildrenFit.shaped ?_
    simpa [ChildrenFit, positions] using ⟨hp, hT, guarded _⟩
  · refine ChildrenFit.shaped ?_
    simpa [ChildrenFit, positions] using ⟨hp, hT, hb⟩

theorem awaitedCall_shaped (o : Options) (t : Token) {f : Node} {args : List Node}
    (optional : Bool) (hf : f.FitsIn .expression) (ha : AllFit .expression args) :
    (awaitedCall o t f args optional).result.Shaped := by
  have args' : AllFit .expression
      (if receivesContext o f then path o.context :: args else args) := by
    split
    · exact .cons (path_fitsIn _) ha
    · exact ha
  have called : (call t f (if receivesContext o f then path o.context :: args else args)
      optional).FitsIn .expression := by
    refine .intro rfl ?_
    simpa [ChildrenFit, positions] using ⟨hf, args'⟩
  refine ChildrenFit.shaped ?_
  simpa [ChildrenFit, positions, awaitedCall] using called

theorem writtenValue_fitsIn {t : Token} {operator : Text} {target value written : Node}
    (h : writtenValue? t operator target value = some written)
    (ht : target.FitsIn .expression) (hv : value.FitsIn .expression) :
    written.FitsIn .expression := by
  unfold writtenValue? at h
  split at h
  · exact Option.some.inj h ▸ hv
  · obtain ⟨op, -, rfl⟩ := Option.map_eq_some_iff.1 h
    refine .intro rfl ?_
    simpa [ChildrenFit, positions] using ⟨ht, hv⟩

theorem route_receiver_fitsIn {o : Options} {target : Node} {r : Route}
    (h : route? o target = some r) (ht : target.FitsIn .expression) :
    r.receiver.FitsIn .expression := by
  obtain ⟨_, object, _, _, _, rfl, -, same | ⟨_, _, _, _, rfl, -⟩⟩ := route_receiver h
  · exact same ▸ ht.object
  · exact ht.object.object

theorem managedAssignment_shaped (o : Options) (t : Token) (operator : Text) {target value : Node}
    (ht : target.FitsIn .expression) (hv : value.FitsIn .expression) :
    (managedAssignment o t operator target value).result.Shaped := by
  obtain plain | ⟨r, v, hr, hw, routed⟩ := managedAssignment_cases o t operator target value
  · rw [plain]
    refine ChildrenFit.shaped ?_
    simpa [ChildrenFit, positions] using ⟨ht, hv⟩
  · rw [routed]
    have key : (identifier {} r.method).FitsIn (.key false) := .intro rfl (.leaf rfl)
    have callee : (member {} r.receiver (identifier {} r.method) false false).FitsIn
        .expression := by
      refine .intro rfl ?_
      simpa [ChildrenFit, positions] using ⟨route_receiver_fitsIn hr ht, key⟩
    have args : AllFit .expression [string {} r.property [], v] :=
      .cons (string_fitsIn r.property) (.singleton (writtenValue_fitsIn hw ht hv))
    have called : (r.call t v).FitsIn .expression := by
      refine .intro rfl ?_
      simpa [ChildrenFit, positions, Route.call] using ⟨callee, args⟩
    refine ChildrenFit.shaped ?_
    simpa [ChildrenFit, positions] using called

section
attribute [local simp] applyRule

/-- A rule keeps a tree well shaped. -/
theorem shaped_applyRule (o : Options) {n : Node} (h : n.Shaped) : (n.applyRule o).Shaped := by
  have fits := h.childrenFit
  cases n with
  | interfaceDeclaration t name bases members =>
      refine (block_fitsIn (p := .statement) rfl fun s hs => ?_).shaped
      obtain ⟨v, -, rfl⟩ := List.mem_map.1 hs
      exact declareStatement_fitsIn o t v
  | forStatement t init c u body =>
      simp only [ChildrenFit, positions, fit_cons, fit_nil, and_true] at fits
      obtain ⟨hi, hc, hu, hb⟩ := fits
      refine ChildrenFit.shaped ?_
      simpa [ChildrenFit, positions] using ⟨hi, hc, hu, loopBody_fitsIn o t hb⟩
  | forIn t left right body | forOf t awaits left right body =>
      simp only [ChildrenFit, positions, fit_cons, fit_nil, and_true] at fits
      obtain ⟨hl, hr, hb⟩ := fits
      refine ChildrenFit.shaped ?_
      simpa [ChildrenFit, positions] using ⟨hl, hr, loopBody_fitsIn o t hb⟩
  | whileStatement t c body =>
      simp only [ChildrenFit, positions, fit_cons, fit_nil, and_true] at fits
      obtain ⟨hc, hb⟩ := fits
      refine ChildrenFit.shaped ?_
      simpa [ChildrenFit, positions] using ⟨hc, loopBody_fitsIn o t hb⟩
  | doWhile t body c =>
      simp only [ChildrenFit, positions, fit_cons, fit_nil, and_true] at fits
      obtain ⟨hb, hc⟩ := fits
      refine ChildrenFit.shaped ?_
      simpa [ChildrenFit, positions] using ⟨loopBody_fitsIn o t hb, hc⟩
  | catchClause t p type body =>
      simp only [ChildrenFit, positions, fit_cons, fit_nil, and_true] at fits
      exact handler_shaped o t fits.1 fits.2.1 fits.2.2
  | function t async name ps r body | arrow t async ps r body => exact ChildrenFit.shaped fits
  | call t f args optional =>
      simp only [ChildrenFit, positions, fit_cons, fit_each] at fits
      exact awaitedCall_shaped o t optional fits.1 fits.2
  | assignment t operator target value =>
      simp only [ChildrenFit, positions, fit_cons, fit_nil, and_true] at fits
      exact managedAssignment_shaped o t operator fits.1 fits.2
  | _ => exact h

end

/-! Where the result of a rule may stand. -/

@[simp] theorem isPresent_applyRule (o : Options) (n : Node) :
    (n.applyRule o).isPresent = n.isPresent := by
  have present (m : Node) : m.isPresent = (m.category != .absent) := by cases m <;> rfl
  rw [present, present, category_applyRule]

/-- A node stays where it is when a rule is applied to it. -/
theorem admits_applyRule (o : Options) {p : Position} {n : Node} (h : p.admits n) :
    p.admits (n.applyRule o) := by
  have kept {e : Node} (he : e.isExpression) : (e.applyRule o).isExpression := by
    simpa [isExpression] using he
  induction p with
  | optional p ih =>
      simp only [Position.admits, isPresent_applyRule, Bool.or_eq_true] at h ⊢
      exact h.imp_right ih
  | inType p ih => exact ih h
  | statement | body | expression | declarator | parameter | entry | patternEntry | catchClause
  | switchCase | type | signature =>
      simpa [Position.admits, isExpression] using h
  | loopHead =>
      cases n with
      | declaration => exact h
      | _ => exact canHeadLoop_of_isExpression (kept h)
  | arrowBody =>
      cases n with
      | block => exact h
      | _ => exact canEndArrow_of_isExpression (kept h)
  | key computed =>
      cases computed with
      | true => exact kept h
      | false =>
          cases n with
          | identifier | privateName | string | number => exact h
          | _ => cases h
  -- Of the nodes that are left only functions have a rule, and it leaves them functions.
  | block | function | template | name | caught | binding | boundValue | boundElement | typeName =>
      cases n with
      | block | function | template | identifier | arrayPattern | objectPattern
      | assignmentPattern | restElement | qualifiedName =>
          exact h
      | _ => cases h

/-- Cooperation keeps a tree well shaped and fit for the positions it fits. -/
theorem Shaped.cooperative_fitsIn (o : Options) {n : Node} (h : n.Shaped) :
    (n.cooperative o).Shaped ∧ ∀ p : Position, p.admits n → p.admits (n.cooperative o) := by
  induction h with
  | @of n fits below ih =>
      have replaced : ∀ p c, (p, c) ∈ n.positions → (cooperativeAt o p c).FitsIn p := by
        intro p c hc
        unfold cooperativeAt
        split
        · exact ⟨(ih p c hc).2 p (fits p c hc), (ih p c hc).1⟩
        · exact ⟨fits p c hc, below p c hc⟩
      rw [cooperative_eq o (.of fits below)]
      refine ⟨shaped_applyRule o (shaped_mapPositions replaced), fun p hp => ?_⟩
      exact admits_applyRule o (by simpa using hp)

theorem FitsIn.cooperative (o : Options) {n : Node} {p : Position} (h : n.FitsIn p) :
    (n.cooperative o).FitsIn p :=
  ⟨(h.shaped.cooperative_fitsIn o).2 p h.admitted, (h.shaped.cooperative_fitsIn o).1⟩

theorem Shaped.isPresent_cooperative (o : Options) {n : Node} (h : n.Shaped) :
    (n.cooperative o).isPresent = n.isPresent := by
  rw [cooperative_eq o h, isPresent_applyRule, isPresent_mapPositions]

/-- The children may be made cooperative alone. -/
theorem Shaped.cooperative_children (o : Options) {n : Node} (h : n.Shaped) :
    (n.mapPositions (cooperativeAt o)).Shaped := by
  refine shaped_mapPositions fun p c hc => ?_
  unfold cooperativeAt
  split
  · exact (h.childrenFit p c hc).cooperative o
  · exact h.childrenFit p c hc

end Node

end CoScript
