import CoScript.Proofs.Cooperate.Kept
import CoScript.Proofs.Erasure.Shape
import CoScript.Proofs.Tree.Tokens

/-!
Cooperation and erasing types, in either order. The two orders give the same tree, up to tokens, where
both orders take the same decisions: whether a call receives the context, and which setter a write goes
through. These look at the shape of a callee and of a target, and an assertion about a type hides it.
-/
namespace CoScript

open Cooperate

namespace Node

/-- The order of cooperation and erasing types does not matter for a tree. -/
def Commutes (o : Options) (n : Node) : Prop :=
  (n.cooperative o).eraseTypes.Alike (n.eraseTypes.cooperative o)

/-- Whether nothing is left of a node without types. -/
def isErased : Node → Bool
  | interfaceDeclaration _ _ _ _ | typeAlias _ _ _ | absent => true
  | _ => false

section
variable {n c : Node} {p : Position} (o : Options)

theorem Shaped.isPresent_eraseTypes (h : n.Shaped) : n.eraseTypes.isPresent = !n.isErased := by
  have present {e : Node} (he : e.isExpression) : e.isPresent := by
    cases e with
    | absent => cases he
    | _ => rfl
  cases n with
  | assertion | nonNull => exact present (FitsIn.isExpression_eraseTypes ⟨rfl, h⟩)
  | _ => rfl

theorem isErased_applyRule (noInterface : n.isInterface = false) :
    (n.applyRule o).isErased = n.isErased ∧ (n.applyRule o).isLasting = n.isLasting := by
  cases n with
  | interfaceDeclaration => cases noInterface
  | catchClause t p type body => cases p <;> exact ⟨rfl, rfl⟩
  | assignment t operator target value =>
      obtain plain | ⟨r, v, -, -, routed⟩ := managedAssignment_cases o t operator target value
      · rw [applyRule, plain]
        exact ⟨rfl, rfl⟩
      · rw [applyRule, routed]
        exact ⟨rfl, rfl⟩
  | _ => exact ⟨rfl, rfl⟩

/-- Cooperation does not change what erasing types and loops do to a node, unless it is an
interface. -/
theorem Shaped.isErased_cooperative (h : n.Shaped) (noInterface : n.isInterface = false) :
    (n.cooperative o).isErased = n.isErased ∧ (n.cooperative o).isLasting = n.isLasting := by
  have kept : (n.mapPositions (cooperativeAt o)).isInterface = n.isInterface ∧
      (n.mapPositions (cooperativeAt o)).isErased = n.isErased ∧
      (n.mapPositions (cooperativeAt o)).isLasting = n.isLasting := by
    cases n <;> exact ⟨rfl, rfl, rfl⟩
  rw [cooperative_eq o h, ← kept.2.1, ← kept.2.2]
  exact isErased_applyRule o (kept.1.trans noInterface)

theorem Shaped.isPattern_eraseTypes (h : n.Shaped) : n.eraseTypes.isPattern = n.isPattern := by
  have noPattern {e : Node} (he : e.isExpression) : e.isPattern = false := by
    cases e with
    | arrayPattern | objectPattern => cases he
    | _ => rfl
  cases n with
  | assertion | nonNull => exact noPattern (FitsIn.isExpression_eraseTypes ⟨rfl, h⟩)
  | _ => rfl

/-- Erasing types does not change which children are values. -/
theorem Shaped.isValue_erasedAt (h : c.Shaped) : p.isValue (erasedAt p c) = p.isValue c := by
  have same := Position.isValue_congr h.isPattern_eraseTypes
  cases p with
  | caught => exact same .caught
  | optional p =>
      cases p with
      | body | type => rfl
      | _ => exact same (.optional _)
  | _ => rfl

/-- After erasing types it does not matter for the presence of a node whether it is cooperative. -/
theorem Shaped.isPresent_erased_cooperative (h : n.Shaped) (noInterface : n.isInterface = false) :
    (n.cooperative o).eraseTypes.isPresent = n.eraseTypes.isPresent := by
  rw [(h.cooperative_fitsIn o).1.isPresent_eraseTypes, h.isPresent_eraseTypes,
    (h.isErased_cooperative o noInterface).1]

theorem eq_absent_of_isPresent (h : n.isPresent = false) : n = absent := by
  cases n with
  | absent => rfl
  | _ => cases h

theorem orEmpty_of_isPresent (h : n.isPresent) : n.orEmpty = n := by
  cases n with
  | absent => cases h
  | _ => rfl

/-- Where nothing is left of a tree, the order does not matter. -/
theorem Shaped.commutes_of_erased (h : n.Shaped) (noInterface : n.isInterface = false)
    (gone : n.eraseTypes.isPresent = false) : Commutes o n := by
  have gone' := (h.isPresent_erased_cooperative o noInterface).trans gone
  rw [Commutes, eq_absent_of_isPresent gone, eq_absent_of_isPresent gone']
  rfl

/-- A statement that another one governs. -/
theorem Shaped.alike_orEmpty (h : n.Shaped) (noInterface : n.isInterface = false) :
    (n.cooperative o).eraseTypes.orEmpty.Alike (n.eraseTypes.orEmpty.cooperative o) ↔
      Commutes o n := by
  have same := h.isPresent_erased_cooperative o noInterface
  cases present : n.eraseTypes.isPresent with
  | true => rw [orEmpty_of_isPresent present, orEmpty_of_isPresent (same.trans present), Commutes]
  | false =>
      refine iff_of_true ?_ (h.commutes_of_erased o noInterface present)
      rw [eq_absent_of_isPresent present, eq_absent_of_isPresent (same.trans present)]
      rfl

/-- The two replacements of a child, in either order. -/
theorem alike_erasedAt (h : c.FitsIn p)
    (noInterface : p.isValue c → c.isInterface = false) :
    (erasedAt p (cooperativeAt o p c)).Alike (cooperativeAt o p (erasedAt p c)) ↔
      (p.isValue c → Commutes o c) := by
  unfold cooperativeAt
  rw [h.shaped.isValue_erasedAt]
  cases value : p.isValue c with
  | false => exact iff_of_true rfl nofun
  | true =>
      simp only [if_true, true_implies]
      have governed := h.shaped.alike_orEmpty o (noInterface value)
      cases p with
      | type | signature | typeName | inType => cases value
      | body => exact governed
      | optional p =>
          cases p with
          | type => cases value
          | body =>
              simp only [erasedAt, h.shaped.isPresent_cooperative o]
              cases present : c.isPresent with
              | true => exact governed
              | false =>
                  rw [eq_absent_of_isPresent present]
                  exact Iff.rfl
          | _ => exact Iff.rfl
      | _ => exact Iff.rfl

/-- Nodes for which the two passes do nothing but change a flag. -/
theorem Shaped.commutes_of_flags (h : n.Shaped) (rewritten erased both : Node)
    (noInterface : AllValues (fun c => c.isInterface = false) n.positions)
    (outside : n.category ≠ .signature) (outside' : rewritten.category ≠ .signature)
    (rule : ∀ f, (n.mapPositions f).applyRule o = rewritten.mapPositions f)
    (drop : ∀ f, (n.mapPositions f).dropTypes = erased.mapPositions f)
    (dropAfter : ∀ f, (rewritten.mapPositions f).dropTypes = both.mapPositions f)
    (ruleAfter : ∀ f, (erased.mapPositions f).applyRule o = both.mapPositions f)
    (same : both.positions = n.positions) :
    Commutes o n ↔ AllValues (Commutes o) n.positions := by
  have first : n.cooperative o = rewritten.mapPositions (cooperativeAt o) := by
    rw [cooperative_eq o h, rule]
  have second : n.eraseTypes = erased.mapPositions erasedAt := by
    rw [eraseTypes_eq h outside, drop]
  have shaped := (h.cooperative_fitsIn o).1
  have shaped' := h.eraseTypes
  rw [first] at shaped
  rw [second] at shaped'
  rw [Commutes, first, second, eraseTypes_eq shaped (by simpa using outside'),
    cooperative_eq o shaped', mapPositions_mapPositions, mapPositions_mapPositions, dropAfter,
    ruleAfter, alike_mapPositions, same]
  refine forall₃_congr fun p c hc => ?_
  exact alike_erasedAt o (h.childrenFit p c hc) (noInterface p c hc)

/-! Lists of statements. -/

theorem statements_alike {body : List Node} (h : AllFit .statement body)
    (noInterface : ∀ s ∈ body, s.isInterface = false) :
    ((eraseTypesAll (body.map (cooperative o))).filter isPresent).map withoutTokens =
        (((eraseTypesAll body).filter isPresent).map (cooperative o)).map withoutTokens ↔
      ∀ s ∈ body, Commutes o s := by
  induction body with
  | nil => simp [eraseTypesAll]
  | cons s body ih =>
      have fits := h s List.mem_cons_self
      have named := noInterface s List.mem_cons_self
      have same := fits.shaped.isPresent_erased_cooperative o named
      have rest := ih (fun m hm => h m (List.mem_cons_of_mem s hm))
        fun m hm => noInterface m (List.mem_cons_of_mem s hm)
      rw [List.forall_mem_cons, ← rest]
      cases present : s.eraseTypes.isPresent with
      | true => simp [eraseTypesAll, same, present, Commutes, Alike]
      | false =>
          rw [and_iff_right (fits.shaped.commutes_of_erased o named present)]
          simp [eraseTypesAll, same, present]

theorem cooperative_program (body : List Node) :
    (program body).cooperative o = program (body.map (cooperative o)) := by
  rw [← result_cooperateAll]
  rfl

theorem cooperative_switchCase (t : Token) (test : Node) (body : List Node) :
    (switchCase t test body).cooperative o =
      switchCase t (test.cooperative o) (body.map (cooperative o)) := by
  rw [← result_cooperateAll]
  rfl

/-! Nodes that rules put in have no types. -/

attribute [local simp] eraseTypes eraseTypesAll withoutTokens

theorem eraseTypes_path (spelling : Text) : (path spelling).eraseTypes = path spelling := by
  have extend (e : Node) (names : List Text) (he : e.eraseTypes = e) :
      (names.foldl (fun e name => member {} e (identifier {} name) false false) e).eraseTypes =
        names.foldl (fun e name => member {} e (identifier {} name) false false) e := by
    induction names generalizing e with
    | nil => exact he
    | cons name names ih => exact ih _ (by simp [he])
  unfold path
  split
  · rfl
  · exact extend _ _ rfl

theorem eraseTypes_yieldStatement (t : Token) :
    (yieldStatement o t).eraseTypes = yieldStatement o t := by
  simp [yieldStatement, contextCall, eraseTypes_path]

theorem eraseTypes_guard (t : Token) (name : Text) :
    (Cooperate.guard o t name).eraseTypes = Cooperate.guard o t name := by
  simp [Cooperate.guard, eraseTypes_path, isPresent, orEmpty]

/-- A statement without types in front of a block stays there. -/
theorem eraseTypes_block_cons {statement : Node} (hs : statement.eraseTypes = statement)
    (present : statement.isPresent) (t : Token) (body : List Node) :
    (block t (statement :: body)).eraseTypes =
      block t (statement :: (eraseTypesAll body).filter isPresent) := by
  simp [hs, present]

/-! Loops. -/

theorem loopBody_of_isLasting (t : Token) (h : n.isLasting) :
    (loopBody o t n).result = block t [yieldStatement o t, n] := by
  cases n with
  | block | absent | emptyStatement => cases h
  | _ => rfl

/-- A statement that is left without types stays what it is. -/
theorem statement_eraseTypes (statement : n.category = .statement) (kept : n.isErased = false) :
    n.eraseTypes.isInterface = false ∧ n.eraseTypes.isLasting = n.isLasting := by
  cases n with
  | interfaceDeclaration | typeAlias => cases kept
  | assertion | nonNull => cases statement
  | _ => exact ⟨rfl, rfl⟩

theorem alike_loopBody (t : Token) (h : n.FitsIn .body)
    (noInterface : n.isInterface = false) :
    (loopBody o t (n.cooperative o)).result.eraseTypes.orEmpty.Alike
        (loopBody o t (n.eraseTypes.orEmpty.cooperative o)).result ↔ Commutes o n := by
  have yields := eraseTypes_block_cons (eraseTypes_yieldStatement o t) rfl
  have statement : n.category = .statement := beq_iff_eq.1 h.admitted
  cases erased : n.isErased with
  | true =>
      cases n with
      | typeAlias => exact iff_of_true (congrArg withoutTokens (yields t _)) rfl
      | interfaceDeclaration => cases noInterface
      | absent => cases statement
      | _ => cases erased
  | false =>
      have present : n.eraseTypes.isPresent := by rw [h.shaped.isPresent_eraseTypes, erased]; rfl
      have present' := (h.shaped.isPresent_erased_cooperative o noInterface).trans present
      obtain ⟨outside, same⟩ := statement_eraseTypes statement erased
      rw [orEmpty_of_isPresent present]
      cases single : n.isLasting with
      | true =>
          have before := (h.shaped.isErased_cooperative o noInterface).2.trans single
          have after := (h.shaped.eraseTypes.isErased_cooperative o outside).2.trans
            (same.trans single)
          rw [loopBody_of_isLasting o t before, loopBody_of_isLasting o t after, yields]
          simp [Alike, Commutes, present', orEmpty]
      | false =>
          cases n with
          | block b body =>
              have left : (loopBody o t (block b (body.map (cooperative o)))).result.eraseTypes =
                  block b (yieldStatement o t ::
                    (eraseTypesAll (body.map (cooperative o))).filter isPresent) := yields b _
              rw [eraseTypes, cooperative_block, cooperative_block, left]
              simp [Alike, Commutes, cooperative_block, orEmpty, loopBody]
          | emptyStatement => exact iff_of_true (congrArg withoutTokens (yields t [])) rfl
          | absent => cases statement
          | _ => cases single

/-- The replacement of a child of a loop that starts at a token. -/
def loopAt (o : Options) (t : Token) : Position → Node → Node
  | .body, c => (loopBody o t (c.cooperative o)).result
  | p, c => cooperativeAt o p c

/-- Whether a node is a loop. -/
def isLoop : Node → Bool
  | forStatement _ _ _ _ _ | forIn _ _ _ _ | forOf _ _ _ _ _ | whileStatement _ _ _
  | doWhile _ _ _ => true
  | _ => false

theorem Shaped.cooperative_loop (h : n.Shaped) (loop : n.isLoop) :
    n.cooperative o = n.mapPositions (loopAt o n.token) := by
  rw [cooperative_eq o h]
  cases n with
  | forStatement | forIn | forOf | whileStatement | doWhile => rfl
  | _ => cases loop

theorem loop_mapPositions (loop : n.isLoop) (f : Position → Node → Node) :
    (n.mapPositions f).isLoop ∧ (n.mapPositions f).token = n.token ∧ n.category ≠ .signature ∧
      (n.mapPositions f).dropTypes = n.mapPositions f := by
  cases n with
  | forStatement | forIn | forOf | whileStatement | doWhile => exact ⟨rfl, rfl, nofun, rfl⟩
  | _ => cases loop

theorem Shaped.commutes_loop (h : n.Shaped) (loop : n.isLoop)
    (noInterface : AllValues (fun c => c.isInterface = false) n.positions) :
    Commutes o n ↔ AllValues (Commutes o) n.positions := by
  obtain ⟨loop', token, outside, drop⟩ := loop_mapPositions loop erasedAt
  have first := h.cooperative_loop o loop
  have second : n.eraseTypes = n.mapPositions erasedAt := (eraseTypes_eq h outside).trans drop
  have shaped := (h.cooperative_fitsIn o).1
  have shaped' := h.eraseTypes
  rw [first] at shaped
  rw [second] at shaped'
  rw [Commutes, first, second, eraseTypes_eq shaped (by simpa using outside),
    shaped'.cooperative_loop o loop', token, mapPositions_mapPositions, mapPositions_mapPositions,
    (loop_mapPositions loop _).2.2.2, alike_mapPositions]
  refine forall₃_congr fun p c hc => ?_
  cases p with
  | body =>
      exact (alike_loopBody o n.token (h.childrenFit _ c hc) (noInterface _ c hc rfl)).trans
        ⟨fun k _ => k, fun k => k rfl⟩
  | _ => exact alike_erasedAt o (h.childrenFit _ c hc) (noInterface _ c hc)

/-! Handlers and calls. -/

theorem alike_prepend (t : Token) {guard : Node} (hg : guard.eraseTypes = guard)
    (present : guard.isPresent) (h : n.isBlock) :
    (prepend t guard (n.cooperative o)).eraseTypes.Alike
        (prepend t guard (n.eraseTypes.cooperative o)) ↔ Commutes o n := by
  cases n with
  | block b body =>
      rw [eraseTypes, cooperative_block, cooperative_block]
      simp only [prepend, eraseTypes_block_cons hg present]
      simp [Alike, Commutes, cooperative_block]
  | _ => cases h

theorem commutes_catch {t : Token} {param type body : Node}
    (h : (catchClause t param type body).Shaped) :
    Commutes o (catchClause t param type body) ↔
      AllValues (Commutes o) (catchClause t param type body).positions := by
  have fits := h.childrenFit
  simp only [ChildrenFit, positions, fit_cons] at fits
  have guarded (name : Text) :=
    alike_prepend o (n := body) t (eraseTypes_guard o t name) rfl fits.2.2.1.admitted
  -- A handler with the error named, or nameless at first.
  have named (u : Token) (name : Text) :
      (catchClause t (identifier u name) type
        (prepend t (Cooperate.guard o t name) (body.cooperative o))).eraseTypes.Alike
        (catchClause t (identifier u name) absent
          (prepend t (Cooperate.guard o t name) (body.eraseTypes.cooperative o))) ↔
        Commutes o body := by
    rw [← guarded name]
    simp [Alike]
  have rest : AllValues (Commutes o) (catchClause t param type body).positions ↔
      (Position.caught.isValue param → Commutes o param) ∧ Commutes o body := by
    simp [positions, Position.isValue]
  rw [rest]
  obtain rfl | caught := fits.1.absent_or
  · exact (named t o.errorBinding).trans (and_iff_right fun _ => rfl).symm
  cases param with
  | identifier u name => exact (named u name).trans (and_iff_right fun _ => rfl).symm
  | arrayPattern | objectPattern =>
      refine Iff.trans ?_ (and_iff_right (by rintro ⟨⟩)).symm
      change (catchClause t _ type (body.cooperative o)).eraseTypes.Alike
        (catchClause t (eraseTypes _) absent (body.eraseTypes.cooperative o)) ↔ _
      simp [Alike, Commutes]
  | _ => cases caught.admitted

theorem Shaped.receivesContext_cooperative (h : n.Shaped) :
    receivesContext o (n.cooperative o) = receivesContext o n := by
  have other {m : Node} (hm : m.isPlainKey = false) : receivesContext o m = !o.bareCalleeContext := by
    cases m with
    | identifier => cases hm
    | _ => rfl
  cases plain : n.isPlainKey with
  | true => rw [cooperative_of_isPlainKey o plain]
  | false => rw [other ((h.isPlainKey_cooperative o).trans plain), other plain]

theorem cooperative_call_eq {t : Token} {f : Node} {args : List Node} {optional : Bool}
    (h : (call t f args optional).Shaped) :
    (call t f args optional).cooperative o = await t (call t (f.cooperative o)
      (if receivesContext o f then path o.context :: args.map (cooperative o)
        else args.map (cooperative o)) optional) := by
  have fits := h.childrenFit
  simp only [ChildrenFit, positions, fit_cons] at fits
  rw [← fits.1.shaped.receivesContext_cooperative o, cooperative_eq o h]
  rfl

theorem commutes_call {t : Token} {f : Node} {args : List Node} {optional : Bool}
    (h : (call t f args optional).Shaped) :
    Commutes o (call t f args optional) ↔
      receivesContext o f.eraseTypes = receivesContext o f ∧ Commutes o f ∧
        ∀ a ∈ args, Commutes o a := by
  have second := cooperative_call_eq o h.eraseTypes
  rw [Commutes, cooperative_call_eq o h, eraseTypes, second]
  cases before : receivesContext o f <;> cases after : receivesContext o f.eraseTypes
  case false.false | true.true =>
    simp [Alike, Commutes, eraseTypesAll_eq_map, eraseTypes_path, List.map_inj_left]
  -- Otherwise one of the calls has an argument more than the other.
  case false.true | true.false =>
    refine iff_of_false (fun same => ?_) (by simp)
    simp only [Alike, eraseTypes, eraseTypesAll_eq_map, withoutTokens,
      withoutTokensAll_eq_map, await.injEq, call.injEq, if_true, Bool.false_eq_true, if_false] at same
    simpa using congrArg List.length same.2.2.2.1

end

end Node

end CoScript
