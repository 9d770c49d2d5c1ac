import Mathlib.Logic.Basic
import CoScript.Erasure
import CoScript.Proofs.Tree.Shape

/-!
Erasing types node by node, and that it keeps trees well shaped. A child is replaced according to its
position: tags are cleared, and where a statement is required one that only declares a type gives way
to an empty one. What is left to do at a node is to drop it, to unwrap it or to drop the statements of
a list that are gone.
-/
namespace CoScript.Node

/-- The replacement of a child. -/
def erasedAt : Position → Node → Node
  | .optional .type, _ => absent
  | .body, c => c.eraseTypes.orEmpty
  | .optional .body, c => if c.isPresent then c.eraseTypes.orEmpty else absent
  | .type, c | .signature, c | .typeName, c | .inType _, c => c
  | _, c => c.eraseTypes

/-- What is left of a node whose children have no types. -/
def dropTypes : Node → Node
  | interfaceDeclaration _ _ _ _ | typeAlias _ _ _ => absent
  | assertion _ e _ _ | nonNull _ e => e
  | program body => program (body.filter isPresent)
  | block t body => block t (body.filter isPresent)
  | switchCase t test body => switchCase t test (body.filter isPresent)
  | declarator t target _ type value => declarator t target false type value
  | parameter t target _ rest type default => parameter t target false rest type default
  | n => n

theorem eraseTypesAll_eq_map (ns : List Node) : eraseTypesAll ns = ns.map eraseTypes := by
  induction ns with
  | nil => rfl
  | cons n ns ih => rw [eraseTypesAll, ih, List.map_cons]

theorem FitsIn.eraseTypes_key {n : Node} (h : n.FitsIn (.key false)) : n.eraseTypes = n := by
  cases n with
  | identifier | privateName | string | number => rfl
  | _ => cases h.admitted

theorem FitsIn.eraseTypes_name {n : Node} (h : n.FitsIn .name) : n.eraseTypes = n := by
  cases n with
  | identifier => rfl
  | _ => cases h.admitted

theorem FitsIn.eraseTypes_optional {n : Node} {p : Position} (h : n.FitsIn (.optional p))
    (k : n.FitsIn p → n.eraseTypes = n) : n.eraseTypes = n :=
  h.absent_or.elim (fun absent => absent ▸ rfl) k

/-- A child that is visited on a condition is as good as visited if nothing is erased from it where
the condition fails. -/
theorem ite_eraseTypes {c : Bool} {n : Node} (kept : c = false → n.eraseTypes = n) :
    (if c then n.eraseTypes else n) = n.eraseTypes := by
  cases c with
  | false => exact (kept rfl).symm
  | true => rfl

/-- Types are erased from the children up. Signatures are inside of types, which are not visited. -/
theorem eraseTypes_eq {n : Node} (h : n.Shaped) (outside : n.category ≠ .signature) :
    n.eraseTypes = (n.mapPositions erasedAt).dropTypes := by
  have fits := h.childrenFit
  have lists := eraseTypesAll_eq_map
  cases n with
  | program body => exact congrArg (fun left => program (left.filter isPresent)) (lists body)
  | block t body => exact congrArg (fun left => block t (left.filter isPresent)) (lists body)
  | switchCase t test body =>
      exact congrArg (fun left => switchCase t test.eraseTypes (left.filter isPresent)) (lists body)
  | declaration t keyword ds => exact congrArg (declaration t keyword) (lists ds)
  | switchStatement t d cases => exact congrArg (switchStatement t d.eraseTypes) (lists cases)
  | template t chunks es => exact congrArg (template t chunks) (lists es)
  | array t es => exact congrArg (array t) (lists es)
  | object t ps => exact congrArg (object t) (lists ps)
  | sequence t es => exact congrArg (sequence t) (lists es)
  | arrayPattern t es => exact congrArg (arrayPattern t) (lists es)
  | objectPattern t ps rest => exact congrArg (objectPattern t · rest.eraseTypes) (lists ps)
  | call t f args optional => exact congrArg (call t f.eraseTypes · optional) (lists args)
  | new t f args => exact congrArg (new t f.eraseTypes) (lists args)
  -- Types are left as they are.
  | unionType t ts => exact congrArg (unionType t) (List.map_id ts).symm
  | intersectionType t ts => exact congrArg (intersectionType t) (List.map_id ts).symm
  | tupleType t ts => exact congrArg (tupleType t) (List.map_id ts).symm
  | typeReference t name args => exact congrArg (typeReference t name) (List.map_id args).symm
  | objectType t members => exact congrArg (objectType t) (List.map_id members).symm
  | functionType t ps r => exact congrArg (functionType t · r) (List.map_id ps).symm
  | propertySignature | methodSignature => exact absurd rfl outside
  -- What is left are children that the pass does not visit: names, plain keys and empty places.
  | breakStatement t l =>
      exact congrArg (breakStatement t)
        ((fits _ l (.head _)).eraseTypes_optional FitsIn.eraseTypes_name).symm
  | continueStatement t l =>
      exact congrArg (continueStatement t)
        ((fits _ l (.head _)).eraseTypes_optional FitsIn.eraseTypes_name).symm
  | labeled t l body =>
      exact congrArg (labeled t · body.eraseTypes.orEmpty) (fits _ l (.head _)).eraseTypes_name.symm
  | function t async name ps r body =>
      have named := (fits _ name (.head _)).eraseTypes_optional FitsIn.eraseTypes_name
      exact congrArg₂ (function t async · · absent body.eraseTypes) named.symm (lists ps)
  | forStatement t init c u body =>
      refine congrArg (forStatement t · c.eraseTypes u.eraseTypes body.eraseTypes.orEmpty)
        (ite_eraseTypes fun barred => ?_)
      exact (fits _ init (.head _)).eraseTypes_optional fun head =>
        absurd (head.admitted.symm.trans barred) Bool.noConfusion
  | forIn t left right body =>
      exact congrArg (forIn t · right.eraseTypes body.eraseTypes.orEmpty)
        (if_pos (fits _ left (.head _)).admitted)
  | forOf t awaits left right body =>
      exact congrArg (forOf t awaits · right.eraseTypes body.eraseTypes.orEmpty)
        (if_pos (fits _ left (.head _)).admitted)
  | arrow t async ps r body =>
      have ending : (.arrowBody, body) ∈ (arrow t async ps r body).positions := by simp
      exact congrArg₂ (arrow t async · absent ·) (lists ps) (if_pos (fits _ body ending).admitted)
  | property t key computed value shorthand method =>
      have keyed : (if computed then key.eraseTypes else key) = key.eraseTypes :=
        ite_eraseTypes fun plain => (fits _ key (.head _)).eraseTypes_optional fun fit =>
          FitsIn.eraseTypes_key (plain ▸ fit)
      cases method <;> exact congrArg (property t · computed value.eraseTypes shorthand _) keyed
  | member t o key computed optional =>
      exact congrArg (member t o.eraseTypes · computed optional) (ite_eraseTypes fun plain =>
        FitsIn.eraseTypes_key (plain ▸ fits _ key (.tail _ (.head _))))
  | patternProperty t key computed value shorthand =>
      exact congrArg (patternProperty t · computed value.eraseTypes shorthand)
        (ite_eraseTypes fun plain => FitsIn.eraseTypes_key (plain ▸ fits _ key (.head _)))
  | _ => rfl

/-! Shape. -/

/-- Where a node without types may stand: a statement may be gone. -/
def Position.erased : Position → Position
  | statement => optional statement
  | body => optional body
  | optional p => optional p.erased
  | inType p => inType p.erased
  | p => p

/-- An expression stays an expression when its types are erased. -/
theorem FitsIn.isExpression_eraseTypes {n : Node} (h : n.FitsIn .expression) :
    n.eraseTypes.isExpression := by
  obtain ⟨admitted, shaped⟩ := h
  induction shaped with
  | @of n fits below ih =>
      cases n with
      | assertion t e type satisfies =>
          exact ih .expression e (by simp [positions]) (fits .expression e (by simp [positions]))
      | nonNull t e =>
          exact ih .expression e (by simp [positions]) (fits .expression e (by simp [positions]))
      | interfaceDeclaration | typeAlias => cases admitted
      | _ => exact admitted

/-- A statement stays a statement or is gone; all else stays of its category. -/
theorem Shaped.category_eraseTypes {n : Node} (h : n.Shaped) :
    n.eraseTypes.category = n.category ∨ n.category = .statement ∧ n.eraseTypes = absent := by
  cases n with
  | interfaceDeclaration | typeAlias => exact .inr ⟨rfl, rfl⟩
  | assertion | nonNull =>
      exact .inl (beq_iff_eq.1 (FitsIn.isExpression_eraseTypes ⟨rfl, h⟩))
  | _ => exact .inl rfl

/-- A node stays where it is when its types are erased, except for statements that are gone. -/
theorem Shaped.admits_eraseTypes {n : Node} (h : n.Shaped) {p : Position} (hp : p.admits n) :
    p.erased.admits n.eraseTypes := by
  induction p with
  | optional p ih =>
      cases n with
      | absent => rfl
      | _ => exact Bool.or_eq_true_iff.2 (.inr (ih hp))
  | inType p ih => exact ih hp
  | statement | body =>
      obtain same | ⟨-, gone⟩ := h.category_eraseTypes
      · exact Bool.or_eq_true_iff.2 (.inr (by simpa [Position.admits, same] using hp))
      · rw [gone]; rfl
  | expression => exact FitsIn.isExpression_eraseTypes ⟨hp, h⟩
  | declarator | parameter | entry | patternEntry | catchClause | switchCase | type | signature =>
      obtain same | ⟨statement, -⟩ := h.category_eraseTypes
      · simpa [Position.admits, Position.erased, same] using hp
      · simp [Position.admits, statement] at hp
  | loopHead =>
      cases n with
      | declaration => exact hp
      | _ => exact canHeadLoop_of_isExpression (FitsIn.isExpression_eraseTypes ⟨hp, h⟩)
  | arrowBody =>
      cases n with
      | block => exact hp
      | _ => exact canEndArrow_of_isExpression (FitsIn.isExpression_eraseTypes ⟨hp, h⟩)
  | key computed =>
      cases computed with
      | true => exact FitsIn.isExpression_eraseTypes ⟨hp, h⟩
      | false => exact (FitsIn.eraseTypes_key ⟨hp, h⟩).symm ▸ hp
  | block | function | template | name | caught | binding | boundValue | boundElement | typeName =>
      cases n with
      | block | function | template | identifier | arrayPattern | objectPattern
      | assignmentPattern | restElement | qualifiedName =>
          exact hp
      | _ => cases hp

theorem orEmpty_fitsIn {n : Node} (h : n.FitsIn (.optional .body)) : n.orEmpty.FitsIn .body := by
  obtain rfl | here := h.absent_or
  · exact .intro rfl (.leaf rfl)
  · cases n with
    | absent => cases here.admitted
    | _ => exact here

/-- A place that may be empty does not notice that a statement is gone. -/
theorem Position.admits_optional_erased (p : Position) (n : Node) :
    (optional p.erased).admits n = (optional p).admits n := by
  induction p with
  | statement | body => simp [erased, admits]
  | optional p ih =>
      simp only [erased, admits] at ih ⊢
      rw [ih]
  | inType p ih => exact ih
  | _ => rfl

/-- The replacement of a child fits where the child is, unless that is in a list of statements. -/
theorem FitsIn.erasedAt {p : Position} {c : Node} (h : c.FitsIn p) (shaped : c.eraseTypes.Shaped)
    (noStatement : p ≠ .statement) : (erasedAt p c).FitsIn p := by
  have admitted := h.shaped.admits_eraseTypes h.admitted
  cases p with
  | statement => exact absurd rfl noStatement
  | body => exact orEmpty_fitsIn ⟨admitted, shaped⟩
  | type | signature | typeName | inType => exact h
  | optional p =>
      cases p with
      | type => exact absent_fitsIn _
      | body =>
          cases c with
          | absent => exact absent_fitsIn _
          | _ => exact (orEmpty_fitsIn ⟨h.shaped.admits_eraseTypes (p := .body) h.admitted, shaped⟩).optional
      | _ => exact ⟨(Position.admits_optional_erased _ _).symm.trans admitted, shaped⟩
  | _ => exact ⟨admitted, shaped⟩

/-- Whether a node has a list of statements. -/
def listsStatements : Node → Bool
  | program _ | block _ _ | switchCase _ _ _ => true
  | _ => false

theorem listsStatements_of_position {n c : Node} (h : (.statement, c) ∈ n.positions) :
    n.listsStatements := by
  cases n with
  | program | block | switchCase => rfl
  | property t key computed value shorthand method => cases method <;> simp [positions] at h
  | _ => simp [positions, each] at h

/-- The statements that are left of a list. -/
theorem AllFit.erased_statements {body : List Node} (h : AllFit .statement body)
    (shaped : ∀ s ∈ body, s.eraseTypes.Shaped) :
    AllFit .statement ((eraseTypesAll body).filter isPresent) := by
  intro s hs
  obtain ⟨mem, present⟩ := List.mem_filter.1 hs
  rw [eraseTypesAll_eq_map] at mem
  obtain ⟨s₀, mem₀, rfl⟩ := List.mem_map.1 mem
  have admitted := (h s₀ mem₀).shaped.admits_eraseTypes (h s₀ mem₀).admitted
  exact FitsIn.required ⟨admitted, shaped s₀ mem₀⟩ present

/-- Erasing types keeps a tree well shaped. -/
theorem Shaped.eraseTypes {n : Node} (h : n.Shaped) : n.eraseTypes.Shaped := by
  induction h with
  | @of n fits below ih =>
      have shaped : n.Shaped := .of fits below
      have children : Throughout (fun p c => c.FitsIn p ∧ c.eraseTypes.Shaped) n.positions :=
        fun p c hc => ⟨⟨fits p c hc, below p c hc⟩, ih p c hc⟩
      have ordinary (h : n.listsStatements = false) :
          (n.mapPositions Node.erasedAt).ChildrenFit := by
        refine Shaped.childrenFit (shaped_mapPositions fun p c hc => ?_)
        refine (children p c hc).1.erasedAt (children p c hc).2 ?_
        rintro rfl
        exact absurd (listsStatements_of_position hc) (by simp [h])
      have statements {body : List Node}
          (h : ∀ s ∈ body, s.FitsIn .statement ∧ s.eraseTypes.Shaped) :=
        AllFit.erased_statements (fun s hs => (h s hs).1) fun s hs => (h s hs).2
      cases n with
      | interfaceDeclaration | typeAlias => exact absent_shaped
      | assertion t e type satisfies | nonNull t e => exact ih .expression e (by simp [positions])
      | program body | block t body =>
          exact ChildrenFit.shaped (fit_each.2 (statements (throughout_each.1 children)))
      | switchCase t test body =>
          obtain ⟨⟨fits, shaped⟩, body⟩ := throughout_cons.1 children
          have test := fits.erasedAt shaped (by simp)
          exact ChildrenFit.shaped (fit_cons.2 ⟨test, fit_each.2 (statements (throughout_each.1 body))⟩)
      | propertySignature | methodSignature | indexSignature => exact shaped
      | _ =>
          rw [eraseTypes_eq shaped (by simp [category])]
          exact ChildrenFit.shaped (ordinary rfl)

end CoScript.Node
