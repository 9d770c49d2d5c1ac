import Mathlib.Logic.Basic
import CoScript.Cooperate.Tree
import CoScript.Proofs.Tree.Shape

/-!
Cooperation node by node. A well-shaped tree is made cooperative by replacing each child that is a
value by its cooperative form and then applying at most one rule to the node itself. What holds of all
trees is shown from this: the children are the induction, and only the few nodes that a rule matches
are looked at.
-/
namespace CoScript

namespace Cooperate.Logged

variable {α β : Type}

@[simp] theorem result_pure (a : α) : (pure a : Logged α).result = a := rfl

@[simp] theorem result_bind (x : Logged α) (f : α → Logged β) :
    (x >>= f).result = (f x.result).result := rfl

@[simp] theorem result_ite {c : Prop} [Decidable c] (x y : Logged α) :
    (if c then x else y).result = if c then x.result else y.result := by
  split <;> rfl

end Cooperate.Logged

open Cooperate

namespace Node

/-- The cooperative form of a tree. -/
def cooperative (o : Options) (n : Node) : Node :=
  (n.cooperate o).result

/-- The rule for a node whose children are cooperative already. -/
def applyRule (o : Options) : Node → Node
  | interfaceDeclaration t name bases members =>
    block t ((interfaceDeclaration t name bases members).interfaceVariables.map
      (declareStatement o t))
  | forStatement t init c u body => forStatement t init c u (loopBody o t body).result
  | forIn t left right body => forIn t left right (loopBody o t body).result
  | forOf t awaits left right body => forOf t awaits left right (loopBody o t body).result
  | whileStatement t c body => whileStatement t c (loopBody o t body).result
  | doWhile t body c => doWhile t (loopBody o t body).result c
  | catchClause t p type body => (handler o t p type body).result
  | function t _ name ps r body => function t true name ps r body
  | arrow t _ ps r body => arrow t true ps r body
  | call t f args optional => (awaitedCall o t f args optional).result
  | assignment t operator target value => (managedAssignment o t operator target value).result
  | n => n

/-- Whether there is a rule for a node. -/
def hasRule : Node → Bool
  | interfaceDeclaration _ _ _ _ | forStatement _ _ _ _ _ | forIn _ _ _ _ | forOf _ _ _ _ _
  | whileStatement _ _ _ | doWhile _ _ _ | catchClause _ _ _ _ | function _ _ _ _ _ _
  | arrow _ _ _ _ _ | call _ _ _ _ | assignment _ _ _ _ => true
  | _ => false

/-- The replacement of a child. -/
def cooperativeAt (o : Options) (p : Position) (c : Node) : Node :=
  if p.isValue c then c.cooperative o else c

theorem result_cooperateAll (o : Options) (ns : List Node) :
    (cooperateAll o ns).result = ns.map (cooperative o) := by
  induction ns with
  | nil => rfl
  | cons n ns ih => simp [cooperateAll, ih, cooperative]

theorem cooperative_block (o : Options) (t : Token) (body : List Node) :
    (block t body).cooperative o = block t (body.map (cooperative o)) := by
  rw [← result_cooperateAll]
  rfl

@[simp] theorem cooperative_absent (o : Options) : absent.cooperative o = absent := rfl

theorem FitsIn.cooperative_key {n : Node} (o : Options) (h : n.FitsIn (.key false)) :
    n.cooperative o = n := by
  cases n with
  | identifier | privateName | string | number => rfl
  | _ => cases h.admitted

theorem FitsIn.cooperative_name {n : Node} (o : Options) (h : n.FitsIn .name) :
    n.cooperative o = n := by
  cases n with
  | identifier => rfl
  | _ => cases h.admitted

/-- An empty place stays empty. -/
theorem FitsIn.cooperative_optional {n : Node} {o : Options} {p : Position}
    (h : n.FitsIn (.optional p)) (k : n.FitsIn p → n.cooperative o = n) : n.cooperative o = n :=
  h.absent_or.elim (fun absent => absent ▸ rfl) k

/-- A child that is visited on a condition is as good as visited if it is its own cooperative form
where the condition fails. -/
theorem result_visited {o : Options} {c : Bool} {n : Node} {k : Node → Logged Node}
    (kept : c = false → n.cooperative o = n) :
    (if c then n.cooperate o >>= k else pure n >>= k).result = (k (n.cooperative o)).result := by
  cases c with
  | false => rw [kept rfl]; rfl
  | true => rfl

/-- A tree is made cooperative from its children up. -/
theorem cooperative_eq (o : Options) {n : Node} (h : n.Shaped) :
    n.cooperative o = (n.mapPositions (cooperativeAt o)).applyRule o := by
  have fits := h.childrenFit
  have lists := result_cooperateAll o
  cases n with
  | program body => exact congrArg program (lists body)
  | block t body => exact congrArg (block t) (lists body)
  | declaration t keyword ds => exact congrArg (declaration t keyword) (lists ds)
  | switchStatement t d cases => exact congrArg (switchStatement t (d.cooperative o)) (lists cases)
  | switchCase t test body => exact congrArg (switchCase t (test.cooperative o)) (lists body)
  | template t chunks es => exact congrArg (template t chunks) (lists es)
  | array t es => exact congrArg (array t) (lists es)
  | object t ps => exact congrArg (object t) (lists ps)
  | sequence t es => exact congrArg (sequence t) (lists es)
  | arrayPattern t es => exact congrArg (arrayPattern t) (lists es)
  | objectPattern t ps rest => exact congrArg (objectPattern t · (rest.cooperative o)) (lists ps)
  | new t f args => exact congrArg (new t (f.cooperative o)) (lists args)
  | call t f args optional =>
      exact congrArg (fun args => (awaitedCall o t (f.cooperative o) args optional).result) (lists args)
  -- Types are left as they are.
  | interfaceDeclaration t name bases members =>
      exact congrArg₂ (fun bases members => block t
        ((interfaceDeclaration t name bases members).interfaceVariables.map (declareStatement o t)))
        (List.map_id bases).symm (List.map_id members).symm
  | unionType t ts => exact congrArg (unionType t) (List.map_id ts).symm
  | intersectionType t ts => exact congrArg (intersectionType t) (List.map_id ts).symm
  | tupleType t ts => exact congrArg (tupleType t) (List.map_id ts).symm
  | typeReference t name args => exact congrArg (typeReference t name) (List.map_id args).symm
  | objectType t members => exact congrArg (objectType t) (List.map_id members).symm
  | functionType t ps r => exact congrArg (functionType t · r) (List.map_id ps).symm
  | methodSignature t key computed optional ps r =>
      exact congrArg (methodSignature t key computed optional · r) (List.map_id ps).symm
  -- What is left are children that the pass does not visit: names, plain keys and empty places.
  | typeAlias t name type =>
      exact congrArg (typeAlias t · type) ((fits _ name (.head _)).cooperative_name o).symm
  | labeled t l body =>
      exact congrArg (labeled t · (body.cooperative o)) ((fits _ l (.head _)).cooperative_name o).symm
  | breakStatement t l =>
      exact congrArg (breakStatement t)
        ((fits _ l (.head _)).cooperative_optional fun name => name.cooperative_name o).symm
  | continueStatement t l =>
      exact congrArg (continueStatement t)
        ((fits _ l (.head _)).cooperative_optional fun name => name.cooperative_name o).symm
  | function t async name ps r body =>
      have named := (fits _ name (.head _)).cooperative_optional fun name => name.cooperative_name o
      exact congrArg₂ (function t true · · r (body.cooperative o)) named.symm (lists ps)
  | forStatement t init c u body =>
      refine (result_visited (n := init) fun barred => ?_).trans rfl
      exact (fits _ init (.head _)).cooperative_optional fun head =>
        absurd (head.admitted.symm.trans barred) Bool.noConfusion
  | forIn t left right body | forOf t awaits left right body =>
      refine (result_visited (n := left) fun barred => ?_).trans rfl
      exact absurd ((fits _ left (.head _)).admitted.symm.trans barred) Bool.noConfusion
  | arrow t async ps r body =>
      have ending : (.arrowBody, body) ∈ (arrow t async ps r body).positions := by simp
      refine (result_visited (n := body) fun barred => ?_).trans
        (congrArg (arrow t true · r (body.cooperative o)) (lists ps))
      exact absurd ((fits _ body ending).admitted.symm.trans barred) Bool.noConfusion
  | catchClause t p type body =>
      have caught : cooperativeAt o (.optional .caught) p = p := by
        rcases (fits _ p (.head _)).absent_or with rfl | named
        · rfl
        · cases p with
          | identifier | arrayPattern | objectPattern => rfl
          | _ => cases named.admitted
      exact congrArg (fun p => (handler o t p type (body.cooperative o)).result) caught.symm
  | property t key computed value shorthand method =>
      cases method <;>
        refine (result_visited (n := key) fun plain => ?_).trans rfl <;>
        exact (fits _ key (.head _)).cooperative_optional fun fit =>
          FitsIn.cooperative_key o (plain ▸ fit)
  | member t whole key computed optional =>
      refine (result_visited (n := key) fun plain => ?_).trans rfl
      exact FitsIn.cooperative_key o (plain ▸ fits _ key (.tail _ (.head _)))
  | patternProperty t key computed value shorthand =>
      refine (result_visited (n := key) fun plain => ?_).trans rfl
      exact FitsIn.cooperative_key o (plain ▸ fits _ key (.head _))
  | _ => rfl

/-- The values below a node whose children are made cooperative are cooperative forms. -/
theorem allValues_cooperativeAt {o : Options} {P : Node → Prop} {n : Node}
    (h : AllValues (fun c => P (c.cooperative o)) n.positions) :
    AllValues P (n.mapPositions (cooperativeAt o)).positions := by
  intro p c' hc' value
  rw [positions_mapPositions] at hc'
  obtain ⟨⟨q, c⟩, hc, heq⟩ := List.mem_map.1 hc'
  obtain ⟨rfl, rfl⟩ := Prod.mk.inj heq
  simp only [cooperativeAt] at value ⊢
  split at value
  · rename_i visited
    simpa [visited] using h q c hc visited
  · contradiction

end Node

end CoScript
