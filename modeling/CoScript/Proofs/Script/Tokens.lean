import CoScript.Proofs.Cooperate.Rules
import CoScript.Proofs.Erasure.Shape
import CoScript.Proofs.Print.Tokens
import CoScript.Syntax.Variable

/-!
Tokens tell the passes nothing. Erasing types, making a script cooperative and listing its variables
come to the same for trees that differ in tokens only.
-/
namespace CoScript

open Cooperate

namespace Node

@[simp] theorem canHeadLoop_withoutTokens (n : Node) :
    n.withoutTokens.canHeadLoop = n.canHeadLoop := by
  cases n <;> rfl

@[simp] theorem canEndArrow_withoutTokens (n : Node) :
    n.withoutTokens.canEndArrow = n.canEndArrow := by
  cases n <;> rfl

@[simp] theorem orEmpty_withoutTokens (n : Node) :
    n.withoutTokens.orEmpty = n.orEmpty.withoutTokens := by
  cases n <;> rfl

/-! Erasing types. -/

theorem filter_withoutTokensAll (ns : List Node) :
    (withoutTokensAll ns).filter isPresent = withoutTokensAll (ns.filter isPresent) := by
  simp [List.filter_map, Function.comp_def]

theorem eraseTypes_withoutTokens (n : Node) :
    n.withoutTokens.eraseTypes = n.eraseTypes.withoutTokens := by
  apply @Node.rec (fun n => n.withoutTokens.eraseTypes = n.eraseTypes.withoutTokens)
    (fun ns => eraseTypesAll (withoutTokensAll ns) = withoutTokensAll (eraseTypesAll ns))
  all_goals
    intros
    simp only [withoutTokens, withoutTokensAll, eraseTypes, eraseTypesAll, apply_ite withoutTokens,
      filter_withoutTokensAll, orEmpty_withoutTokens, isPresent_withoutTokens,
      canHeadLoop_withoutTokens, canEndArrow_withoutTokens, *]

/-! Making a script cooperative. -/

theorem staticName?_withoutTokens (n : Node) : n.withoutTokens.staticName? = n.staticName? := by
  cases n with
  | member t whole key computed optional =>
      cases key with
      | identifier | string => cases computed <;> rfl
      | _ => rfl
  | _ => rfl

theorem path_withoutTokens (spelling : Text) : (path spelling).withoutTokens = path spelling := by
  have extended (names : List Text) (n : Node) (h : n.withoutTokens = n) :
      (names.foldl (fun e name => member {} e (identifier {} name) false false) n).withoutTokens =
        names.foldl (fun e name => member {} e (identifier {} name) false false) n := by
    induction names generalizing n with
    | nil => exact h
    | cons name names ih => exact ih _ (by simp [withoutTokens, h])
  rw [path]
  split
  · rfl
  · exact extended _ _ rfl

theorem isEmpty_withoutTokensAll (ns : List Node) : (withoutTokensAll ns).isEmpty = ns.isEmpty := by
  cases ns <;> rfl

theorem typeTags_withoutTokens (n : Node) : n.withoutTokens.typeTags = n.typeTags := by
  apply @Node.rec (fun n => n.withoutTokens.typeTags = n.typeTags)
    (fun ns => typeTagsAll (withoutTokensAll ns) = typeTagsAll ns)
  case typeReference =>
    intro t name args _ _
    cases name <;> rfl
  all_goals
    intros
    simp only [withoutTokens, withoutTokensAll, typeTags, typeTagsAll, isEmpty_withoutTokensAll, *]

theorem declared?_withoutTokens (n : Node) : n.withoutTokens.declared? = n.declared? := by
  cases n with
  | propertySignature t key computed optional readonly type =>
      cases key with
      | identifier u name =>
          cases computed with
          | false => exact congrArg (fun types => some (Variable.mk name types)) (typeTags_withoutTokens type)
          | true => rfl
      | string u value spelling =>
          exact congrArg (fun types => some (Variable.mk value types)) (typeTags_withoutTokens type)
      | _ => rfl
  | _ => rfl

theorem interfaceVariables_withoutTokens (n : Node) :
    n.withoutTokens.interfaceVariables = n.interfaceVariables := by
  cases n with
  | interfaceDeclaration t name bases members =>
      simp [withoutTokens, interfaceVariables, List.filterMap_map,
        declared?_withoutTokens]
  | _ => rfl

theorem declaredVariables_withoutTokens (n : Node) :
    n.withoutTokens.declaredVariables = n.declaredVariables := by
  cases n with
  | program body =>
      simp [withoutTokens, declaredVariables, List.flatMap_map, interfaceVariables_withoutTokens]
  | _ => rfl

section
attribute [local simp] withoutTokens path_withoutTokens

theorem withoutTokens_contextCall (o : Options) (method : String) (args : List Node) :
    (contextCall o method args).withoutTokens = contextCall o method (args.map withoutTokens) := by
  simp [contextCall]

theorem withoutTokens_yieldStatement (o : Options) (t : Token) :
    (yieldStatement o t).withoutTokens = yieldStatement o {} := by
  simp [yieldStatement, withoutTokens_contextCall]

theorem withoutTokens_declareStatement (o : Options) (t : Token) (v : Variable) :
    (declareStatement o t v).withoutTokens = declareStatement o {} v := by
  simp [declareStatement, withoutTokens_contextCall, Function.comp_def]

theorem withoutTokens_guard (o : Options) (t : Token) (name : Text) :
    (Cooperate.guard o t name).withoutTokens = Cooperate.guard o {} name := by
  simp [Cooperate.guard]

theorem withoutTokens_prepend (t : Token) (statement body : Node) :
    (prepend t statement body).withoutTokens =
      prepend {} statement.withoutTokens body.withoutTokens := by
  cases body <;> rfl

theorem withoutTokens_loopBody (o : Options) (t : Token) (body : Node) :
    (loopBody o t body).result.withoutTokens = (loopBody o {} body.withoutTokens).result := by
  have yields := withoutTokens_yieldStatement o t
  cases body with
  | block b body => exact congrArg (fun first => block {} (first :: withoutTokensAll body)) yields
  | absent | emptyStatement => exact congrArg (fun first => block {} [first]) yields
  | _ => exact congrArg (fun first => block {} [first, _]) yields

theorem withoutTokens_handler (o : Options) (t : Token) (param type body : Node) :
    (handler o t param type body).result.withoutTokens =
      (handler o {} param.withoutTokens type.withoutTokens body.withoutTokens).result := by
  cases param with
  | absent | identifier => simp [handler, withoutTokens_prepend, withoutTokens_guard]
  | _ => rfl

theorem receivesContext_withoutTokens (o : Options) (f : Node) :
    receivesContext o f.withoutTokens = receivesContext o f := by
  cases f <;> rfl

theorem withoutTokens_awaitedCall (o : Options) (t : Token) (f : Node) (args : List Node)
    (optional : Bool) :
    (awaitedCall o t f args optional).result.withoutTokens =
      (awaitedCall o {} f.withoutTokens (withoutTokensAll args) optional).result := by
  simp only [awaitedCall, receivesContext_withoutTokens]
  split <;> simp

theorem setter?_withoutTokens (o : Options) (name : Text) (object : Node) :
    setter? o name object.withoutTokens =
      (setter? o name object).map (Prod.map withoutTokens id) := by
  have plain : (o.setters.lookup name).map (object.withoutTokens, ·) =
      ((o.setters.lookup name).map (object, ·)).map (Prod.map withoutTokens id) := by
    rw [Option.map_map]
    rfl
  cases object with
  | member t owner key computed optional =>
      have same (name : Text) : (member t owner key computed optional).withoutTokens.accesses name =
          (member t owner key computed optional).accesses name := by
        rw [accesses, accesses, staticName?_withoutTokens]
      simp only [withoutTokens] at same plain ⊢
      simp only [setter?, same]
      split_ifs
      · rfl
      · rfl
      · exact plain
  | _ => exact plain

theorem writtenValue?_withoutTokens (t : Token) (operator : Text) (target value : Node) :
    writtenValue? {} operator target.withoutTokens value.withoutTokens =
      (writtenValue? t operator target value).map withoutTokens := by
  simp only [writtenValue?]
  split_ifs
  · rfl
  · simp [Function.comp_def]

theorem withoutTokens_managedAssignment (o : Options) (t : Token) (operator : Text)
    (target value : Node) :
    (managedAssignment o t operator target value).result.withoutTokens =
      (managedAssignment o {} operator target.withoutTokens value.withoutTokens).result := by
  cases target with
  | member u whole key computed optional =>
      have name := staticName?_withoutTokens (member u whole key computed optional)
      have written := writtenValue?_withoutTokens t operator (member u whole key computed optional) value
      simp only [withoutTokens] at name written ⊢
      simp only [managedAssignment, name, written]
      cases (member u whole key computed optional).staticName? with
      | none => simp
      | some name =>
          simp only [setter?_withoutTokens]
          cases setter? o name whole with
          | none => simp
          | some route =>
              obtain ⟨receiver, method⟩ := route
              cases writtenValue? t operator (member u whole key computed optional) value with
              | none => simp
              | some value => simp
  | _ => rfl

end

theorem withoutTokens_cooperate (o : Options) (n : Node) :
    (n.cooperate o).result.withoutTokens = (n.withoutTokens.cooperate o).result := by
  apply @Node.rec
    (fun n => (n.cooperate o).result.withoutTokens = (n.withoutTokens.cooperate o).result)
    (fun ns => withoutTokensAll (cooperateAll o ns).result =
      (cooperateAll o (withoutTokensAll ns)).result)
  case interfaceDeclaration =>
    intro t name bases members _ _ _
    have same := interfaceVariables_withoutTokens (interfaceDeclaration t name bases members)
    rw [withoutTokens] at same
    simp only [withoutTokens, cooperate, same, Logged.result_bind, Logged.result_pure]
    rw [withoutTokensAll_eq_map, List.map_map]
    exact congrArg (block {}) (List.map_congr_left fun v _ => withoutTokens_declareStatement o t v)
  all_goals
    intros
    simp only [withoutTokens, withoutTokensAll, cooperate, cooperateAll, apply_ite withoutTokens,
      apply_ite Logged.result, Logged.result_pure, Logged.result_bind,
      withoutTokens_loopBody, withoutTokens_handler, withoutTokens_awaitedCall,
      withoutTokens_managedAssignment, canHeadLoop_withoutTokens, canEndArrow_withoutTokens, *]

/-! Trees that differ in tokens only. -/

variable {m n : Node}

theorem Alike.eraseTypes (h : m.Alike n) : m.eraseTypes.Alike n.eraseTypes := by
  rw [Alike, ← eraseTypes_withoutTokens, h, eraseTypes_withoutTokens]

theorem Alike.cooperate (h : m.Alike n) (o : Options) :
    (m.cooperate o).result.Alike (n.cooperate o).result := by
  rw [Alike, withoutTokens_cooperate, h, withoutTokens_cooperate]

theorem Alike.declaredVariables (h : m.Alike n) : m.declaredVariables = n.declaredVariables := by
  rw [← declaredVariables_withoutTokens m, h, declaredVariables_withoutTokens]

theorem Alike.printScript (h : m.Alike n) {indent text : Text}
    (printed : n.printScript indent = .ok text) : m.printScript indent = .ok text := by
  have present : m.isPresent = n.isPresent := by
    rw [← isPresent_withoutTokens m, h, isPresent_withoutTokens]
  rw [Node.printScript] at printed ⊢
  split at printed
  · rename_i some
    rw [if_pos (present.trans some)]
    exact h.print printed
  · contradiction

end Node

end CoScript
