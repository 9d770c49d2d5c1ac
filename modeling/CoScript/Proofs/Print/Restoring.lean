import Mathlib.Data.List.Forall2
import CoScript.Proofs.Print.Success

/-!
Whether `in` has to be in parentheses is passed on from one piece of text to the next, and a piece may
change it for what follows. Brackets put it back as it was, the margin is never passed on at all, and the
first part of a loop is the one place that does not put it back: after it, `in` needs no parentheses. So a
node leaves things as they were exactly if it is printed without such a loop outside of brackets.
-/
namespace CoScript

namespace Node

open Print (Place)

/-- Whether a node leaves things as they were in a place for expressions of at least some binding
strength, where it may be put in parentheses. -/
def restoresAt (level : Nat) (n : Node) (restores : Bool) : Bool :=
  decide (n.level < level) || n.isInTest || restores

mutual

/-- Whether things are as they were after a node is printed: whether outside of brackets there is no loop
with a first part. -/
def restores (place : Place) : Node → Bool
  | absent | emptyStatement _ | identifier _ _ | privateName _ _ | number _ _ | string _ _ _
  | boolean _ _ | null _ | regex _ _ _ | template _ _ _ | this _ | array _ _ | object _ _
  | keywordType _ _ => true
  | program body | block _ body | declaration _ _ body | arrayPattern _ body | unionType _ body
  | intersectionType _ body | tupleType _ body | objectType _ body => restoresAll body
  | expressionStatement _ e | returnStatement _ e | throwStatement _ e =>
    e.restoresAt Level.lowest (e.restores .usual)
  | declarator _ target _ type value | parameter _ target _ _ type value =>
    target.restores .usual && type.restores .usual &&
      value.restoresAt Level.assignment (value.restores .usual)
  | functionDeclaration _ n | breakStatement _ n | continueStatement _ n | restElement _ n
  | arrayType _ n | parenthesizedType _ n => n.restores .usual
  | interfaceDeclaration _ name bases members =>
    name.restores .usual && restoresAll bases && restoresAll members
  | typeAlias _ a b | labeled _ a b | qualifiedName _ a b => a.restores .usual && b.restores .usual
  | ifStatement _ c a b =>
    c.restoresAt Level.lowest (c.restores .usual) && a.restores .usual && b.restores .usual
  | forStatement _ init c u body =>
    !init.isPresent && c.restoresAt Level.lowest (c.restores .usual) &&
      u.restoresAt Level.lowest (u.restores .usual) && body.restores .usual
  | forIn _ left right body =>
    left.restoresAt Level.lowest (left.restores .loopHead) &&
      right.restoresAt Level.lowest (right.restores .usual) && body.restores .usual
  | forOf _ _ left right body =>
    left.restoresAt Level.lowest (left.restores .loopHead) &&
      right.restoresAt Level.assignment (right.restores .usual) && body.restores .usual
  | whileStatement _ c body | doWhile _ body c =>
    c.restoresAt Level.lowest (c.restores .usual) && body.restores .usual
  | tryStatement _ b h f => b.restores .usual && h.restores .usual && f.restores .usual
  | catchClause _ p type body =>
    (!p.isPresent || p.restores .usual && type.restores .usual) && body.restores .usual
  | switchStatement _ n ns | switchCase _ n ns =>
    n.restoresAt Level.lowest (n.restores .usual) && restoresAll ns
  | property _ key computed value shorthand method =>
    if !key.isPresent || shorthand then value.restoresAt Level.assignment (value.restores .usual)
    else key.restoresAt (if computed then Level.assignment else Level.atom) (key.restores .usual) &&
      if method then value.restores .method
      else value.restoresAt Level.assignment (value.restores .usual)
  | spread _ e => e.restoresAt Level.assignment (e.restores .usual)
  | function _ _ name _ r body =>
    (place == .method || name.restores .usual) && r.restores .usual && body.restores .usual
  | arrow _ _ _ r body =>
    r.restores .usual &&
      body.restoresAt (if body.startsWithBrace then Level.lowest else Level.assignment)
        (body.restores .usual)
  | taggedTemplate _ tag quasi =>
    tag.restoresAt Level.call (tag.restores .usual) && quasi.restores .usual
  | call _ f _ _ => f.restoresAt Level.call (f.restores .usual)
  | new _ f _ =>
    f.restoresAt (if f.callsOnTheWay then Level.lowest else Level.member) (f.restores .usual)
  | member _ o p computed _ =>
    o.restoresAt Level.call (o.restores .usual) &&
      (computed || p.restoresAt Level.atom (p.restores .usual))
  | assignment _ _ target value =>
    target.restoresAt (if target.isDestructuring then Level.lowest else Level.suffix)
        (target.restores .usual) &&
      value.restoresAt Level.assignment (value.restores .usual)
  | binary _ left operator right =>
    let level := (Level.binary? operator).getD 0
    let groupsRight := operator == txt "**"
    (left.mixes operator ||
        left.restoresAt (if groupsRight then Level.suffix else level) (left.restores .usual)) &&
      (right.mixes operator ||
        right.restoresAt (if groupsRight then level else level + 1) (right.restores .usual))
  | unary _ _ e | await _ e | literalType _ e => e.restoresAt Level.unary (e.restores .usual)
  | update _ _ e before =>
    e.restoresAt (if before then Level.unary else Level.suffix) (e.restores .usual)
  | conditional _ c a b =>
    c.restoresAt (Level.conditional + 1) (c.restores .usual) &&
      a.restoresAt Level.assignment (a.restores .usual) &&
      b.restoresAt Level.assignment (b.restores .usual)
  | sequence _ es => restoresAllAt Level.assignment es
  | assertion _ e type _ =>
    e.restoresAt Level.relation (e.restores .usual) && type.restores .usual
  | nonNull _ e => e.restoresAt Level.suffix (e.restores .usual)
  | objectPattern _ ps rest => restoresAll ps && rest.restores .usual
  | patternProperty _ key computed value shorthand =>
    (shorthand ||
        key.restoresAt (if computed then Level.assignment else Level.atom) (key.restores .usual)) &&
      value.restores .usual
  | assignmentPattern _ target default =>
    target.restores .usual && default.restoresAt Level.assignment (default.restores .usual)
  | propertySignature _ key computed _ _ type | methodSignature _ key computed _ _ type =>
    key.restoresAt (if computed then Level.assignment else Level.atom) (key.restores .usual) &&
      type.restores .usual
  | indexSignature _ _ param keyType valueType =>
    param.restores .usual && keyType.restores .usual && valueType.restores .usual
  | typeReference _ name args => name.restores .usual && restoresAll args
  | functionType _ _ r => r.restores .usual

/-- Whether things are as they were after the nodes of a list. -/
def restoresAll : List Node → Bool
  | [] => true
  | n :: ns => n.restores .usual && restoresAll ns

/-- Whether things are as they were after the nodes of a list in places for expressions of at least some
binding strength. -/
def restoresAllAt (level : Nat) : List Node → Bool
  | [] => true
  | n :: ns => n.restoresAt level (n.restores .usual) && restoresAllAt level ns

end

theorem restoresAll_eq (ns : List Node) :
    restoresAll ns = (ns.map (restores .usual)).all id := by
  induction ns with
  | nil => rw [restoresAll]; rfl
  | cons n ns ih => rw [restoresAll, ih]; rfl

theorem restoresAllAt_eq (level : Nat) (ns : List Node) :
    restoresAllAt level ns = (ns.map fun n => n.restoresAt level (n.restores .usual)).all id := by
  induction ns with
  | nil => rw [restoresAllAt]; rfl
  | cons n ns ih => rw [restoresAllAt, ih]; rfl

end Node

namespace Print

/-- After a piece of text, `in` has to be in parentheses if it had to be before and the piece puts things
back. -/
def Doc.Leaves (restores : Bool) (d : Doc) : Prop :=
  ∀ noIn t after, d noIn = .ok (t, after) → after = (noIn && restores)

namespace Doc.Leaves

variable {d e : Doc} {b c : Bool}

theorem text (t : Text) : (Doc.text t).Leaves true := by
  rintro noIn _ _ ⟨⟩
  exact (Bool.and_true noIn).symm

theorem fail (b : Bool) (fault : Fault) (t : Token) : (Doc.fail fault t).Leaves b := by
  rintro noIn _ _ ⟨⟩

theorem append (hd : d.Leaves b) (he : e.Leaves c) : (d ++ e).Leaves (b && c) := by
  intro noIn t after printed
  change Doc.append d e noIn = _ at printed
  rw [Doc.append] at printed
  split at printed
  · cases printed
  · rename_i first
    obtain rfl := hd noIn _ _ first
    split at printed
    · cases printed
    · rename_i second
      cases printed
      rw [he _ _ _ second, Bool.and_assoc]

theorem cast (h : d.Leaves b) (same : b = c) : d.Leaves c :=
  same ▸ h

theorem ite {p : Prop} [Decidable p] (hd : p → d.Leaves b) (he : ¬p → e.Leaves b) :
    (if p then d else e).Leaves b := by
  split
  · exact hd ‹_›
  · exact he ‹_›

theorem when (condition : Bool) (h : d.Leaves b) : (Doc.when condition d).Leaves (!condition || b) := by
  cases condition with
  | false => exact text []
  | true => exact h

theorem textWhen (condition : Bool) (t : Text) : (Doc.when condition (.text t)).Leaves true :=
  ((text t).when condition).cast (Bool.or_true _)

theorem enclosed (opening closing : String) (d : Doc) : (Doc.enclosed opening d closing).Leaves true := by
  intro noIn t after printed
  rw [Doc.enclosed] at printed
  split at printed
  · cases printed
  · cases printed
    exact (Bool.and_true noIn).symm

theorem inHead (d : Doc) : (Doc.inHead d).Leaves false := by
  intro noIn t after printed
  rw [Doc.inHead] at printed
  split at printed
  · cases printed
  · cases printed
    exact (Bool.and_false noIn).symm

theorem ifNoIn (hd : d.Leaves b) (he : e.Leaves c) : (Doc.ifNoIn d e).Leaves b := by
  intro noIn t after printed
  cases noIn with
  | false => exact he false t after printed
  | true => exact hd true t after printed

end Doc.Leaves

/-- A piece leaves things as its node does. -/
def Piece.Leaves (place : Place) (p : Piece) : Prop :=
  p.doc.Leaves (p.node.restores place)

namespace Piece.Leaves

open Doc.Leaves

variable {place : Place} {p : Piece}

theorem required (role : Role) (h : p.Leaves place) :
    (p.required role).Leaves (p.node.restores place) :=
  .ite (fun _ => h) fun _ => fail _ _ _

/-- A node that is not there leaves everything as it was. -/
theorem restores_absent {n : Node} (h : n.isPresent = false) : n.restores place = true := by
  cases n with
  | absent => rfl
  | _ => cases h

theorem optional (before : String) {print : Piece → Doc} {b : Bool} (h : (print p).Leaves b)
    (skipped : p.node.isPresent = false → b = true) : (p.optional before print).Leaves b := by
  refine ((text _).append h |>.when p.node.isPresent).cast ?_
  cases present : p.node.isPresent with
  | false => rw [skipped present]; rfl
  | true => simp

theorem atLevel (level : Nat) (h : p.Leaves place) :
    (p.atLevel level).Leaves (p.node.restoresAt level (p.node.restores place)) := by
  have parenthesized := enclosed "(" ")" p.doc
  refine ite (fun _ => fail _ _ _) fun _ => ite (fun weak => ?_) fun strong => ?_
  · exact parenthesized.cast (by simp [Node.restoresAt, weak])
  · refine ite (fun test => ?_) fun other => ?_
    · exact (parenthesized.ifNoIn h).cast (by simp [Node.restoresAt, test])
    · exact h.cast (by simp [Node.restoresAt, strong, other])

theorem anyLevel (h : p.Leaves place) :
    p.anyLevel.Leaves (p.node.restoresAt Level.lowest (p.node.restores place)) :=
  h.atLevel _

theorem element (h : p.Leaves place) :
    p.element.Leaves (p.node.restoresAt Level.assignment (p.node.restores place)) :=
  h.atLevel _

theorem optionalAt (before : String) (level : Nat) (h : p.Leaves place) :
    (p.optional before (·.atLevel level)).Leaves
      (p.node.restoresAt level (p.node.restores place)) :=
  optional _ (h.atLevel level) fun none => by simp [Node.restoresAt, restores_absent none]

theorem initializer (h : p.Leaves place) :
    p.initializer.Leaves (p.node.restoresAt Level.assignment (p.node.restores place)) :=
  h.optionalAt _ _

theorem optionalDoc (before : String) (h : p.Leaves place) :
    (p.optional before (·.doc)).Leaves (p.node.restores place) :=
  optional _ h restores_absent

theorem optionalRequired (before : String) (role : Role) (h : p.Leaves place) :
    (p.optional before (·.required role)).Leaves (p.node.restores place) :=
  optional _ (h.required role) restores_absent

theorem type (h : p.Leaves place) : p.type.Leaves (p.node.restores place) := h.required _

theorem typed (h : p.Leaves place) : p.typed.Leaves (p.node.restores place) :=
  h.optionalRequired _ _

theorem between {b : Bool} {d : Doc} (opening closing : Text) (h : d.Leaves b) :
    (opening ++ d ++ closing : Doc).Leaves b :=
  ((text _).append h |>.append (text _)).cast (by simp)

theorem parenthesizedIf (condition : Bool) (level : Nat) (h : p.Leaves place) :
    (p.parenthesizedIf condition (p.atLevel level)).Leaves
      (p.node.restoresAt (if condition then Level.lowest else level) (p.node.restores place)) := by
  cases condition with
  | false => exact h.atLevel _
  | true => exact between _ _ h.anyLevel

theorem key (computed : Bool) (h : p.Leaves place) :
    (p.key computed).Leaves (p.node.restoresAt (if computed then Level.assignment else Level.atom)
      (p.node.restores place)) := by
  cases computed with
  | false => exact h.atLevel _
  | true => exact between _ _ h.element

theorem typeOperand (inParens : Node → Bool) (h : p.Leaves place) :
    (p.typeOperand inParens).Leaves (p.node.restores place) :=
  .ite (fun _ => between _ _ h.type) fun _ => h.type

section
attribute [local simp] Node.restoresAt Node.level Node.isInTest

theorem loopHead (h : p.Leaves place) :
    p.loopHead.Leaves (p.node.restoresAt Level.lowest (p.node.restores place)) := by
  have expression : (if p.node.isExpression then
      p.parenthesizedIf p.node.startsWithBrace p.anyLevel
      else .fail (.badLoopHead p.node) p.node.token).Leaves
        (p.node.restoresAt Level.lowest (p.node.restores place)) :=
    .ite (fun _ => (h.parenthesizedIf _ _).cast (by rw [ite_self])) fun _ => fail _ _ _
  obtain ⟨n, doc⟩ := p
  cases n with
  | declaration => exact Doc.Leaves.cast h (by simp)
  | _ => exact expression

theorem typeName (h : p.Leaves place) : p.typeName.Leaves (p.node.restores place) := by
  obtain ⟨n, doc⟩ := p
  cases n with
  | identifier | qualifiedName => exact h
  | _ => exact fail _ _ _

theorem arrowBody (t : Token) (h : p.Leaves place) :
    (p.arrowBody t).Leaves
      (p.node.restoresAt (if p.node.startsWithBrace then Level.lowest else Level.assignment)
        (p.node.restores place)) := by
  have expression : (if p.node.isExpression then
      p.parenthesizedIf p.node.startsWithBrace p.element else .fail .noArrowBody t).Leaves
        (p.node.restoresAt (if p.node.startsWithBrace then Level.lowest else Level.assignment)
          (p.node.restores place)) :=
    .ite (fun _ => h.parenthesizedIf _ _) fun _ => fail _ _ _
  obtain ⟨n, doc⟩ := p
  cases n with
  | block =>
      exact Doc.Leaves.cast h
        (by simp [Node.startsWithBrace, Node.leftmost, Level.atom, Level.assignment])
  | _ => exact expression

end

theorem methodBody (t : Token) {key : Doc} {b : Bool} (hk : key.Leaves b) (h : p.Leaves place) :
    (p.methodBody t key).Leaves (b && p.node.restores place) := by
  obtain ⟨n, doc⟩ := p
  cases n with
  | function => exact (((text _).when _).append hk |>.append h).cast (by simp)
  | _ => exact fail _ _ _

theorem binaryOperand (operator : Text) (level : Nat) (h : p.Leaves place) :
    (p.binaryOperand operator level).Leaves
      (p.node.mixes operator || p.node.restoresAt level (p.node.restores place)) :=
  .ite (fun mixed => (enclosed _ _ _).cast (by simp [mixed])) fun alone =>
    (h.atLevel level).cast (by simp [alone])

theorem target (h : p.Leaves place) :
    p.target.Leaves (p.node.restoresAt
      (if p.node.isDestructuring then Level.lowest else Level.suffix) (p.node.restores place)) :=
  h.atLevel _

theorem object (computed : Bool) (h : p.Leaves place) :
    (p.object computed).Leaves (p.node.restoresAt Level.call (p.node.restores place)) := by
  refine .ite (fun number => ?_) fun _ => h.atLevel _
  refine (between _ _ h).cast ?_
  obtain ⟨n, doc⟩ := p
  cases n with
  | number => exact (Bool.or_true _).symm
  | _ => simp [Node.takesPoint] at number

end Piece.Leaves

/-! Lists of pieces. -/

namespace Doc.Leaves

variable {ds : List Doc} {bs : List Bool} (h : List.Forall₂ Leaves bs ds)
include h

theorem concat : (Doc.concat ds).Leaves (bs.all id) := by
  induction h with
  | nil => exact text _
  | cons first _ ih => exact first.append ih

theorem join (separator : String) : (Doc.join separator ds).Leaves (bs.all id) := by
  induction h with
  | nil => exact text _
  | cons first rest ih =>
      cases rest with
      | nil => exact first.cast (by simp)
      | cons => exact ((first.append (text _)).append ih).cast (by simp)

theorem lines (indent margin : Text) (ending : String) :
    (braced indent margin ending ds).Leaves (bs.all id) := by
  refine .ite (fun none => ?_) fun _ => ?_
  · obtain rfl := List.isEmpty_iff.1 none
    cases h
    exact text _
  · have each : List.Forall₂ Leaves bs
        (ds.map fun line => (margin ++ indent : Text) ++ line ++ (ending ++ "\n")) := by
      rw [List.forall₂_map_right_iff]
      exact h.imp fun _ _ line => ((text _).append line |>.append (text _)).cast (by simp)
    exact (((text _).append (concat each)).append (text _) |>.append (text _)).cast (by simp)

end Doc.Leaves

section
variable {indent margin : Text} {ns : List Node}
  (h : ∀ n ∈ ns, (piece indent margin .usual n).Leaves .usual)
include h

theorem mapped_leaves {f : Piece → Doc} {g : Node → Bool}
    (hf : ∀ {p : Piece}, p.Leaves .usual → (f p).Leaves (g p.node)) :
    List.Forall₂ Doc.Leaves (ns.map g) ((pieces indent margin ns).map f) := by
  induction ns with
  | nil => exact .nil
  | cons n ns ih =>
      obtain ⟨first, rest⟩ := List.forall_mem_cons.1 h
      exact .cons (by simpa using hf first) (ih rest)

theorem elementList_leaves (role : Role) :
    (elementList (·.required role) (pieces indent margin ns)).Leaves (Node.restoresAll ns) := by
  induction ns with
  | nil => exact Node.restoresAll_eq [] ▸ .text _
  | cons n ns ih =>
      obtain ⟨first, rest⟩ := List.forall_mem_cons.1 h
      have here : (Piece.required role (piece indent margin .usual n)).Leaves (n.restores .usual) := by
        simpa using first.required role
      have absent : n.isPresent = false → n.restores .usual = true := Piece.Leaves.restores_absent
      cases ns with
      | nil =>
          refine (Doc.Leaves.ite (fun _ => here) fun none => (Doc.Leaves.text _).cast ?_).cast ?_
          · rw [piece_node, Bool.not_eq_true] at none
            exact (absent none).symm
          · simp [Node.restoresAll_eq]
      | cons m ns =>
          refine (((here.when _).append (.text _)).append (ih rest)).cast ?_
          rw [piece_node, Node.restoresAll_eq (n :: m :: ns), List.map_cons, List.all_cons,
            ← Node.restoresAll_eq]
          cases present : n.isPresent with
          | false => simp [absent present]
          | true => simp

end

open Doc.Leaves

mutual

/-- Every node leaves things as its structure says. -/
theorem piece_leaves (indent margin : Text) (place : Place) (n : Node) :
    (piece indent margin place n).Leaves place := by
  rw [Piece.Leaves, piece_node]
  cases n with
  | absent => exact fail _ _ _
  | program body =>
      exact (concat (mapped_leaves (pieces_leave indent margin body) fun s =>
        Piece.Leaves.between margin (txt "\n") (s.required _))).cast
        (Node.restoresAll_eq _).symm
  | block t body =>
      exact (lines (mapped_leaves (pieces_leave indent (margin ++ indent) body) (·.required _)) _ _ _).cast
        (Node.restoresAll_eq _).symm
  | expressionStatement t e =>
      exact ((piece_leaves indent margin .usual e).parenthesizedIf _ _ |>.append (text _)).cast
        (by simp only [piece_node, Bool.and_true, ite_self]; rfl)
  | declaration t keyword ds =>
      exact (text _ |>.append (text _) |>.append
        (join (mapped_leaves (pieces_leave indent margin ds) (·.required _)) _)
        |>.append (textWhen _ _)).cast
        (by simp only [Bool.and_true, ← Node.restoresAll_eq]; rfl)
  | declarator t target definite type value =>
      exact ((piece_leaves indent margin .usual target).required _ |>.append (textWhen _ _)
        |>.append (piece_leaves indent margin .usual type).typed
        |>.append (piece_leaves indent margin .usual value).initializer).cast
        (by simp only [piece_node, Bool.and_true]; rfl)
  | functionDeclaration t f =>
      exact ((piece_leaves indent margin .usual f).required _).cast
        (by simp only [piece_node]; rfl)
  | interfaceDeclaration t name bases members =>
      exact (text _ |>.append ((piece_leaves indent margin .usual name).required _)
        |>.append (textWhen _ _)
        |>.append (join (mapped_leaves (pieces_leave indent margin bases) (·.type)) _)
        |>.append (text _)
        |>.append (lines
          (mapped_leaves (pieces_leave indent (margin ++ indent) members) (·.required _)) _ _ _)).cast
        (by simp only [piece_node, Bool.and_true, ← Node.restoresAll_eq]; rfl)
  | typeAlias t name type =>
      exact (text _ |>.append ((piece_leaves indent margin .usual name).required _)
        |>.append (text _) |>.append (piece_leaves indent margin .usual type).type
        |>.append (text _)).cast
        (by simp only [piece_node, Bool.and_true]; rfl)
  | ifStatement t c a b =>
      have yes : Doc.Leaves (a.restores .usual) (if b.isPresent && a.endsInOpenIf then
          braced indent margin "" [(piece indent (margin ++ indent) .usual a).required .statement]
          else (piece indent margin .usual a).required .statement) := by
        refine .ite (fun _ => ?_) fun _ => ?_
        · exact (lines (.cons ((piece_leaves indent (margin ++ indent) .usual a).required _) .nil)
            _ _ _).cast (by simp)
        · exact ((piece_leaves indent margin .usual a).required _).cast (by simp)
      exact (text _ |>.append (piece_leaves indent margin .usual c).anyLevel |>.append (text _)
        |>.append yes
        |>.append ((piece_leaves indent margin .usual b).optionalRequired _ _)).cast
        (by simp only [piece_node, Bool.and_true]; rfl)
  | forStatement t init c u body =>
      exact (text _ |>.append ((inHead _).when _) |>.append (text _)
        |>.append ((piece_leaves indent margin .usual c).optionalAt _ _) |>.append (text _)
        |>.append ((piece_leaves indent margin .usual u).optionalAt _ _) |>.append (text _)
        |>.append ((piece_leaves indent margin .usual body).required _)).cast
        (by simp only [piece_node, Bool.and_true, Bool.or_false]; rfl)
  | forIn t left right body =>
      exact (text _ |>.append (piece_leaves indent margin .loopHead left).loopHead
        |>.append (text _) |>.append (piece_leaves indent margin .usual right).anyLevel
        |>.append (text _)
        |>.append ((piece_leaves indent margin .usual body).required _)).cast
        (by simp only [piece_node, Bool.and_true]; rfl)
  | forOf t awaits left right body =>
      exact (text _ |>.append (textWhen _ _) |>.append (text _)
        |>.append (piece_leaves indent margin .loopHead left).loopHead
        |>.append (text _) |>.append (piece_leaves indent margin .usual right).element
        |>.append (text _)
        |>.append ((piece_leaves indent margin .usual body).required _)).cast
        (by simp only [piece_node, Bool.and_true]; rfl)
  | whileStatement t c body =>
      exact (text _ |>.append (piece_leaves indent margin .usual c).anyLevel |>.append (text _)
        |>.append ((piece_leaves indent margin .usual body).required _)).cast
        (by simp only [piece_node, Bool.and_true]; rfl)
  | doWhile t body c =>
      exact ((text _ |>.append ((piece_leaves indent margin .usual body).required _)
        |>.append (text _) |>.append (piece_leaves indent margin .usual c).anyLevel).cast
        (Bool.and_comm _ _) |>.append (text _)).cast
        (by simp only [piece_node, Bool.and_true]; rfl)
  | returnStatement t v =>
      exact (text _ |>.append ((piece_leaves indent margin .usual v).optionalAt _ _)
        |>.append (text _)).cast
        (by simp only [piece_node, Bool.and_true]; rfl)
  | breakStatement t l | continueStatement t l =>
      exact (text _ |>.append ((piece_leaves indent margin .usual l).optionalDoc _)
        |>.append (text _)).cast
        (by simp only [piece_node, Bool.and_true]; rfl)
  | throwStatement t v =>
      exact (text _ |>.append (piece_leaves indent margin .usual v).anyLevel
        |>.append (text _)).cast
        (by simp only [piece_node, Bool.and_true]; rfl)
  | tryStatement t b handler finalizer =>
      exact (text _ |>.append ((piece_leaves indent margin .usual b).required _)
        |>.append ((piece_leaves indent margin .usual handler).optionalDoc _)
        |>.append ((piece_leaves indent margin .usual finalizer).optionalRequired _ _)).cast
        (by simp only [piece_node]; rfl)
  | catchClause t param type body =>
      exact (text _ |>.append (when _ (text _
          |>.append ((piece_leaves indent margin .usual param).required _)
          |>.append (piece_leaves indent margin .usual type).typed |>.append (text _)))
        |>.append ((piece_leaves indent margin .usual body).required _)).cast
        (by simp only [piece_node, Bool.and_true]; rfl)
  | switchStatement t d cases =>
      exact (text _ |>.append (piece_leaves indent margin .usual d).anyLevel |>.append (text _)
        |>.append (concat (mapped_leaves (pieces_leave indent (margin ++ indent) cases) fun c =>
          Piece.Leaves.between (margin ++ indent) (txt "\n") c))
        |>.append (text _) |>.append (text _)).cast
        (by simp only [piece_node, Bool.and_true, ← Node.restoresAll_eq]; rfl)
  | switchCase t test body =>
      have head : Doc.Leaves (test.restoresAt Level.lowest (test.restores .usual))
          (if test.isPresent then "case " ++ (piece indent margin .usual test).anyLevel ++ ":"
          else "default:") := by
        refine .ite (fun _ => ?_) fun none => (text _).cast ?_
        · exact (Piece.Leaves.between _ _ (piece_leaves indent margin .usual test).anyLevel).cast (by simp)
        · simp [Node.restoresAt, Piece.Leaves.restores_absent (Bool.not_eq_true _ ▸ none)]
      exact (head.append (concat (mapped_leaves (pieces_leave indent (margin ++ indent) body) fun s =>
          (text _).append (text _) |>.append (s.required _)))).cast
            (by rw [← Node.restoresAll_eq]; rfl)
  | labeled t l body =>
      exact ((piece_leaves indent margin .usual l).required _ |>.append (text _)
        |>.append ((piece_leaves indent margin .usual body).required _)).cast
        (by simp only [piece_node, Bool.and_true]; rfl)
  | emptyStatement t | identifier t name | number t raw | null t | this t | keywordType t name =>
      exact text _
  | privateName t name => exact text _ |>.append (text _)
  | string t value raw =>
      exact .ite (fun _ => text _) fun _ => text _
  | boolean t value =>
      exact .ite (fun _ => text _) fun _ => text _
  | regex t pattern flags =>
      exact text _ |>.append (text _) |>.append (text _) |>.append (text _)
  | template t chunks es | array t es => exact enclosed _ _ _
  | object t ps =>
      exact .ite (fun _ => text _) fun _ => .ite (fun _ => enclosed _ _ _) fun _ => enclosed _ _ _
  | property t key computed value shorthand method =>
      have key' := (piece_leaves indent margin .usual key).key computed
      have value' := (piece_leaves indent margin .usual value).element
      rw [piece_node] at key' value'
      refine .ite (fun short => value'.cast (if_pos short).symm) fun long => ?_
      refine cast (.ite (fun method => ?_) fun field => ?_) (if_neg long).symm
      · exact ((piece_leaves indent margin .method value).methodBody _ key').cast (by simp [method])
      · exact (key'.append (text _) |>.append value').cast (by simp [field])
  | spread t e =>
      exact (text _ |>.append (piece_leaves indent margin .usual e).element).cast
        (by simp only [piece_node]; rfl)
  | parameter t target optional rest type default =>
      exact (textWhen _ _ |>.append ((piece_leaves indent margin .usual target).required _)
        |>.append (textWhen _ _) |>.append (piece_leaves indent margin .usual type).typed
        |>.append (piece_leaves indent margin .usual default).initializer).cast
        (by simp only [piece_node, Bool.and_true]; rfl)
  | function t async name ps r body =>
      exact (when _ (textWhen _ _ |>.append (text _)
          |>.append ((piece_leaves indent margin .usual name).optionalDoc _))
        |>.append (enclosed _ _ _ |>.append (piece_leaves indent margin .usual r).typed)
        |>.append (text _)
        |>.append ((piece_leaves indent margin .usual body).required _)).cast
        (by simp only [piece_node, Bool.and_true, bne, Bool.not_not]; rfl)
  | arrow t async ps r body =>
      exact (textWhen _ _
        |>.append (enclosed _ _ _ |>.append (piece_leaves indent margin .usual r).typed)
        |>.append (text _)
        |>.append ((piece_leaves indent margin .usual body).arrowBody _)).cast
        (by simp only [piece_node, Bool.and_true]; rfl)
  | taggedTemplate t tag quasi =>
      exact ((piece_leaves indent margin .usual tag).atLevel _
        |>.append (.ite (fun _ => piece_leaves indent margin .usual quasi) fun _ => fail _ _ _)).cast
        (by simp only [piece_node]; rfl)
  | call t f args optional =>
      exact ((piece_leaves indent margin .usual f).atLevel _ |>.append (textWhen _ _)
        |>.append (enclosed _ _ _)).cast
        (by simp only [piece_node, Bool.and_true]; rfl)
  | new t f args =>
      exact (text _ |>.append ((piece_leaves indent margin .usual f).parenthesizedIf _ _)
        |>.append (enclosed _ _ _)).cast
        (by simp only [piece_node, Bool.and_true]; rfl)
  | member t o p computed optional =>
      have name : Doc.Leaves
          (computed || p.restoresAt Level.atom (p.restores .usual))
          (if computed then
            .when optional "?." ++ .enclosed "[" (piece indent margin .usual p).anyLevel "]"
          else (if optional then "?." else ".") ++ (piece indent margin .usual p).atLevel Level.atom) := by
        refine .ite (fun bracket => ?_) fun point => ?_
        · exact (textWhen _ _ |>.append (enclosed _ _ _)).cast (by simp [bracket])
        · exact (text _ |>.append ((piece_leaves indent margin .usual p).atLevel _)).cast
            (by simp [point])
      exact ((piece_leaves indent margin .usual o).object _ |>.append name).cast
        (by simp only [piece_node]; rfl)
  | assignment t operator target value =>
      exact ((piece_leaves indent margin .usual target).target |>.append (text _)
        |>.append (text _) |>.append (text _)
        |>.append (piece_leaves indent margin .usual value).element).cast
        (by simp only [piece_node, Bool.and_true]; rfl)
  | binary t left operator right =>
      exact ((piece_leaves indent margin .usual left).binaryOperand _ _ |>.append (text _)
        |>.append (text _) |>.append (text _)
        |>.append ((piece_leaves indent margin .usual right).binaryOperand _ _)).cast
        (by simp only [piece_node, Bool.and_true]; rfl)
  | unary t operator e =>
      exact (text _ |>.append (textWhen _ _)
        |>.append ((piece_leaves indent margin .usual e).atLevel _)).cast
        (by simp only [piece_node, Bool.and_true]; rfl)
  | update t operator e before =>
      have e' := piece_leaves indent margin .usual e
      cases before with
      | true =>
          exact (text _ |>.append (e'.atLevel _)).cast (by simp only [piece_node, Bool.true_and]; rfl)
      | false =>
          exact (e'.atLevel _ |>.append (text _)).cast (by simp only [piece_node, Bool.and_true]; rfl)
  | conditional t c a b =>
      exact ((piece_leaves indent margin .usual c).atLevel _ |>.append (text _)
        |>.append (piece_leaves indent margin .usual a).element |>.append (text _)
        |>.append (piece_leaves indent margin .usual b).element).cast
        (by simp only [piece_node, Bool.and_true]; rfl)
  | sequence t es =>
      have each := mapped_leaves (pieces_leave indent margin es) (f := (·.element))
        (g := fun n => n.restoresAt Level.assignment (n.restores .usual)) (·.element)
      exact (join each _).cast (Node.restoresAllAt_eq _ es).symm
  | await t e =>
      exact (text _ |>.append ((piece_leaves indent margin .usual e).atLevel _)).cast
        (by simp only [piece_node]; rfl)
  | assertion t e type satisfies =>
      exact ((piece_leaves indent margin .usual e).atLevel _ |>.append (text _)
        |>.append (piece_leaves indent margin .usual type).type).cast
        (by simp only [piece_node, Bool.and_true]; rfl)
  | nonNull t e =>
      exact ((piece_leaves indent margin .usual e).atLevel _ |>.append (text _)).cast
        (by simp only [piece_node, Bool.and_true]; rfl)
  | arrayPattern t es =>
      exact Piece.Leaves.between _ _ (elementList_leaves (pieces_leave indent margin es) _)
  | objectPattern t ps rest =>
      refine .ite (fun none => (text _).cast ?_) fun _ => ?_
      · simp only [Bool.and_eq_true, List.isEmpty_iff, Bool.not_eq_true'] at none
        obtain ⟨rfl, absent⟩ := none
        exact (Piece.Leaves.restores_absent absent).symm
      · exact (text _
          |>.append (join (mapped_leaves (pieces_leave indent margin ps) (·.required _)) _)
          |>.append (textWhen _ _)
          |>.append ((piece_leaves indent margin .usual rest).optionalRequired _ _)
          |>.append (text _)).cast
            (by simp only [piece_node, Bool.and_true, ← Node.restoresAll_eq]; rfl)
  | patternProperty t key computed value shorthand =>
      exact (when _ ((piece_leaves indent margin .usual key).key _ |>.append (text _))
        |>.append ((piece_leaves indent margin .usual value).required _)).cast
        (by simp only [piece_node, Bool.and_true, Bool.not_not]; rfl)
  | assignmentPattern t target default =>
      exact ((piece_leaves indent margin .usual target).required _ |>.append (text _)
        |>.append (piece_leaves indent margin .usual default).element).cast
        (by simp only [piece_node, Bool.and_true]; rfl)
  | restElement t target =>
      exact (text _ |>.append ((piece_leaves indent margin .usual target).required _)).cast
        (by simp only [piece_node]; rfl)
  | propertySignature t key computed optional readonly type =>
      exact (textWhen _ _ |>.append ((piece_leaves indent margin .usual key).key _)
        |>.append (textWhen _ _)
        |>.append (piece_leaves indent margin .usual type).typed).cast
        (by simp only [piece_node, Bool.and_true]; rfl)
  | methodSignature t key computed optional ps r =>
      exact ((piece_leaves indent margin .usual key).key _ |>.append (textWhen _ _)
        |>.append (enclosed _ _ _ |>.append (piece_leaves indent margin .usual r).typed)).cast
        (by simp only [piece_node, Bool.and_true]; rfl)
  | indexSignature t readonly param keyType valueType =>
      exact (textWhen _ _ |>.append (text _)
        |>.append ((piece_leaves indent margin .usual param).required _) |>.append (text _)
        |>.append (piece_leaves indent margin .usual keyType).type |>.append (text _)
        |>.append (piece_leaves indent margin .usual valueType).type).cast
        (by simp only [piece_node, Bool.and_true]; rfl)
  | arrayType t e =>
      exact ((piece_leaves indent margin .usual e).typeOperand _ |>.append (text _)).cast
        (by simp only [piece_node, Bool.and_true]; rfl)
  | unionType t types | intersectionType t types =>
      exact (join (mapped_leaves (pieces_leave indent margin types) (·.typeOperand _)) _).cast
        (Node.restoresAll_eq _).symm
  | parenthesizedType t type =>
      exact (Piece.Leaves.between _ _ (piece_leaves indent margin .usual type).type).cast
        (by simp only [piece_node]; rfl)
  | typeReference t name args =>
      have listed := when (!args.isEmpty) (Piece.Leaves.between (txt "<") (txt ">")
        (join (mapped_leaves (pieces_leave indent margin args) (·.type)) ", "))
      exact ((piece_leaves indent margin .usual name).typeName |>.append
        (listed.cast (c := Node.restoresAll args) (by cases args <;> simp [Node.restoresAll_eq]))).cast
        (by simp only [piece_node]; rfl)
  | qualifiedName t left right =>
      exact ((piece_leaves indent margin .usual left).typeName |>.append (text _)
        |>.append ((piece_leaves indent margin .usual right).required _)).cast
        (by simp only [piece_node, Bool.and_true]; rfl)
  | literalType t e =>
      exact ((piece_leaves indent margin .usual e).atLevel _).cast
        (by simp only [piece_node]; rfl)
  | tupleType t es =>
      exact (Piece.Leaves.between _ _
        (join (mapped_leaves (pieces_leave indent margin es) (·.type)) _)).cast
        (Node.restoresAll_eq _).symm
  | functionType t ps r =>
      exact (enclosed _ _ _ |>.append (text _)
        |>.append (piece_leaves indent margin .usual r).type).cast
        (by simp only [piece_node, Bool.and_true]; rfl)
  | objectType t members =>
      refine .ite (fun none => (text _).cast ?_) fun _ => ?_
      · obtain rfl := List.isEmpty_iff.1 none
        rfl
      · exact (Piece.Leaves.between _ _
          (join (mapped_leaves (pieces_leave indent margin members) (·.required _)) _)).cast
            (Node.restoresAll_eq members).symm

theorem pieces_leave (indent margin : Text) (ns : List Node) :
    ∀ n ∈ ns, (piece indent margin .usual n).Leaves .usual := by
  cases ns with
  | nil => exact fun n hn => nomatch hn
  | cons n ns =>
      exact List.forall_mem_cons.2 ⟨piece_leaves indent margin .usual n, pieces_leave indent margin ns⟩

end

/-- A test that is printed where `in` has to be in parentheses is in parentheses. -/
theorem atLevel_test {p : Piece} (test : p.node.isInTest) (level : Nat) {t : Text} {after : Bool}
    (printed : p.atLevel level true = .ok (t, after)) :
    ∃ u, p.doc.run = .ok u ∧ t = txt "(" ++ u ++ txt ")" := by
  have present : p.node.isPresent := by
    obtain ⟨n, doc⟩ := p
    cases n with
    | absent => cases test
    | _ => rfl
  have parenthesized : p.atLevel level true = Doc.enclosed "(" p.doc ")" true := by
    simp only [Piece.atLevel, present, test, Bool.not_true, Bool.false_eq_true, if_false, if_true]
    split <;> rfl
  rw [parenthesized, Doc.enclosed] at printed
  split at printed
  · cases printed
  · rename_i inside
    cases printed
    change Doc.append (Doc.append (.text _) p.doc) (.text _) false = _ at inside
    simp only [Doc.append, Doc.text] at inside
    cases here : p.doc false with
    | error f => simp [here] at inside
    | ok r => exact ⟨r.1, by rw [Doc.run, here]; rfl, by simp_all⟩

/-- Printing a statement, a pattern or an expression leaves things as they were, or lets `in` stand without
parentheses if a loop with a first part is printed outside of brackets; where `in` has to be in
parentheses, a test is. -/
theorem restores_noIn (indent margin : Text) (n : Node) (noIn after : Bool) (t : Text) :
    (∀ role, (piece indent margin .usual n).required role noIn = .ok (t, after) →
      after = (noIn && n.restores .usual)) ∧
    (∀ level, (piece indent margin .usual n).atLevel level noIn = .ok (t, after) →
      after = (noIn && n.restoresAt level (n.restores .usual))) ∧
    (n.isInTest → ∀ level, (piece indent margin .usual n).atLevel level true = .ok (t, after) →
      ∃ u, (piece indent margin .usual n).doc.run = .ok u ∧ t = txt "(" ++ u ++ txt ")") := by
  have leaves := piece_leaves indent margin .usual n
  refine ⟨fun role printed => ?_, fun level printed => ?_, fun test level => atLevel_test ?_ level⟩
  · simpa using leaves.required role noIn t after printed
  · simpa using leaves.atLevel level noIn t after printed
  · rwa [piece_node]

/-- A function with the loop `for (i;;) {}` in it. -/
def loopInFunction : Node :=
  .function {} false .absent [] .absent (.block {}
    [.forStatement {} (.identifier {} (txt "i")) .absent .absent (.block {} [])])

/-- The test `"a" in b`. -/
def testForKey : Node :=
  .binary {} (.string {} (txt "a") []) (txt "in") (.identifier {} (txt "b"))

/-- A test alone is in parentheses, and after it `in` still has to be. -/
theorem restores_noIn_test :
    (piece defaultIndent [] .usual testForKey).atLevel Level.assignment true =
      .ok (txt "(\"a\" in b)", true) ∧
    true = (true && testForKey.restoresAt Level.assignment (testForKey.restores .usual)) :=
  ⟨rfl, (restores_noIn defaultIndent [] testForKey true true (txt "(\"a\" in b)")).2.1 _ rfl⟩

/-- A loop in a function takes the parentheses from a test behind the function. -/
theorem test_behind_loop :
    ((piece defaultIndent [] .usual loopInFunction).element true).map (·.2) = .ok false ∧
    (Node.forStatement {} (.declaration {} (txt "var")
        [.declarator {} (.identifier {} (txt "f")) false .absent loopInFunction,
         .declarator {} (.identifier {} (txt "y")) false .absent testForKey])
      .absent .absent (.block {} [])).print =
      .ok (txt "for (var f = function() \x7b\n  for (i;;) \x7b\x7d\n\x7d, y = \"a\" in b;;) \x7b\x7d") := by
  constructor
  · rfl
  · rfl

end Print

end CoScript
