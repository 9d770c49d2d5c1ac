import Mathlib.Data.List.Forall2
import CoScript.Proofs.Print.Success
import CoScript.Proofs.Tree.Tokens

/-!
Printing does not look at tokens. They are only told where a tree cannot be printed.
-/
namespace CoScript

namespace Node

section
variable (n : Node)

@[simp] theorem isPresent_withoutTokens : n.withoutTokens.isPresent = n.isPresent := by
  cases n <;> rfl

@[simp] theorem level_withoutTokens : n.withoutTokens.level = n.level := by
  cases n <;> rfl

@[simp] theorem category_withoutTokens : n.withoutTokens.category = n.category := by
  cases n <;> rfl

@[simp] theorem isExpression_withoutTokens : n.withoutTokens.isExpression = n.isExpression := by
  rw [isExpression, category_withoutTokens, ← isExpression]

@[simp] theorem isInTest_withoutTokens : n.withoutTokens.isInTest = n.isInTest := by
  cases n <;> rfl

@[simp] theorem isDestructuring_withoutTokens :
    n.withoutTokens.isDestructuring = n.isDestructuring := by
  cases n <;> rfl

@[simp] theorem takesPoint_withoutTokens : n.withoutTokens.takesPoint = n.takesPoint := by
  cases n <;> rfl

@[simp] theorem mixes_withoutTokens (operator : Text) :
    n.withoutTokens.mixes operator = n.mixes operator := by
  cases n <;> rfl

@[simp] theorem fuses_withoutTokens (operator : Text) :
    n.withoutTokens.fuses operator = n.fuses operator := by
  cases n with
  | update t inner e before => cases before <;> rfl
  | _ => rfl

@[simp] theorem groupsInArray_withoutTokens :
    Print.groupsInArray n.withoutTokens = Print.groupsInArray n := by
  cases n <;> rfl

@[simp] theorem groupsInUnion_withoutTokens :
    Print.groupsInUnion n.withoutTokens = Print.groupsInUnion n := by
  cases n <;> rfl

@[simp] theorem groupsInIntersection_withoutTokens :
    Print.groupsInIntersection n.withoutTokens = Print.groupsInIntersection n := by
  cases n <;> rfl

end

@[simp] theorem callsOnTheWay_withoutTokens (n : Node) :
    n.withoutTokens.callsOnTheWay = n.callsOnTheWay := by
  cases n with
  | member t whole key computed optional => exact callsOnTheWay_withoutTokens whole
  | _ => rfl

@[simp] theorem endsInOpenIf_withoutTokens (n : Node) :
    n.withoutTokens.endsInOpenIf = n.endsInOpenIf := by
  cases n with
  | ifStatement t c a b =>
      have below := endsInOpenIf_withoutTokens b
      simp only [withoutTokens, endsInOpenIf, isPresent_withoutTokens, below]
  | forStatement t init c u body => exact endsInOpenIf_withoutTokens body
  | forIn t left right body => exact endsInOpenIf_withoutTokens body
  | forOf t awaits left right body => exact endsInOpenIf_withoutTokens body
  | whileStatement t c body => exact endsInOpenIf_withoutTokens body
  | labeled t label body => exact endsInOpenIf_withoutTokens body
  | _ => rfl

theorem leftmost_withoutTokens (n : Node) : n.withoutTokens.leftmost = n.leftmost.withoutTokens := by
  cases n with
  | call t callee args optional => exact leftmost_withoutTokens callee
  | member t whole key computed optional => exact leftmost_withoutTokens whole
  | taggedTemplate t tag template => exact leftmost_withoutTokens tag
  | binary t left operator right => exact leftmost_withoutTokens left
  | assignment t operator target value => exact leftmost_withoutTokens target
  | conditional t c a b => exact leftmost_withoutTokens c
  | sequence t es =>
      cases es with
      | nil => rfl
      | cons first others => exact leftmost_withoutTokens first
  | update t operator operand before =>
      cases before with
      | false => exact leftmost_withoutTokens operand
      | true => rfl
  | nonNull t e => exact leftmost_withoutTokens e
  | assertion t e type satisfies => exact leftmost_withoutTokens e
  | _ => rfl

@[simp] theorem startsWithBrace_withoutTokens (n : Node) :
    n.withoutTokens.startsWithBrace = n.startsWithBrace := by
  rw [startsWithBrace, startsWithBrace, leftmost_withoutTokens]
  cases n.leftmost <;> rfl

@[simp] theorem startsLikeStatement_withoutTokens (n : Node) :
    n.withoutTokens.startsLikeStatement = n.startsLikeStatement := by
  rw [startsLikeStatement, startsLikeStatement, leftmost_withoutTokens]
  cases n.leftmost <;> rfl

@[simp] theorem isSpread_withoutTokens (ps : List Node) :
    isSpread (ps.map withoutTokens) = isSpread ps := by
  rw [isSpread, isSpread, List.any_map]
  congr 1
  funext n
  cases n with
  | property t key computed value shorthand method =>
      cases value with
      | arrow t async ps r body => cases body <;> rfl
      | _ => rfl
  | _ => rfl

end Node

namespace Print

/-- Two pieces of text that give the same text, or cannot be printed either of them. -/
def Doc.Same (d e : Doc) : Prop :=
  ∀ noIn, (d noIn).toOption = (e noIn).toOption

namespace Doc.Same

variable {d d' e e' : Doc}

theorem fixed (d : Doc) : d.Same d := fun _ => rfl

theorem fail (f f' : Fault) (t t' : Token) : (Doc.fail f t).Same (.fail f' t') := fun _ => rfl

theorem append (hd : d.Same d') (he : e.Same e') : (d ++ e).Same (d' ++ e') := by
  have pieces (a b : Doc) (noIn : Bool) : ((a ++ b) noIn).toOption =
      (a noIn).toOption.bind fun r => (b r.2).toOption.map fun u => (r.1 ++ u.1, u.2) := by
    change (Doc.append a b noIn).toOption = _
    rw [Doc.append]
    cases a noIn with
    | error f => rfl
    | ok r => cases h : b r.2 <;> simp [h, Except.toOption]
  intro noIn
  rw [pieces, pieces, hd noIn]
  congr 1
  funext r
  rw [he r.2]

theorem ite {c : Prop} [Decidable c] (hd : d.Same d') (he : e.Same e') :
    (if c then d else e).Same (if c then d' else e') := by
  split
  · exact hd
  · exact he

theorem choice {b b' : Bool} (hb : b = b') (hd : d.Same d') (he : e.Same e') :
    (if b then d else e).Same (if b' then d' else e') := by
  subst hb
  exact ite hd he

theorem when {b b' : Bool} (hb : b = b') (h : d.Same d') : (Doc.when b d).Same (.when b' d') :=
  choice hb h (fixed _)

/-- What holds after a piece may be replaced. -/
theorem replaced {x y : Except Failure (Text × Bool)} (h : x.toOption = y.toOption) (noIn : Bool) :
    (x.map fun r => (r.1, noIn)).toOption = (y.map fun r => (r.1, noIn)).toOption := by
  cases x <;> cases y <;> simp_all [Except.toOption, Except.map]

theorem enclosed (opening closing : String) (h : d.Same d') :
    (Doc.enclosed opening d closing).Same (.enclosed opening d' closing) := by
  have pieces (a : Doc) (noIn : Bool) : Doc.enclosed opening a closing noIn =
      ((opening ++ a ++ closing : Doc) false).map fun r => (r.1, noIn) := by
    rw [Doc.enclosed]
    cases (opening ++ a ++ closing : Doc) false <;> rfl
  intro noIn
  rw [pieces, pieces]
  exact replaced (append (append (fixed _) h) (fixed _) false) noIn

theorem inHead (h : d.Same d') : (Doc.inHead d).Same (.inHead d') := by
  have pieces (a : Doc) (noIn : Bool) : Doc.inHead a noIn = (a true).map fun r => (r.1, false) := by
    rw [Doc.inHead]
    cases a true <;> rfl
  intro noIn
  rw [pieces, pieces]
  exact replaced (h true) false

theorem ifNoIn (hd : d.Same d') (he : e.Same e') : (Doc.ifNoIn d e).Same (.ifNoIn d' e') := by
  intro noIn
  cases noIn with
  | false => exact he false
  | true => exact hd true

section
variable {ds ds' : List Doc} (h : List.Forall₂ Same ds ds')
include h

theorem concat : (Doc.concat ds).Same (.concat ds') := by
  induction h with
  | nil => exact fixed _
  | cons first _ ih => exact append first ih

theorem join (separator : String) : (Doc.join separator ds).Same (.join separator ds') := by
  induction h with
  | nil => exact fixed _
  | cons first rest ih =>
      cases rest with
      | nil => exact first
      | cons => exact append (append first (fixed _)) ih

end

end Doc.Same

/-- The piece of a tree without its tokens, next to the piece of the tree. -/
structure Piece.Same (p q : Piece) : Prop where
  node : p.node = q.node.withoutTokens
  doc : p.doc.Same q.doc

namespace Piece.Same

variable {p q : Piece}

theorem required (role : Role) (h : p.Same q) : (p.required role).Same (q.required role) := by
  rw [Piece.required, Piece.required, h.node, Node.isPresent_withoutTokens]
  exact .ite h.doc (.fixed _)

theorem optional (before : String) {print : Piece → Doc} (h : p.Same q)
    (printed : (print p).Same (print q)) : (p.optional before print).Same (q.optional before print) := by
  rw [Piece.optional, Piece.optional, h.node, Node.isPresent_withoutTokens]
  exact .when rfl (.append (.fixed _) printed)

theorem atLevel (level : Nat) (h : p.Same q) : (p.atLevel level).Same (q.atLevel level) := by
  simp only [Piece.atLevel, h.node, Node.isPresent_withoutTokens, Node.level_withoutTokens,
    Node.isInTest_withoutTokens]
  have parenthesized := h.doc.enclosed "(" ")"
  exact .ite (.fixed _) (.ite parenthesized (.ite (.ifNoIn parenthesized h.doc) h.doc))

theorem anyLevel (h : p.Same q) : p.anyLevel.Same q.anyLevel := h.atLevel _

theorem element (h : p.Same q) : p.element.Same q.element := h.atLevel _

theorem parenthesizedIf {b b' : Bool} (hb : b = b') {d e : Doc} (h : p.Same q)
    (otherwise : d.Same e) : (p.parenthesizedIf b d).Same (q.parenthesizedIf b' e) :=
  .choice hb (.append (.append (.fixed _) h.anyLevel) (.fixed _)) otherwise

theorem key (computed : Bool) (h : p.Same q) : (p.key computed).Same (q.key computed) :=
  .ite (.append (.append (.fixed _) h.element) (.fixed _)) (h.atLevel _)

theorem type (h : p.Same q) : p.type.Same q.type := h.required _

theorem typed (h : p.Same q) : p.typed.Same q.typed := h.optional _ h.type

theorem typeOperand {inParens : Node → Bool} (blind : ∀ n, inParens n.withoutTokens = inParens n)
    (h : p.Same q) : (p.typeOperand inParens).Same (q.typeOperand inParens) := by
  rw [Piece.typeOperand, Piece.typeOperand, h.node, blind]
  exact .ite (.append (.append (.fixed _) h.type) (.fixed _)) h.type

theorem initializer (h : p.Same q) : p.initializer.Same q.initializer := h.optional _ h.element

theorem loopHead (h : p.Same q) : p.loopHead.Same q.loopHead := by
  obtain ⟨_, doc⟩ := p
  obtain ⟨n, doc'⟩ := q
  obtain rfl := h.node
  have expression (otherwise : Piece → Doc) (failed : ∀ p q, (otherwise p).Same (otherwise q)) :
      (if n.withoutTokens.isExpression then
        Piece.parenthesizedIf n.withoutTokens.startsWithBrace ⟨n.withoutTokens, doc⟩
          (Piece.anyLevel ⟨n.withoutTokens, doc⟩)
      else otherwise ⟨n.withoutTokens, doc⟩).Same
      (if n.isExpression then
        Piece.parenthesizedIf n.startsWithBrace ⟨n, doc'⟩ (Piece.anyLevel ⟨n, doc'⟩)
      else otherwise ⟨n, doc'⟩) := by
    exact .choice (Node.isExpression_withoutTokens n)
      (h.parenthesizedIf (Node.startsWithBrace_withoutTokens n) h.anyLevel) (failed _ _)
  have failed := expression (fun p => .fail (.badLoopHead p.node) p.node.token) fun _ _ => .fail _ _ _ _
  cases n with
  | declaration => exact h.doc
  | _ => exact failed

theorem typeName (h : p.Same q) : p.typeName.Same q.typeName := by
  obtain ⟨_, doc⟩ := p
  obtain ⟨n, doc'⟩ := q
  obtain rfl := h.node
  cases n with
  | identifier | qualifiedName => exact h.doc
  | _ => exact .fail _ _ _ _

theorem arrowBody (t t' : Token) (h : p.Same q) : (p.arrowBody t).Same (q.arrowBody t') := by
  obtain ⟨_, doc⟩ := p
  obtain ⟨n, doc'⟩ := q
  obtain rfl := h.node
  have expression :
      (if n.withoutTokens.isExpression then
        Piece.parenthesizedIf n.withoutTokens.startsWithBrace ⟨n.withoutTokens, doc⟩
          (Piece.element ⟨n.withoutTokens, doc⟩)
      else .fail .noArrowBody t).Same
      (if n.isExpression then
        Piece.parenthesizedIf n.startsWithBrace ⟨n, doc'⟩ (Piece.element ⟨n, doc'⟩)
      else .fail .noArrowBody t') := by
    exact .choice (Node.isExpression_withoutTokens n)
      (h.parenthesizedIf (Node.startsWithBrace_withoutTokens n) h.element) (.fail _ _ _ _)
  cases n with
  | block => exact h.doc
  | _ => exact expression

theorem methodBody (t t' : Token) {k k' : Doc} (hk : k.Same k') (h : p.Same q) :
    (p.methodBody t k).Same (q.methodBody t' k') := by
  obtain ⟨_, doc⟩ := p
  obtain ⟨n, doc'⟩ := q
  obtain rfl := h.node
  cases n with
  | function => exact .append (.append (.fixed _) hk) h.doc
  | _ => exact .fail _ _ _ _

theorem binaryOperand (operator : Text) (level : Nat) (h : p.Same q) :
    (p.binaryOperand operator level).Same (q.binaryOperand operator level) := by
  rw [Piece.binaryOperand, Piece.binaryOperand, h.node, Node.mixes_withoutTokens]
  exact .ite (h.anyLevel.enclosed _ _) (h.atLevel _)

theorem target (h : p.Same q) : p.target.Same q.target := by
  rw [Piece.target, Piece.target, h.node, Node.isDestructuring_withoutTokens]
  exact h.atLevel _

theorem object (computed : Bool) (h : p.Same q) : (p.object computed).Same (q.object computed) := by
  rw [Piece.object, Piece.object, h.node, Node.takesPoint_withoutTokens]
  exact .ite (.append (.append (.fixed _) h.doc) (.fixed _)) (h.atLevel _)

end Piece.Same

/-! Lists of pieces. -/

section
variable {ps qs : List Piece} (h : List.Forall₂ Piece.Same ps qs)
include h

theorem mapped_same {f : Piece → Doc} (hf : ∀ {p q : Piece}, p.Same q → (f p).Same (f q)) :
    List.Forall₂ Doc.Same (ps.map f) (qs.map f) := by
  rw [List.forall₂_map_left_iff, List.forall₂_map_right_iff]
  exact h.imp fun _ _ => hf

theorem elementList_same {print : Piece → Doc}
    (hp : ∀ {p q : Piece}, p.Same q → (print p).Same (print q)) :
    (elementList print ps).Same (elementList print qs) := by
  induction h with
  | nil => exact .fixed _
  | @cons p q ps qs first rest ih =>
      have present : p.node.isPresent = q.node.isPresent := by
        rw [first.node, Node.isPresent_withoutTokens]
      cases rest with
      | nil =>
          rw [elementList, elementList, present]
          exact .ite (hp first) (.fixed _)
      | cons =>
          exact .append (.append (.when present (hp first)) (.fixed _)) ih

theorem argumentList_same : (argumentList ps).Same (argumentList qs) :=
  .enclosed _ _ (.join (mapped_same h (·.element)) _)

theorem signature_same {r r' : Piece} (hr : r.Same r') : (signature ps r).Same (signature qs r') :=
  .append (.enclosed _ _ (.join (mapped_same h (·.required _)) _)) hr.typed

theorem interleave_same (chunks : List Text) : (interleave chunks ps).Same (interleave chunks qs) := by
  induction chunks generalizing ps qs with
  | nil => exact .fixed _
  | cons chunk chunks ih =>
      cases h with
      | nil => exact .append (.fixed _) (ih .nil)
      | cons first rest =>
          exact .append (.append (.append (.append (.fixed _) (.fixed _)) first.anyLevel) (.fixed _))
            (ih rest)

end

theorem braced_same (indent margin : Text) (ending : String) {ds es : List Doc}
    (h : List.Forall₂ Doc.Same ds es) :
    (braced indent margin ending ds).Same (braced indent margin ending es) := by
  cases h with
  | nil => exact .fixed _
  | @cons d e ds es first rest =>
      have lines : List.Forall₂ Doc.Same
          ((d :: ds).map fun line => (margin ++ indent : Text) ++ line ++ (ending ++ "\n"))
          ((e :: es).map fun line => (margin ++ indent : Text) ++ line ++ (ending ++ "\n")) := by
        rw [List.forall₂_map_left_iff, List.forall₂_map_right_iff]
        exact (List.Forall₂.cons first rest).imp fun _ _ line => .append (.append (.fixed _) line) (.fixed _)
      exact .append (.append (.append (.fixed _) (.concat lines)) (.fixed _)) (.fixed _)

open Doc.Same

mutual

/-- A tree without its tokens is printed as the tree is. -/
theorem piece_same (indent margin : Text) (place : Place) (n : Node) :
    (piece indent margin place n.withoutTokens).Same (piece indent margin place n) := by
  refine ⟨by rw [piece_node, piece_node], ?_⟩
  cases n with
  | absent => exact fixed _
  | program body =>
      exact concat (mapped_same (pieces_same indent margin body) fun s =>
        fixed _ |>.append (s.required _) |>.append (fixed _))
  | block t body =>
      exact braced_same _ _ _ (mapped_same (pieces_same indent (margin ++ indent) body) (·.required _))
  | expressionStatement t e =>
      have e' := piece_same indent margin .usual e
      exact e'.parenthesizedIf (Node.startsLikeStatement_withoutTokens e) e'.anyLevel |>.append (fixed _)
  | declaration t keyword ds =>
      exact fixed _ |>.append (join (mapped_same (pieces_same indent margin ds) (·.required _)) _)
        |>.append (fixed _)
  | declarator t target definite type value =>
      exact (piece_same indent margin .usual target).required _ |>.append (fixed _)
        |>.append (piece_same indent margin .usual type).typed
        |>.append (piece_same indent margin .usual value).initializer
  | functionDeclaration t f => exact (piece_same indent margin .usual f).required _
  | interfaceDeclaration t name bases members =>
      exact fixed _ |>.append ((piece_same indent margin .usual name).required _)
        |>.append (when (by simp) (fixed _))
        |>.append (join (mapped_same (pieces_same indent margin bases) (·.type)) _) |>.append (fixed _)
        |>.append (braced_same _ _ _
          (mapped_same (pieces_same indent (margin ++ indent) members) (·.required _)))
  | typeAlias t name type =>
      exact fixed _ |>.append ((piece_same indent margin .usual name).required _) |>.append (fixed _)
        |>.append (piece_same indent margin .usual type).type |>.append (fixed _)
  | ifStatement t c a b =>
      have other := piece_same indent margin .usual b
      exact fixed _ |>.append (piece_same indent margin .usual c).anyLevel |>.append (fixed _)
        |>.append (choice (by simp)
          (braced_same _ _ _ (.cons ((piece_same indent (margin ++ indent) .usual a).required _) .nil))
          ((piece_same indent margin .usual a).required _))
        |>.append (other.optional _ (other.required _))
  | forStatement t init c u body =>
      have c' := piece_same indent margin .usual c
      have u' := piece_same indent margin .usual u
      exact fixed _ |>.append (when (by simp) (inHead (piece_same indent margin .loopHead init).loopHead))
        |>.append (fixed _) |>.append (c'.optional _ c'.anyLevel) |>.append (fixed _)
        |>.append (u'.optional _ u'.anyLevel) |>.append (fixed _)
        |>.append ((piece_same indent margin .usual body).required _)
  | forIn t left right body =>
      exact fixed _ |>.append (piece_same indent margin .loopHead left).loopHead |>.append (fixed _)
        |>.append (piece_same indent margin .usual right).anyLevel |>.append (fixed _)
        |>.append ((piece_same indent margin .usual body).required _)
  | forOf t awaits left right body =>
      exact fixed _ |>.append (piece_same indent margin .loopHead left).loopHead |>.append (fixed _)
        |>.append (piece_same indent margin .usual right).element |>.append (fixed _)
        |>.append ((piece_same indent margin .usual body).required _)
  | whileStatement t c body =>
      exact fixed _ |>.append (piece_same indent margin .usual c).anyLevel |>.append (fixed _)
        |>.append ((piece_same indent margin .usual body).required _)
  | doWhile t body c =>
      exact fixed _ |>.append ((piece_same indent margin .usual body).required _) |>.append (fixed _)
        |>.append (piece_same indent margin .usual c).anyLevel |>.append (fixed _)
  | returnStatement t v =>
      have v' := piece_same indent margin .usual v
      exact fixed _ |>.append (v'.optional _ v'.anyLevel) |>.append (fixed _)
  | breakStatement t l =>
      have l' := piece_same indent margin .usual l
      exact fixed _ |>.append (l'.optional _ l'.doc) |>.append (fixed _)
  | continueStatement t l =>
      have l' := piece_same indent margin .usual l
      exact fixed _ |>.append (l'.optional _ l'.doc) |>.append (fixed _)
  | throwStatement t v =>
      exact fixed _ |>.append (piece_same indent margin .usual v).anyLevel |>.append (fixed _)
  | tryStatement t b handler finalizer =>
      have h' := piece_same indent margin .usual handler
      have f' := piece_same indent margin .usual finalizer
      exact fixed _ |>.append ((piece_same indent margin .usual b).required _)
        |>.append (h'.optional _ h'.doc) |>.append (f'.optional _ (f'.required _))
  | catchClause t param type body =>
      exact fixed _ |>.append (when (by simp) (fixed _
          |>.append ((piece_same indent margin .usual param).required _)
          |>.append (piece_same indent margin .usual type).typed |>.append (fixed _)))
        |>.append ((piece_same indent margin .usual body).required _)
  | switchStatement t d cases =>
      exact fixed _ |>.append (piece_same indent margin .usual d).anyLevel |>.append (fixed _)
        |>.append (concat (mapped_same (pieces_same indent (margin ++ indent) cases) fun c =>
          fixed _ |>.append c.doc |>.append (fixed _)))
        |>.append (fixed _) |>.append (fixed _)
  | switchCase t test body =>
      exact choice (by simp) (fixed _ |>.append (piece_same indent margin .usual test).anyLevel
          |>.append (fixed _)) (fixed _)
        |>.append (concat (mapped_same (pieces_same indent (margin ++ indent) body) fun s =>
          fixed _ |>.append (s.required _)))
  | labeled t l body =>
      exact (piece_same indent margin .usual l).required _ |>.append (fixed _)
        |>.append ((piece_same indent margin .usual body).required _)
  | emptyStatement t | identifier t name | privateName t name | number t raw | string t value raw
  | boolean t value | null t | regex t pattern flags | this t | keywordType t name => exact fixed _
  | template t chunks es => exact enclosed _ _ (interleave_same (pieces_same indent margin es) chunks)
  | array t es => exact enclosed _ _ (elementList_same (pieces_same indent margin es) (·.element))
  | object t ps =>
      exact choice (by simp) (fixed _) (choice (by simp)
        (enclosed _ _ (braced_same _ _ _
          (mapped_same (pieces_same indent (margin ++ indent) ps) (·.required _))))
        (enclosed _ _ (join (mapped_same (pieces_same indent margin ps) (·.required _)) _)))
  | property t key computed value shorthand method =>
      have k' := (piece_same indent margin .usual key).key computed
      have v' := (piece_same indent margin .usual value).element
      exact choice (by simp) v' (ite ((piece_same indent margin .method value).methodBody _ _ k')
        (k' |>.append (fixed _) |>.append v'))
  | spread t e => exact fixed _ |>.append (piece_same indent margin .usual e).element
  | parameter t target optional rest type default =>
      exact fixed _ |>.append ((piece_same indent margin .usual target).required _) |>.append (fixed _)
        |>.append (piece_same indent margin .usual type).typed
        |>.append (piece_same indent margin .usual default).initializer
  | function t async name ps r body =>
      have name' := piece_same indent margin .usual name
      exact when rfl (fixed _ |>.append (name'.optional _ name'.doc))
        |>.append (signature_same (pieces_same indent margin ps) (piece_same indent margin .usual r))
        |>.append (fixed _) |>.append ((piece_same indent margin .usual body).required _)
  | arrow t async ps r body =>
      exact fixed _
        |>.append (signature_same (pieces_same indent margin ps) (piece_same indent margin .usual r))
        |>.append (fixed _) |>.append ((piece_same indent margin .usual body).arrowBody _ _)
  | taggedTemplate t tag quasi =>
      exact (piece_same indent margin .usual tag).atLevel _
        |>.append (choice (by simp) (piece_same indent margin .usual quasi).doc (fail _ _ _ _))
  | call t f args optional =>
      exact (piece_same indent margin .usual f).atLevel _ |>.append (fixed _)
        |>.append (argumentList_same (pieces_same indent margin args))
  | new t f args =>
      have f' := piece_same indent margin .usual f
      exact fixed _ |>.append (f'.parenthesizedIf (by simp) (f'.atLevel _))
        |>.append (argumentList_same (pieces_same indent margin args))
  | member t o p computed optional =>
      have p' := piece_same indent margin .usual p
      exact (piece_same indent margin .usual o).object _ |>.append
        (ite (fixed _ |>.append (enclosed _ _ p'.anyLevel)) (fixed _ |>.append (p'.atLevel _)))
  | assignment t operator target value =>
      exact (piece_same indent margin .usual target).target |>.append (fixed _) |>.append (fixed _)
        |>.append (fixed _) |>.append (piece_same indent margin .usual value).element
  | binary t left operator right =>
      exact (piece_same indent margin .usual left).binaryOperand _ _ |>.append (fixed _)
        |>.append (fixed _) |>.append (fixed _)
        |>.append ((piece_same indent margin .usual right).binaryOperand _ _)
  | unary t operator e =>
      exact fixed _ |>.append (when (by simp) (fixed _))
        |>.append ((piece_same indent margin .usual e).atLevel _)
  | update t operator e before =>
      have e' := piece_same indent margin .usual e
      exact ite (fixed _ |>.append (e'.atLevel _)) (e'.atLevel _ |>.append (fixed _))
  | conditional t c a b =>
      exact (piece_same indent margin .usual c).atLevel _ |>.append (fixed _)
        |>.append (piece_same indent margin .usual a).element |>.append (fixed _)
        |>.append (piece_same indent margin .usual b).element
  | sequence t es => exact join (mapped_same (pieces_same indent margin es) (·.element)) _
  | await t e => exact fixed _ |>.append ((piece_same indent margin .usual e).atLevel _)
  | assertion t e type satisfies =>
      exact (piece_same indent margin .usual e).atLevel _ |>.append (fixed _)
        |>.append (piece_same indent margin .usual type).type
  | nonNull t e => exact (piece_same indent margin .usual e).atLevel _ |>.append (fixed _)
  | arrayPattern t es =>
      exact fixed _ |>.append (elementList_same (pieces_same indent margin es) (·.required _))
        |>.append (fixed _)
  | objectPattern t ps rest =>
      have rest' := piece_same indent margin .usual rest
      exact choice (by simp) (fixed _) (fixed _
        |>.append (join (mapped_same (pieces_same indent margin ps) (·.required _)) _)
        |>.append (when (by simp) (fixed _)) |>.append (rest'.optional _ (rest'.required _))
        |>.append (fixed _))
  | patternProperty t key computed value shorthand =>
      exact when rfl ((piece_same indent margin .usual key).key _ |>.append (fixed _))
        |>.append ((piece_same indent margin .usual value).required _)
  | assignmentPattern t target default =>
      exact (piece_same indent margin .usual target).required _ |>.append (fixed _)
        |>.append (piece_same indent margin .usual default).element
  | restElement t target =>
      exact fixed _ |>.append ((piece_same indent margin .usual target).required _)
  | propertySignature t key computed optional readonly type =>
      exact fixed _ |>.append ((piece_same indent margin .usual key).key _) |>.append (fixed _)
        |>.append (piece_same indent margin .usual type).typed
  | methodSignature t key computed optional ps r =>
      exact (piece_same indent margin .usual key).key _ |>.append (fixed _)
        |>.append (signature_same (pieces_same indent margin ps) (piece_same indent margin .usual r))
  | indexSignature t readonly param keyType valueType =>
      exact fixed _ |>.append ((piece_same indent margin .usual param).required _) |>.append (fixed _)
        |>.append (piece_same indent margin .usual keyType).type |>.append (fixed _)
        |>.append (piece_same indent margin .usual valueType).type
  | arrayType t e =>
      exact (piece_same indent margin .usual e).typeOperand Node.groupsInArray_withoutTokens
        |>.append (fixed _)
  | unionType t types =>
      exact join (mapped_same (pieces_same indent margin types)
        (·.typeOperand Node.groupsInUnion_withoutTokens)) _
  | intersectionType t types =>
      exact join (mapped_same (pieces_same indent margin types)
        (·.typeOperand Node.groupsInIntersection_withoutTokens)) _
  | parenthesizedType t type =>
      exact fixed _ |>.append (piece_same indent margin .usual type).type |>.append (fixed _)
  | typeReference t name args =>
      exact (piece_same indent margin .usual name).typeName |>.append (when (by simp) (fixed _
        |>.append (join (mapped_same (pieces_same indent margin args) (·.type)) _)
        |>.append (fixed _)))
  | qualifiedName t left right =>
      exact (piece_same indent margin .usual left).typeName |>.append (fixed _)
        |>.append ((piece_same indent margin .usual right).required _)
  | literalType t e => exact (piece_same indent margin .usual e).atLevel _
  | tupleType t es =>
      exact fixed _ |>.append (join (mapped_same (pieces_same indent margin es) (·.type)) _)
        |>.append (fixed _)
  | functionType t ps r =>
      exact enclosed _ _ (join (mapped_same (pieces_same indent margin ps) (·.required _)) _)
        |>.append (fixed _) |>.append (piece_same indent margin .usual r).type
  | objectType t members =>
      exact choice (by simp) (fixed _) (fixed _
        |>.append (join (mapped_same (pieces_same indent margin members) (·.required _)) _)
        |>.append (fixed _))

theorem pieces_same (indent margin : Text) (ns : List Node) :
    List.Forall₂ Piece.Same (pieces indent margin (Node.withoutTokensAll ns))
      (pieces indent margin ns) := by
  cases ns with
  | nil => exact .nil
  | cons n ns => exact .cons (piece_same indent margin .usual n) (pieces_same indent margin ns)

end

end Print

namespace Node

/-- A tree without its tokens is printed as the tree is, or neither of them can be printed. -/
theorem print_withoutTokens (n : Node) (indent : Text) :
    (n.withoutTokens.print indent).toOption = (n.print indent).toOption := by
  have text (x : Except Print.Failure (Text × Bool)) :
      (x.map (·.1)).toOption = x.toOption.map (·.1) := by
    cases x <;> rfl
  have same := (Print.piece_same indent [] .usual n).doc false
  rw [Node.print, Node.print, Print.Doc.run, Print.Doc.run, text, text, same]

/-- Trees that differ in tokens only are printed alike. -/
theorem Alike.print {m n : Node} (h : m.Alike n) {indent text : Text}
    (printed : n.print indent = .ok text) : m.print indent = .ok text := by
  have same : (m.print indent).toOption = (n.print indent).toOption := by
    rw [← print_withoutTokens m, ← print_withoutTokens n, h]
  rw [printed] at same
  cases result : m.print indent with
  | error f => simp [result, Except.toOption] at same
  | ok t => simpa [result, Except.toOption] using same

end Node

end CoScript
