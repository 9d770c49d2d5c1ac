import CoScript.Print.Tree
import CoScript.Proofs.Tree.Shape

/-!
Well-shaped trees can be printed. Printing fails only at a node that is missing or of the wrong sort,
so it is enough that every piece of text that a node is put together from can be printed, and for that
the positions of its children say what is there.
-/
namespace CoScript.Print

/-- A piece of text that can be printed, whether `in` needs parentheses or not. -/
def Doc.Total (d : Doc) : Prop :=
  ∀ noIn, ∃ r, d noIn = .ok r

namespace Doc.Total

variable {d e : Doc}

theorem text (t : Text) : (Doc.text t).Total :=
  fun noIn => ⟨(t, noIn), rfl⟩

theorem empty : Doc.empty.Total := text []

theorem append (hd : d.Total) (he : e.Total) : (d ++ e).Total := by
  intro noIn
  obtain ⟨⟨t, noIn'⟩, ht⟩ := hd noIn
  obtain ⟨⟨u, noIn''⟩, hu⟩ := he noIn'
  refine ⟨(t ++ u, noIn''), ?_⟩
  change Doc.append d e noIn = _
  simp only [Doc.append, ht, hu]

theorem concat {ds : List Doc} (h : ∀ d ∈ ds, d.Total) : (Doc.concat ds).Total := by
  induction ds with
  | nil => exact empty
  | cons d ds ih =>
      exact append (h d List.mem_cons_self) (ih fun e he => h e (List.mem_cons_of_mem d he))

theorem join {ds : List Doc} (separator : String) (h : ∀ d ∈ ds, d.Total) :
    (Doc.join separator ds).Total := by
  induction ds with
  | nil => exact empty
  | cons d ds ih =>
      have first := h d List.mem_cons_self
      have rest := ih fun e he => h e (List.mem_cons_of_mem d he)
      cases ds with
      | nil => exact first
      | cons e ds => exact append (append first (text _)) rest

theorem whenever {condition : Bool} (h : condition → d.Total) :
    (Doc.when condition d).Total := by
  cases condition with
  | false => exact empty
  | true => exact h rfl

theorem when (condition : Bool) (h : d.Total) : (Doc.when condition d).Total :=
  whenever fun _ => h

theorem ite {c : Prop} [Decidable c] (hd : c → d.Total) (he : ¬c → e.Total) :
    (if c then d else e).Total := by
  split
  · exact hd ‹_›
  · exact he ‹_›

theorem enclosed (opening closing : String) (h : d.Total) :
    (Doc.enclosed opening d closing).Total := by
  intro noIn
  obtain ⟨⟨t, noIn'⟩, ht⟩ := append (append (text (txt opening)) h) (text (txt closing)) false
  exact ⟨(t, noIn), by simp only [Doc.enclosed, ht]⟩

theorem inHead (h : d.Total) : (Doc.inHead d).Total := by
  intro noIn
  obtain ⟨⟨t, noIn'⟩, ht⟩ := h true
  exact ⟨(t, false), by simp only [Doc.inHead, ht]⟩

theorem ifNoIn (hd : d.Total) (he : e.Total) : (Doc.ifNoIn d e).Total := by
  intro noIn
  cases noIn with
  | false => exact he false
  | true => exact hd true

theorem run (h : d.Total) : ∃ t, d.run = .ok t := by
  obtain ⟨⟨t, noIn⟩, ht⟩ := h false
  exact ⟨t, by simp [Doc.run, ht, Except.map]⟩

end Doc.Total

/-- A piece that is there and can be printed. -/
structure Piece.Prints (p : Piece) : Prop where
  present : p.node.isPresent
  total : p.doc.Total

namespace Piece.Prints

variable {p : Piece}

theorem required (role : Role) (h : p.Prints) : (p.required role).Total := by
  simpa [Piece.required, h.present] using h.total

theorem atLevel (level : Nat) (h : p.Prints) : (p.atLevel level).Total := by
  have parenthesized := h.total.enclosed "(" ")"
  unfold Piece.atLevel
  rw [if_neg (by simp [h.present])]
  split
  · exact parenthesized
  split
  · exact parenthesized.ifNoIn h.total
  · exact h.total

theorem anyLevel (h : p.Prints) : p.anyLevel.Total := h.atLevel _

theorem element (h : p.Prints) : p.element.Total := h.atLevel _

theorem parenthesizedIf (condition : Bool) {otherwise : Doc} (h : p.Prints)
    (ho : otherwise.Total) : (p.parenthesizedIf condition otherwise).Total := by
  unfold Piece.parenthesizedIf
  split
  · exact ((Doc.Total.text _).append h.anyLevel).append (.text _)
  · exact ho

theorem key (computed : Bool) (h : p.Prints) : (p.key computed).Total := by
  unfold Piece.key
  split
  · exact ((Doc.Total.text _).append h.element).append (.text _)
  · exact h.atLevel _

theorem type (h : p.Prints) : p.type.Total := h.required _

theorem typeOperand (inParens : Node → Bool) (h : p.Prints) :
    (p.typeOperand inParens).Total := by
  unfold Piece.typeOperand
  split
  · exact ((Doc.Total.text _).append h.type).append (.text _)
  · exact h.type

theorem arrowBody (t : Token) (h : p.Prints) (body : p.node.canEndArrow) :
    (p.arrowBody t).Total := by
  unfold Piece.arrowBody
  split
  · exact h.total
  · rename_i noBlock
    have expression : p.node.isExpression := by
      unfold Node.canEndArrow at body
      split at body
      · exact absurd ‹_› (noBlock _ _)
      · exact body
    rw [if_pos expression]
    exact h.parenthesizedIf _ h.element

theorem loopHead (h : p.Prints) (head : p.node.canHeadLoop) : p.loopHead.Total := by
  unfold Piece.loopHead
  split
  · exact h.total
  · rename_i noDeclaration
    have expression : p.node.isExpression := by
      unfold Node.canHeadLoop at head
      split at head
      · exact absurd ‹_› (noDeclaration _ _ _)
      · exact head
    rw [if_pos expression]
    exact h.parenthesizedIf _ h.anyLevel

theorem typeName (h : p.Prints) (name : p.node.isName || p.node.isQualified) :
    p.typeName.Total := by
  obtain ⟨n, doc⟩ := p
  unfold Piece.typeName
  cases n with
  | identifier | qualifiedName => exact h.total
  | _ => cases name

theorem methodBody (t : Token) {key : Doc} (hk : key.Total) (h : p.Prints)
    (function : p.node.isFunction) : (p.methodBody t key).Total := by
  obtain ⟨n, doc⟩ := p
  unfold Piece.methodBody
  cases n with
  | function => exact .append (.append (.when _ (.text _)) hk) h.total
  | _ => cases function

theorem binaryOperand (operator : Text) (level : Nat) (h : p.Prints) :
    (p.binaryOperand operator level).Total := by
  unfold Piece.binaryOperand
  split
  · exact h.anyLevel.enclosed "(" ")"
  · exact h.atLevel _

theorem target (h : p.Prints) : p.target.Total := h.atLevel _

theorem object (computed : Bool) (h : p.Prints) : (p.object computed).Total := by
  unfold Piece.object
  split
  · exact ((Doc.Total.text _).append h.total).append (.text _)
  · exact h.atLevel _

end Piece.Prints

/-! Lists of pieces. -/

theorem elementList_total {print : Piece → Doc} {ps : List Piece}
    (h : ∀ p ∈ ps, p.node.isPresent → (print p).Total) : (elementList print ps).Total := by
  induction ps with
  | nil => exact .empty
  | cons p ps ih =>
      have first := h p List.mem_cons_self
      have rest := ih fun q hq => h q (List.mem_cons_of_mem p hq)
      cases ps with
      | nil =>
          unfold elementList
          split
          · exact first ‹_›
          · exact .text _
      | cons q ps => exact .append (.append (.whenever first) (.text _)) rest

theorem braced_total (indent margin : Text) (ending : String) {lines : List Doc}
    (h : ∀ d ∈ lines, d.Total) : (braced indent margin ending lines).Total := by
  unfold braced
  split
  · exact .text _
  · refine .append (.append (.append (.text _) (.concat fun d hd => ?_)) (.text _)) (.text _)
    obtain ⟨line, hline, rfl⟩ := List.mem_map.1 hd
    exact .append (.append (.text _) (h line hline)) (.text _)

theorem argumentList_total {ps : List Piece} (h : ∀ p ∈ ps, p.Prints) :
    (argumentList ps).Total := by
  refine .enclosed _ _ (.join _ fun d hd => ?_)
  obtain ⟨p, hp, rfl⟩ := List.mem_map.1 hd
  exact (h p hp).element

theorem interleave_total {chunks : List Text} {ps : List Piece} (h : ∀ p ∈ ps, p.Prints) :
    (interleave chunks ps).Total := by
  induction chunks generalizing ps with
  | nil => exact .empty
  | cons chunk chunks ih =>
      cases ps with
      | nil => exact .append (.text _) (ih h)
      | cons p ps =>
          have first := (h p List.mem_cons_self).anyLevel
          have rest := ih fun q hq => h q (List.mem_cons_of_mem p hq)
          exact .append (.append (.append (.append (.text _) (.text _)) first) (.text _)) rest

theorem operatorGap_total (operator : Text) (operand : Node) :
    (operatorGap operator operand).Total :=
  .when _ (.text _)

/-! Nodes. -/

@[simp] theorem piece_node (indent margin : Text) (place : Place) (n : Node) :
    (piece indent margin place n).node = n := by
  cases n <;> rfl

theorem mem_pieces {indent margin : Text} {ns : List Node} {p : Piece}
    (h : p ∈ pieces indent margin ns) : ∃ n ∈ ns, p = piece indent margin .usual n := by
  induction ns with
  | nil => cases h
  | cons n ns ih =>
      obtain rfl | h := List.mem_cons.1 h
      · exact ⟨n, List.mem_cons_self, rfl⟩
      · obtain ⟨m, hm, rfl⟩ := ih h
        exact ⟨m, List.mem_cons_of_mem n hm, rfl⟩

/-- A node that can be printed wherever it stands. -/
def Printable (n : Node) : Prop :=
  ∀ indent margin place, (piece indent margin place n).Prints

/-- What printing a node relies on at a child. -/
structure PrintsIn (p : Node.Position) (c : Node) : Prop where
  admitted : p.admits c
  printable : c.isPresent → Printable c

section
variable {p : Node.Position} {c : Node} {indent margin : Text}

theorem PrintsIn.piece {place : Place} (h : PrintsIn p c) (required : p.isRequired) :
    (piece indent margin place c).Prints :=
  h.printable (Node.Position.isPresent_of_admits required h.admitted) _ _ _

theorem pieces_print {ns : List Node} (h : ∀ n ∈ ns, PrintsIn p n)
    (required : p.isRequired) : ∀ q ∈ pieces indent margin ns, q.Prints := by
  intro q hq
  obtain ⟨n, hn, rfl⟩ := mem_pieces hq
  exact (h n hn).piece required

theorem mapped_total {ps : List Piece} {f : Piece → Doc} (h : ∀ q ∈ ps, q.Prints)
    (hf : ∀ {q : Piece}, q.Prints → (f q).Total) : ∀ d ∈ ps.map f, d.Total :=
  List.forall_mem_map.2 fun q hq => hf (h q hq)

theorem PrintsIn.optional {before : String} {print : Piece → Doc} (h : PrintsIn (.optional p) c)
    (hp : ∀ {q : Piece}, q.Prints → (print q).Total) :
    ((Print.piece indent margin .usual c).optional before print).Total := by
  refine .whenever fun present => .append (.text _) (hp (h.printable ?_ _ _ _))
  simpa using present

theorem PrintsIn.of_optional (h : PrintsIn (.optional p) c) (present : c.isPresent) :
    PrintsIn p c :=
  ⟨by simpa [Node.Position.admits, present] using h.admitted, h.printable⟩

theorem PrintsIn.loopHead {place : Place} (h : PrintsIn .loopHead c) :
    (Print.piece indent margin place c).loopHead.Total :=
  (h.piece rfl).loopHead (by rw [piece_node]; exact h.admitted)

theorem PrintsIn.arrowBody {place : Place} (t : Token) (h : PrintsIn .arrowBody c) :
    ((Print.piece indent margin place c).arrowBody t).Total :=
  (h.piece rfl).arrowBody t (by rw [piece_node]; exact h.admitted)

theorem PrintsIn.typeName {place : Place} (h : PrintsIn .typeName c) :
    (Print.piece indent margin place c).typeName.Total :=
  (h.piece rfl).typeName (by rw [piece_node]; exact h.admitted)

theorem PrintsIn.typed (h : PrintsIn (.optional .type) c) :
    (Print.piece indent margin .usual c).typed.Total :=
  h.optional (·.type)

theorem PrintsIn.initializer (h : PrintsIn (.optional .expression) c) :
    (Print.piece indent margin .usual c).initializer.Total :=
  h.optional (·.element)

theorem signature_total {ps : List Piece} {r : Piece} (hp : ∀ q ∈ ps, q.Prints)
    (hr : r.typed.Total) : (signature ps r).Total :=
  .append (.enclosed _ _ (.join _ (mapped_total hp (·.required _)))) hr

end

open Node (Throughout positions throughout_nil throughout_cons throughout_append throughout_each)
open Doc.Total

section
variable {n : Node} (h : Throughout PrintsIn n.positions) (indent margin : Text) (place : Place)
include h

theorem statement_total (statement : n.category = .statement) :
    (piece indent margin place n).doc.Total := by
  cases n with
  | block t body =>
      simp only [positions, throughout_each] at h
      exact braced_total _ _ _ (mapped_total (pieces_print h rfl) (·.required _))
  | expressionStatement t e =>
      simp only [positions, throughout_cons] at h
      exact (h.1.piece rfl).parenthesizedIf _ (h.1.piece rfl).anyLevel |>.append (text _)
  | declaration t keyword ds =>
      simp only [positions, throughout_each] at h
      exact text _ |>.append (text _)
        |>.append (join _ (mapped_total (pieces_print h rfl) (·.required _)))
        |>.append (when _ (text _))
  | functionDeclaration t f =>
      simp only [positions, throughout_cons] at h
      exact (h.1.piece rfl).required _
  | interfaceDeclaration t name bases members =>
      simp only [positions, throughout_cons, throughout_append, throughout_each] at h
      obtain ⟨⟨name, bases⟩, members⟩ := h
      exact text _ |>.append ((name.piece rfl).required _) |>.append (when _ (text _))
        |>.append (join _ (mapped_total (pieces_print bases rfl) (·.type))) |>.append (text _)
        |>.append (braced_total _ _ _ (mapped_total (pieces_print members rfl) (·.required _)))
  | typeAlias t name type =>
      simp only [positions, throughout_cons] at h
      obtain ⟨name, type, -⟩ := h
      exact text _ |>.append ((name.piece rfl).required _) |>.append (text _)
        |>.append (type.piece rfl).type |>.append (text _)
  | ifStatement t c a b =>
      simp only [positions, throughout_cons] at h
      obtain ⟨c, a, b, -⟩ := h
      refine text _ |>.append (c.piece rfl).anyLevel |>.append (text _) |>.append ?_
        |>.append (b.optional (·.required _))
      split
      · exact braced_total _ _ _ (List.forall_mem_singleton.2 ((a.piece rfl).required _))
      · exact (a.piece rfl).required _
  | forStatement t init c u body =>
      simp only [positions, throughout_cons] at h
      obtain ⟨init, c, u, body, -⟩ := h
      exact text _ |>.append (whenever fun present => inHead (init.of_optional present).loopHead)
        |>.append (text _) |>.append (c.optional (·.anyLevel)) |>.append (text _)
        |>.append (u.optional (·.anyLevel)) |>.append (text _)
        |>.append ((body.piece rfl).required _)
  | forIn t left right body =>
      simp only [positions, throughout_cons] at h
      obtain ⟨left, right, body, -⟩ := h
      exact text _ |>.append left.loopHead |>.append (text _) |>.append (right.piece rfl).anyLevel
        |>.append (text _) |>.append ((body.piece rfl).required _)
  | forOf t awaits left right body =>
      simp only [positions, throughout_cons] at h
      obtain ⟨left, right, body, -⟩ := h
      exact text _ |>.append (when _ (text _)) |>.append (text _) |>.append left.loopHead
        |>.append (text _) |>.append (right.piece rfl).element |>.append (text _)
        |>.append ((body.piece rfl).required _)
  | whileStatement t c body =>
      simp only [positions, throughout_cons] at h
      obtain ⟨c, body, -⟩ := h
      exact text _ |>.append (c.piece rfl).anyLevel |>.append (text _)
        |>.append ((body.piece rfl).required _)
  | doWhile t body c =>
      simp only [positions, throughout_cons] at h
      obtain ⟨body, c, -⟩ := h
      exact text _ |>.append ((body.piece rfl).required _) |>.append (text _)
        |>.append (c.piece rfl).anyLevel |>.append (text _)
  | returnStatement t v =>
      simp only [positions, throughout_cons] at h
      exact text _ |>.append (h.1.optional (·.anyLevel)) |>.append (text _)
  | breakStatement t l | continueStatement t l =>
      simp only [positions, throughout_cons] at h
      exact text _ |>.append (h.1.optional (·.total)) |>.append (text _)
  | throwStatement t v =>
      simp only [positions, throughout_cons] at h
      exact text _ |>.append (h.1.piece rfl).anyLevel |>.append (text _)
  | tryStatement t b c f =>
      simp only [positions, throughout_cons] at h
      obtain ⟨b, c, f, -⟩ := h
      exact text _ |>.append ((b.piece rfl).required _) |>.append (c.optional (·.total))
        |>.append (f.optional (·.required _))
  | switchStatement t d cases =>
      simp only [positions, throughout_cons, throughout_each] at h
      obtain ⟨d, cases⟩ := h
      exact text _ |>.append (d.piece rfl).anyLevel |>.append (text _)
        |>.append (concat (mapped_total (pieces_print cases rfl) fun c =>
          text _ |>.append c.total |>.append (text _)))
        |>.append (text _) |>.append (text _)
  | labeled t l body =>
      simp only [positions, throughout_cons] at h
      obtain ⟨l, body, -⟩ := h
      exact (l.piece rfl).required _ |>.append (text _) |>.append ((body.piece rfl).required _)
  | emptyStatement t => exact text _
  | _ => cases statement

theorem expression_total (expression : n.isExpression) :
    (piece indent margin place n).doc.Total := by
  cases n with
  | identifier | number | null | this => exact text _
  | privateName t name => exact text _ |>.append (text _)
  | string t value raw => exact ite (fun _ => text _) fun _ => text _
  | boolean t value => cases value <;> exact text _
  | regex t pattern flags =>
      exact text _ |>.append (text _) |>.append (text _) |>.append (text _)
  | template t chunks es =>
      simp only [positions, throughout_each] at h
      exact enclosed _ _ (interleave_total (pieces_print h rfl))
  | array t es =>
      simp only [positions, throughout_each] at h
      refine enclosed _ _ (elementList_total fun q hq present => ?_)
      obtain ⟨e, he, rfl⟩ := mem_pieces hq
      exact (((h e he).of_optional (by simpa using present)).piece rfl).element
  | object t ps =>
      simp only [positions, throughout_each] at h
      refine ite (fun _ => text _) fun _ => ite (fun _ => ?_) fun _ => ?_
      · exact enclosed _ _
          (braced_total _ _ _ (mapped_total (pieces_print h rfl) (·.required _)))
      · exact enclosed _ _ (join _ (mapped_total (pieces_print h rfl) (·.required _)))
  | spread t e =>
      simp only [positions, throughout_cons] at h
      exact text _ |>.append (h.1.piece rfl).element
  | function t async name ps r body =>
      simp only [positions, throughout_cons, throughout_append, throughout_each] at h
      obtain ⟨⟨name, ps⟩, r, body, -⟩ := h
      exact when _ (when _ (text _) |>.append (text _) |>.append (name.optional (·.total)))
        |>.append (signature_total (pieces_print ps rfl) r.typed) |>.append (text _)
        |>.append ((body.piece rfl).required _)
  | arrow t async ps r body =>
      simp only [positions, throughout_cons, throughout_append, throughout_each] at h
      obtain ⟨ps, r, body, -⟩ := h
      exact when _ (text _) |>.append (signature_total (pieces_print ps rfl) r.typed)
        |>.append (text _) |>.append (body.arrowBody t)
  | taggedTemplate t tag quasi =>
      simp only [positions, throughout_cons] at h
      obtain ⟨tag, quasi, -⟩ := h
      refine (tag.piece rfl).atLevel _ |>.append ?_
      rw [if_pos (Node.Position.isPresent_of_admits rfl quasi.admitted)]
      exact (quasi.piece rfl).total
  | call t f args optional =>
      simp only [positions, throughout_cons, throughout_each] at h
      exact (h.1.piece rfl).atLevel _ |>.append (when _ (text _))
        |>.append (argumentList_total (pieces_print h.2 rfl))
  | new t f args =>
      simp only [positions, throughout_cons, throughout_each] at h
      exact text _ |>.append ((h.1.piece rfl).parenthesizedIf _ ((h.1.piece rfl).atLevel _))
        |>.append (argumentList_total (pieces_print h.2 rfl))
  | member t o p computed optional =>
      simp only [positions, throughout_cons] at h
      obtain ⟨o, p, -⟩ := h
      refine (o.piece rfl).object _ |>.append ?_
      split
      · exact when _ (text _) |>.append (enclosed _ _ (p.piece rfl).anyLevel)
      · cases optional <;> exact text _ |>.append ((p.piece rfl).atLevel _)
  | assignment t operator target value =>
      simp only [positions, throughout_cons] at h
      obtain ⟨target, value, -⟩ := h
      exact (target.piece rfl).target |>.append (text _) |>.append (text _) |>.append (text _)
        |>.append (value.piece rfl).element
  | binary t left operator right =>
      simp only [positions, throughout_cons] at h
      obtain ⟨left, right, -⟩ := h
      exact (left.piece rfl).binaryOperand _ _ |>.append (text _) |>.append (text _)
        |>.append (text _) |>.append ((right.piece rfl).binaryOperand _ _)
  | unary t operator e =>
      simp only [positions, throughout_cons] at h
      exact text _ |>.append (operatorGap_total _ _) |>.append ((h.1.piece rfl).atLevel _)
  | update t operator e before =>
      simp only [positions, throughout_cons] at h
      cases before
      · exact (h.1.piece rfl).atLevel _ |>.append (text _)
      · exact text _ |>.append ((h.1.piece rfl).atLevel _)
  | conditional t c a b =>
      simp only [positions, throughout_cons] at h
      obtain ⟨c, a, b, -⟩ := h
      exact (c.piece rfl).atLevel _ |>.append (text _) |>.append (a.piece rfl).element
        |>.append (text _) |>.append (b.piece rfl).element
  | sequence t es =>
      simp only [positions, throughout_each] at h
      exact join _ (mapped_total (pieces_print h rfl) (·.element))
  | await t e =>
      simp only [positions, throughout_cons] at h
      exact text _ |>.append ((h.1.piece rfl).atLevel _)
  | assertion t e type satisfies =>
      simp only [positions, throughout_cons] at h
      obtain ⟨e, type, -⟩ := h
      cases satisfies <;>
        exact (e.piece rfl).atLevel _ |>.append (text _) |>.append (type.piece rfl).type
  | nonNull t e =>
      simp only [positions, throughout_cons] at h
      exact (h.1.piece rfl).atLevel _ |>.append (text _)
  | _ => cases expression

/-- Parts of statements and expressions, and patterns. -/
theorem part_total (part : n.category ∈ [.program, .declarator, .catchClause, .switchCase, .property,
    .parameter, .pattern, .patternProperty]) : (piece indent margin place n).doc.Total := by
  cases n with
  | program body =>
      simp only [positions, throughout_each] at h
      exact concat (mapped_total (pieces_print h rfl) fun s =>
        text _ |>.append (s.required _) |>.append (text _))
  | declarator t target definite type value =>
      simp only [positions, throughout_cons] at h
      obtain ⟨target, type, value, -⟩ := h
      exact (target.piece rfl).required _ |>.append (when _ (text _)) |>.append type.typed
        |>.append value.initializer
  | catchClause t p type body =>
      simp only [positions, throughout_cons] at h
      obtain ⟨p, type, body, -⟩ := h
      exact text _ |>.append (whenever fun present => text _
          |>.append (((p.of_optional present).piece rfl).required _) |>.append type.typed
          |>.append (text _))
        |>.append ((body.piece rfl).required _)
  | switchCase t test body =>
      simp only [positions, throughout_cons, throughout_each] at h
      obtain ⟨test, body⟩ := h
      refine .append ?_ (concat (mapped_total (pieces_print body rfl) fun s =>
        text _ |>.append (text _) |>.append (s.required _)))
      split
      · rename_i present
        exact text _ |>.append ((test.of_optional present).piece rfl).anyLevel |>.append (text _)
      · exact text _
  | property t k computed value shorthand method =>
      simp only [positions, throughout_cons] at h
      obtain ⟨key, printed, -⟩ := h
      have element : ((Print.piece indent margin .usual value).element).Total := by
        cases method <;> exact (printed.piece rfl).element
      refine ite (fun _ => element) fun keyed => ?_
      obtain ⟨present, -⟩ : k.isPresent ∧ shorthand = false := by simpa using keyed
      have named : ((Print.piece indent margin .usual k).key computed).Total :=
        ((key.of_optional present).piece rfl).key computed
      cases method with
      | true =>
          exact (printed.piece rfl).methodBody t named (by rw [piece_node]; exact printed.admitted)
      | false => exact named |>.append (text _) |>.append element
  | parameter t target optional rest type default =>
      simp only [positions, throughout_cons] at h
      obtain ⟨target, type, default, -⟩ := h
      exact when _ (text _) |>.append ((target.piece rfl).required _) |>.append (when _ (text _))
        |>.append type.typed |>.append default.initializer
  | arrayPattern t es =>
      simp only [positions, throughout_each] at h
      refine text _ |>.append (elementList_total fun q hq present => ?_) |>.append (text _)
      obtain ⟨e, he, rfl⟩ := mem_pieces hq
      exact (((h e he).of_optional (by simpa using present)).piece rfl).required _
  | objectPattern t ps rest =>
      simp only [positions, throughout_cons, throughout_append, throughout_each] at h
      obtain ⟨ps, rest, -⟩ := h
      refine ite (fun _ => text _) fun _ => ?_
      exact text _ |>.append (join _ (mapped_total (pieces_print ps rfl) (·.required _)))
        |>.append (when _ (text _)) |>.append (rest.optional (·.required _))
        |>.append (text _)
  | patternProperty t key computed value shorthand =>
      simp only [positions, throughout_cons] at h
      obtain ⟨key, value, -⟩ := h
      exact when _ ((key.piece rfl).key _ |>.append (text _)) |>.append ((value.piece rfl).required _)
  | assignmentPattern t target default =>
      simp only [positions, throughout_cons] at h
      obtain ⟨target, default, -⟩ := h
      exact (target.piece rfl).required _ |>.append (text _) |>.append (default.piece rfl).element
  | restElement t target =>
      simp only [positions, throughout_cons] at h
      exact text _ |>.append ((h.1.piece rfl).required _)
  | _ => simp [Node.category] at part

theorem type_total (type : n.category ∈ [.type, .signature, .qualifiedName]) :
    (piece indent margin place n).doc.Total := by
  cases n with
  | propertySignature t key computed optional readonly type =>
      simp only [positions, throughout_cons] at h
      obtain ⟨key, type, -⟩ := h
      exact when _ (text _) |>.append ((key.piece rfl).key _) |>.append (when _ (text _))
        |>.append type.typed
  | methodSignature t key computed optional ps r =>
      simp only [positions, throughout_cons, throughout_append, throughout_each] at h
      obtain ⟨⟨key, ps⟩, r, -⟩ := h
      exact (key.piece rfl).key _ |>.append (when _ (text _))
        |>.append (signature_total (pieces_print ps rfl) r.typed)
  | indexSignature t readonly param k v =>
      simp only [positions, throughout_cons] at h
      obtain ⟨param, k, v, -⟩ := h
      exact when _ (text _) |>.append (text _) |>.append ((param.piece rfl).required _)
        |>.append (text _) |>.append (k.piece rfl).type |>.append (text _)
        |>.append (v.piece rfl).type
  | keywordType t name => exact text _
  | arrayType t e =>
      simp only [positions, throughout_cons] at h
      exact (h.1.piece rfl).typeOperand _ |>.append (text _)
  | unionType t ts | intersectionType t ts =>
      simp only [positions, throughout_each] at h
      exact join _ (mapped_total (pieces_print h rfl) (·.typeOperand _))
  | parenthesizedType t e =>
      simp only [positions, throughout_cons] at h
      exact text _ |>.append (h.1.piece rfl).type |>.append (text _)
  | typeReference t name args =>
      simp only [positions, throughout_cons, throughout_each] at h
      obtain ⟨name, args⟩ := h
      exact name.typeName |>.append (when _ (text _
        |>.append (join _ (mapped_total (pieces_print args rfl) (·.type))) |>.append (text _)))
  | qualifiedName t left right =>
      simp only [positions, throughout_cons] at h
      obtain ⟨left, right, -⟩ := h
      exact left.typeName |>.append (text _) |>.append ((right.piece rfl).required _)
  | literalType t e =>
      simp only [positions, throughout_cons] at h
      exact (h.1.piece rfl).atLevel _
  | tupleType t ts =>
      simp only [positions, throughout_each] at h
      exact text _ |>.append (join _ (mapped_total (pieces_print h rfl) (·.type)))
        |>.append (text _)
  | functionType t ps r =>
      simp only [positions, throughout_cons, throughout_append, throughout_each] at h
      obtain ⟨ps, r, -⟩ := h
      exact enclosed _ _ (join _ (mapped_total (pieces_print ps rfl) (·.required _)))
        |>.append (text _) |>.append (r.piece rfl).type
  | objectType t members =>
      simp only [positions, throughout_each] at h
      refine ite (fun _ => text _) fun _ => ?_
      exact text _ |>.append (join _ (mapped_total (pieces_print h rfl) (·.required _)))
        |>.append (text _)
  | _ => simp [Node.category] at type

/-- A node is printed once its children can be. -/
theorem piece_prints (present : n.isPresent) : (piece indent margin place n).Prints := by
  refine ⟨by simpa using present, ?_⟩
  cases hn : n.category with
  | absent =>
      cases n with
      | absent => cases present
      | _ => cases hn
  | statement => exact statement_total h indent margin place hn
  | expression => exact expression_total h indent margin place (by simp [Node.isExpression, hn])
  | type | signature | qualifiedName => exact type_total h indent margin place (by simp [hn])
  | _ => exact part_total h indent margin place (by simp [hn])

end

/-- A well-shaped tree can be printed wherever it stands, unless there is nothing. -/
theorem printable_of_shaped {n : Node} (h : n.Shaped) (present : n.isPresent) : Printable n := by
  induction h with
  | @of n fits below ih =>
      exact fun indent margin place => piece_prints (fun p c hc => ⟨fits p c hc, ih p c hc⟩)
        indent margin place present

end CoScript.Print

namespace CoScript.Node

theorem Shaped.printScript {n : Node} (h : n.Shaped) (present : n.isPresent) (indent : Text) :
    ∃ text, n.printScript indent = .ok text := by
  rw [Node.printScript, if_pos present]
  exact (Print.printable_of_shaped h present indent [] .usual).total.run

end CoScript.Node
