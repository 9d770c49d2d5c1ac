import CoScript.Proofs.Script.Declarations

/-!
Control statements: choices, loops with a condition, labels and blocks over statements that are a name or
nothing. A choice with an alternative puts its consequence in braces if that one ends in a choice without
an alternative, which would take the alternative for its own. What is printed is read as tokens, whatever
the statements are nested in.
-/
namespace CoScript

/-- The sign of a reserved word. -/
def Keyword.sign (k : Keyword) : Token.Sign :=
  (.keyword k, txt k.spelling)

namespace Node

/-- A control statement. -/
inductive IsControl : Node → Prop
  | expression {t u : Token} {name : Text} (word : ReadsAs .identifier name) :
      IsControl (.expressionStatement t (.identifier u name))
  | empty {t : Token} : IsControl (.emptyStatement t)
  | block {t : Token} {body : List Node} (items : ∀ s ∈ body, IsControl s) : IsControl (.block t body)
  | choice {t u : Token} {name : Text} {a b : Node} (word : ReadsAs .identifier name)
      (yes : IsControl a) (no : b.isPresent → IsControl b) :
      IsControl (.ifStatement t (.identifier u name) a b)
  | whileLoop {t u : Token} {name : Text} {body : Node} (word : ReadsAs .identifier name)
      (round : IsControl body) : IsControl (.whileStatement t (.identifier u name) body)
  | doLoop {t u : Token} {name : Text} {body : Node} (word : ReadsAs .identifier name)
      (round : IsControl body) : IsControl (.doWhile t body (.identifier u name))
  | labeled {t u : Token} {name : Text} {body : Node} (word : ReadsAs .identifier name)
      (marked : IsControl body) : IsControl (.labeled t (.identifier u name) body)

theorem IsControl.isPresent {n : Node} (h : n.IsControl) : n.isPresent := by
  cases h <;> rfl

mutual

/-- A control statement with a block around each consequence of a choice with an alternative that ends in
a choice without one. -/
def guarded : Node → Node
  | .block t body => .block t (guardedAll body)
  | .ifStatement t c a b =>
    .ifStatement t c (if b.isPresent && a.endsInOpenIf then .block {} [a.guarded] else a.guarded)
      b.guarded
  | .whileStatement t c body => .whileStatement t c body.guarded
  | .doWhile t body c => .doWhile t body.guarded c
  | .labeled t l body => .labeled t l body.guarded
  | n => n

/-- Control statements with such blocks. -/
def guardedAll : List Node → List Node
  | [] => []
  | n :: ns => n.guarded :: guardedAll ns

end

/-- The spelling of a name. -/
def nameText : Node → Text
  | .identifier _ name => name
  | _ => []

/-- The signs of a name in parentheses. -/
def conditionSigns (c : Node) : List Token.Sign :=
  [Operator.parenOpen.sign, (.identifier, c.nameText), Operator.parenClose.sign]

mutual

/-- The signs of a control statement, with braces where blocks are put. -/
def controlSigns : Node → List Token.Sign
  | .expressionStatement _ e => [(.identifier, e.nameText), Operator.semicolon.sign]
  | .emptyStatement _ => [Operator.semicolon.sign]
  | .block _ body => Token.block [controlSignsAll body]
  | .ifStatement _ c a b =>
    Keyword.if.sign :: c.conditionSigns ++
      (if b.isPresent && a.endsInOpenIf then Token.block [a.controlSigns] else a.controlSigns) ++
      if b.isPresent then Keyword.else.sign :: b.controlSigns else []
  | .whileStatement _ c body => Keyword.while.sign :: c.conditionSigns ++ body.controlSigns
  | .doWhile _ body c =>
    Keyword.do.sign :: body.controlSigns ++ Keyword.while.sign :: c.conditionSigns ++
      [Operator.semicolon.sign]
  | .labeled _ l body => (.identifier, l.nameText) :: Operator.colon.sign :: body.controlSigns
  | _ => []

/-- The signs of control statements in turn. -/
def controlSignsAll : List Node → List Token.Sign
  | [] => []
  | n :: ns => n.controlSigns ++ controlSignsAll ns

end

theorem controlSigns_block (t : Token) (body : List Node) :
    controlSigns (.block t body) = Token.block (body.map controlSigns) := by
  have all : controlSignsAll body = (body.map controlSigns).flatten := by
    induction body with
    | nil => rfl
    | cons n ns ih => rw [controlSignsAll, ih]; rfl
  rw [controlSigns, all, Token.block, Token.block, List.flatten_singleton]

end Node

/-! What is printed is read as the signs. -/

namespace Operator

/-- Punctuation that nothing makes longer. -/
def stands : List Operator := [.parenOpen, .parenClose, .braceOpen, .braceClose, .semicolon, .colon]

theorem endsBefore_of_stands : ∀ o ∈ stands, ∀ g : Glyph, o.endsBefore g := by
  intro o ho g
  simp only [stands, List.mem_cons, List.not_mem_nil, or_false] at ho
  rcases ho with rfl | rfl | rfl | rfl | rfl | rfl <;> exact endsBefore_of_alone (by decide)

end Operator

theorem blank_nil : ∀ g ∈ ([] : Text), Trivia.isBlank g :=
  List.forall_mem_nil _

theorem blank_space : ∀ g ∈ txt " ", Trivia.isBlank g := by
  decide

namespace ReadsAsTokens

variable {space rest : Text} (blank : ∀ g ∈ space, Trivia.isBlank g)
include blank

theorem punctuation {o : Operator} (known : o ∈ Operator.stands) :
    ReadsAsTokens (space ++ txt o.spelling) [o.sign] rest := by
  refine .operator space blank ?_ fun g _ => Operator.endsBefore_of_stands o known g
  simp only [Operator.stands, List.mem_cons, List.not_mem_nil, or_false] at known
  rcases known with rfl | rfl | rfl | rfl | rfl | rfl <;> decide

/-- A word and a name in parentheses. -/
theorem conditional {name : Text} (k : Keyword) (t : Token) (word : ReadsAs .identifier name) :
    ReadsAsTokens (space ++ (txt k.spelling ++ (txt " (" ++ (name ++ txt ")"))))
      (k.sign :: Node.conditionSigns (.identifier t name)) rest := by
  have first : ReadsAsTokens (space ++ txt k.spelling) [k.sign] (txt " (" ++ (name ++ txt ")") ++ rest) :=
    .keyword k space blank (by rintro _ ⟨⟩; rfl)
  have opening : ReadsAsTokens (txt " (") [Operator.parenOpen.sign] (name ++ txt ")" ++ rest) :=
    punctuation (o := .parenOpen) blank_space (by decide)
  have named : ReadsAsTokens name [(.identifier, name)] (txt ")" ++ rest) :=
    .identifier [] (by simp) word (by rintro _ ⟨⟩; rfl)
  have closing : ReadsAsTokens (txt ")") [Operator.parenClose.sign] rest :=
    punctuation (o := .parenClose) blank_nil (by decide)
  rw [← List.append_assoc]
  exact first.append (opening.append (named.append closing))

end ReadsAsTokens

namespace Print

/-- A piece of text that is read as signs, with space in front and wherever it stands. -/
def Doc.Spells (d : Doc) (signs : List Token.Sign) : Prop :=
  ∃ t, d = .text t ∧ ∀ space rest, (∀ g ∈ space, Trivia.isBlank g) → ReadsAsTokens (space ++ t) signs rest

theorem Doc.Spells.text {t : Text} {signs : List Token.Sign}
    (h : ∀ space rest, (∀ g ∈ space, Trivia.isBlank g) → ReadsAsTokens (space ++ t) signs rest) :
    (Doc.text t).Spells signs :=
  ⟨t, rfl, h⟩

/-- Statements in turn, each on a line of its own. -/
theorem lines_spell {ds : List Doc} {signs : List (List Token.Sign)}
    (h : List.Forall₂ Doc.Spells ds signs) : ∃ ts : List Text, ds = ts.map .text ∧
      ∀ space rest, (∀ g ∈ space, Trivia.isBlank g) →
        ReadsAsTokens (ts.flatMap fun t => txt "\n" ++ (space ++ t)) signs.flatten rest := by
  induction h with
  | nil => exact ⟨[], rfl, fun _ rest _ => .nil rest⟩
  | cons first _ ih =>
      obtain ⟨t, rfl, read⟩ := first
      obtain ⟨ts, rfl, others⟩ := ih
      refine ⟨t :: ts, rfl, fun space rest blank => ?_⟩
      have line : ∀ g ∈ txt "\n" ++ space, Trivia.isBlank g := List.forall_mem_cons.2 ⟨rfl, blank⟩
      rw [List.flatMap_cons, List.flatten_cons, ← List.append_assoc]
      exact (read _ _ line).append (others space rest blank)

/-- Statements in braces. -/
theorem braced_spells {indent margin : Text} (blank : ∀ g ∈ margin ++ indent, Trivia.isBlank g)
    {ds : List Doc} {signs : List (List Token.Sign)} (h : List.Forall₂ Doc.Spells ds signs) :
    (braced indent margin "" ds).Spells (Token.block signs) := by
  obtain ⟨ts, rfl, read⟩ := lines_spell h
  refine ⟨_, braced_text indent margin ts, fun space rest blank' => ?_⟩
  have last : ∀ g ∈ (if ts.isEmpty then [] else txt "\n" ++ margin), Trivia.isBlank g := by
    split
    · simp
    · exact List.forall_mem_cons.2 ⟨rfl, fun g hg => blank g (List.mem_append_left indent hg)⟩
  rw [← List.append_assoc]
  exact (ReadsAsTokens.punctuation (o := .braceOpen) blank' (by decide)).append
    ((read (margin ++ indent) _ blank).append
      (ReadsAsTokens.punctuation (o := .braceClose) last (by decide)))

theorem statement_doc {indent margin : Text} {n : Node} (present : n.isPresent) :
    (piece indent margin .usual n).required .statement = (piece indent margin .usual n).doc := by
  rw [Piece.required, piece_node, if_pos present]

theorem alternative_doc {indent margin : Text} {n : Node} (present : n.isPresent) :
    (piece indent margin .usual n).optional " else " (·.required .statement) =
      .text (txt " else ") ++ (piece indent margin .usual n).doc := by
  rw [Piece.optional, piece_node, present, statement_doc present]
  rfl

section
variable {indent : Text} (spaced : ∀ g ∈ indent, Trivia.isBlank g)
include spaced

attribute [local simp] Node.controlSigns Node.controlSignsAll

/-- The consequence of a choice, which may be put in braces. -/
theorem consequence_spells {a : Node} (control : a.IsControl) {margin : Text}
    (blank : ∀ g ∈ margin, Trivia.isBlank g) (guards : Bool)
    (h : ∀ {margin : Text}, (∀ g ∈ margin, Trivia.isBlank g) →
      (piece indent margin .usual a).doc.Spells a.controlSigns) :
    Doc.Spells (if guards then
        braced indent margin "" [(piece indent (margin ++ indent) .usual a).required .statement]
      else (piece indent margin .usual a).required .statement)
      (if guards then Token.block [a.controlSigns] else a.controlSigns) := by
  have inner : ∀ g ∈ margin ++ indent, Trivia.isBlank g := List.forall_mem_append.2 ⟨blank, spaced⟩
  rw [statement_doc control.isPresent, statement_doc control.isPresent]
  cases guards with
  | false => exact h blank
  | true => exact braced_spells inner (.cons (h inner) .nil)

/-- A control statement is printed as its signs. -/
theorem control_spells {n : Node} (h : n.IsControl) {margin : Text}
    (blank : ∀ g ∈ margin, Trivia.isBlank g) :
    (piece indent margin .usual n).doc.Spells n.controlSigns := by
  induction h generalizing margin with
  | @expression t u name word =>
      refine ⟨name ++ txt ";", rfl, fun space rest blank' => ?_⟩
      have named : ReadsAsTokens (space ++ name) [(.identifier, name)] (txt ";" ++ rest) :=
        .identifier space blank' word (by rintro _ ⟨⟩; rfl)
      rw [← List.append_assoc]
      exact named.append (.punctuation (o := .semicolon) blank_nil (by decide))
  | empty =>
      exact ⟨txt ";", rfl, fun space rest blank' => .punctuation (o := .semicolon) blank' (by decide)⟩
  | @block t body items ih =>
      have inner : ∀ g ∈ margin ++ indent, Trivia.isBlank g := List.forall_mem_append.2 ⟨blank, spaced⟩
      have lines : List.Forall₂ Doc.Spells
          ((pieces indent (margin ++ indent) body).map (·.required .statement))
          (body.map Node.controlSigns) := by
        clear blank
        induction body with
        | nil => exact .nil
        | cons s body others =>
            obtain ⟨here, rest⟩ := List.forall_mem_cons.1 items
            obtain ⟨first, later⟩ := List.forall_mem_cons.1 ih
            have line : Doc.Spells ((piece indent (margin ++ indent) .usual s).required .statement)
                s.controlSigns := by
              rw [statement_doc here.isPresent]
              exact first inner
            exact .cons line (others rest later)
      rw [Node.controlSigns_block]
      exact braced_spells inner lines
  | @choice t u name a b word yes no ihYes ihNo =>
      have opening : txt "if (" = txt Keyword.if.spelling ++ txt " (" := rfl
      have closing : txt ") " = txt ")" ++ txt " " := rfl
      obtain ⟨consequence, written, read⟩ :=
        consequence_spells spaced yes blank (b.isPresent && a.endsInOpenIf) ihYes
      have doc : (piece indent margin .usual (.ifStatement t (.identifier u name) a b)).doc =
          Doc.text (txt "if (") ++ Doc.text name ++ Doc.text (txt ") ") ++
            (if b.isPresent && a.endsInOpenIf then
              braced indent margin "" [(piece indent (margin ++ indent) .usual a).required .statement]
            else (piece indent margin .usual a).required .statement) ++
            (piece indent margin .usual b).optional " else " (·.required .statement) := rfl
      rw [written] at doc
      cases present : b.isPresent with
      | false =>
          rw [Piece.optional, piece_node, present] at doc
          refine ⟨_, doc, fun space rest blank' => ?_⟩
          have whole := (ReadsAsTokens.conditional blank' .if u word).append
            (read (txt " ") rest blank_space)
          simpa [present, opening, closing] using whole
      | true =>
          obtain ⟨alternative, written', read'⟩ := ihNo present blank
          rw [alternative_doc present, written'] at doc
          refine ⟨_, doc, fun space rest blank' => ?_⟩
          have other : ReadsAsTokens (txt " else") [Keyword.else.sign] (txt " " ++ alternative ++ rest) :=
            .keyword .else (txt " ") (by decide) (by rintro _ ⟨⟩; rfl)
          have whole := (ReadsAsTokens.conditional blank' .if u word).append
            ((read (txt " ") _ blank_space).append (other.append (read' (txt " ") rest blank_space)))
          have middle : txt " else " = txt " else" ++ txt " " := rfl
          simpa [present, opening, closing, middle] using whole
  | @whileLoop t u name body word round ih =>
      obtain ⟨b, written, read⟩ := ih blank
      have doc : (piece indent margin .usual (.whileStatement t (.identifier u name) body)).doc =
          Doc.text (txt "while (") ++ Doc.text name ++ Doc.text (txt ") ") ++
            (piece indent margin .usual body).required .statement := rfl
      rw [statement_doc round.isPresent, written] at doc
      refine ⟨_, doc, fun space rest blank' => ?_⟩
      have whole := (ReadsAsTokens.conditional blank' .while u word).append
        (read (txt " ") rest blank_space)
      have opening : txt "while (" = txt Keyword.while.spelling ++ txt " (" := rfl
      have closing : txt ") " = txt ")" ++ txt " " := rfl
      simpa [opening, closing] using whole
  | @doLoop t u name body word round ih =>
      obtain ⟨b, written, read⟩ := ih blank
      have doc : (piece indent margin .usual (.doWhile t body (.identifier u name))).doc =
          Doc.text (txt "do ") ++ (piece indent margin .usual body).required .statement ++
            Doc.text (txt " while (") ++ Doc.text name ++ Doc.text (txt ");") := rfl
      rw [statement_doc round.isPresent, written] at doc
      refine ⟨_, doc, fun space rest blank' => ?_⟩
      have last : ReadsAsTokens (txt ";") [Operator.semicolon.sign] rest :=
        .punctuation (o := .semicolon) blank_nil (by decide)
      have test := (ReadsAsTokens.conditional blank_space .while u word).append last
      have inner := (read (txt " ") _ blank_space).append test
      have whole := (ReadsAsTokens.keyword .do space blank' (by rintro _ ⟨⟩; rfl)).append inner
      have opening : txt "do " = txt Keyword.do.spelling ++ txt " " := rfl
      have between : txt " while (" = txt " " ++ (txt Keyword.while.spelling ++ txt " (") := rfl
      have closing : txt ");" = txt ")" ++ txt ";" := rfl
      simpa [opening, between, closing, Keyword.sign] using whole
  | @labeled t u name body word marked ih =>
      obtain ⟨b, written, read⟩ := ih blank
      have doc : (piece indent margin .usual (.labeled t (.identifier u name) body)).doc =
          Doc.text name ++ Doc.text (txt ": ") ++
            (piece indent margin .usual body).required .statement := rfl
      rw [statement_doc marked.isPresent, written] at doc
      refine ⟨_, doc, fun space rest blank' => ?_⟩
      have label : ReadsAsTokens (space ++ name) [(.identifier, name)] (txt ":" ++ (txt " " ++ b) ++ rest) :=
        .identifier space blank' word (by rintro _ ⟨⟩; rfl)
      have mark : ReadsAsTokens (txt ":") [Operator.colon.sign] (txt " " ++ b ++ rest) :=
        .punctuation (o := .colon) blank_nil (by decide)
      have whole := label.append (mark.append (read (txt " ") rest blank_space))
      have behind : txt ": " = txt ":" ++ txt " " := rfl
      simpa [Node.nameText, behind] using whole

end

end Print
end CoScript
