import CoScript.Proofs.Print.Control

/-!
Arrays of names and holes. A comma stands between two elements, and one more behind a hole at the end, so
that the signs show how many elements there are.
-/
namespace CoScript

namespace Node

/-- A name or a hole. -/
inductive IsSlot : Node → Prop
  | hole : IsSlot .absent
  | name {t : Token} {name : Text} (word : ReadsAs .identifier name) : IsSlot (.identifier t name)

/-- The sign of a name; a hole has none. -/
def slotSigns (n : Node) : List Token.Sign :=
  if n.isPresent then [(.identifier, n.nameText)] else []

/-- The signs of the elements of an array. -/
def slotListSigns : List Node → List Token.Sign
  | [] => []
  | [n] => n.slotSigns ++ if n.isPresent then [] else [Operator.comma.sign]
  | n :: m :: ns => n.slotSigns ++ Operator.comma.sign :: slotListSigns (m :: ns)

/-- The text of the elements of an array. -/
def slotListText : List Node → Text
  | [] => []
  | [n] => n.nameText ++ if n.isPresent then [] else txt ","
  | n :: m :: ns => n.nameText ++ txt ", " ++ slotListText (m :: ns)

/-- The signs of an array or an array pattern. -/
def arraySigns (ns : List Node) : List Token.Sign :=
  Operator.bracketOpen.sign :: slotListSigns ns ++ [Operator.bracketClose.sign]

/-- The text of an array or an array pattern. -/
def arrayText (ns : List Node) : Text :=
  txt "[" ++ slotListText ns ++ txt "]"

/-- The text of an initial value that is a name, if there is one. -/
def initialText (value : Node) : Text :=
  if value.isPresent then txt " = " ++ value.nameText else []

/-- The signs of such a value. -/
def initialSigns (value : Node) : List Token.Sign :=
  if value.isPresent then [Operator.assign.sign, (.identifier, value.nameText)] else []

/-- There is a sign for each element. -/
theorem length_le_slotListSigns (ns : List Node) : ns.length ≤ (slotListSigns ns).length := by
  induction ns using slotListSigns.induct with
  | case1 => exact Nat.zero_le _
  | case2 n =>
      rw [slotListSigns, slotSigns]
      split <;> exact Nat.le_refl 1
  | case3 n m ns ih =>
      simp only [slotListSigns, List.length_append, List.length_cons] at ih ⊢
      omega

end Node

namespace ReadsAsTokens

/-- Punctuation that nothing makes longer, wherever it stands. -/
theorem alone {o : Operator} (known : o ∈ Operator.alone) {space rest : Text}
    (blank : ∀ g ∈ space, Trivia.isBlank g) :
    ReadsAsTokens (space ++ txt o.spelling) [o.sign] rest := by
  have plain : ∀ o ∈ Operator.alone, o ∉ [.optionalDot, .slash, .slashAssign] := by decide
  exact .operator space blank (plain o known) fun _ _ => Operator.endsBefore_of_alone known

/-- A name or a hole in front of a comma or a closing bracket. -/
theorem slot {n : Node} (h : n.IsSlot) {o : Operator} (known : o = .comma ∨ o = .bracketClose)
    {space rest : Text} (blank : ∀ g ∈ space, Trivia.isBlank g) :
    ReadsAsTokens (space ++ n.nameText ++ txt o.spelling) (n.slotSigns ++ [o.sign]) rest := by
  have punctuation : o ∈ Operator.alone ∧ ∀ g ∈ (txt o.spelling).head?, g.holds isNamePart = false := by
    obtain rfl | rfl := known <;> decide
  cases h with
  | hole =>
      have same : space ++ Node.nameText .absent = space := List.append_nil space
      rw [same]
      exact alone punctuation.1 blank
  | @name t name word =>
      have ends : ∀ g ∈ (txt o.spelling ++ rest).head?, g.holds isNamePart = false := by
        obtain rfl | rfl := known <;> exact punctuation.2
      exact (ReadsAsTokens.identifier space blank word ends).append (alone punctuation.1 blank_nil)

/-- The elements of an array and the bracket behind them are read as their signs. -/
theorem slots {ns : List Node} (h : ∀ n ∈ ns, n.IsSlot) {space rest : Text}
    (blank : ∀ g ∈ space, Trivia.isBlank g) :
    ReadsAsTokens (space ++ Node.slotListText ns ++ txt "]")
      (Node.slotListSigns ns ++ [Operator.bracketClose.sign]) rest := by
  induction ns using Node.slotListSigns.induct generalizing space with
  | case1 =>
      rw [Node.slotListText, List.append_nil]
      exact alone (o := .bracketClose) (by decide) blank
  | case2 n =>
      obtain ⟨slot', -⟩ := List.forall_mem_cons.1 h
      cases slot' with
      | hole =>
          exact (alone (o := .comma) (by decide) blank).append
            (alone (o := .bracketClose) (by decide) blank_nil)
      | @name t name word =>
          have text : Node.slotListText [.identifier t name] = name := List.append_nil name
          rw [text]
          exact slot (n := .identifier t name) (.name word) (.inr rfl) blank
  | case3 n m ns ih =>
      obtain ⟨first, others⟩ := List.forall_mem_cons.1 h
      have behind := ih others blank_space
      have whole := (slot first (o := .comma) (.inl rfl) blank).append behind
      have separator : txt ", " = txt Operator.comma.spelling ++ txt " " := rfl
      rw [Node.slotListSigns, Node.slotListText, separator]
      simpa using whole

theorem array {ns : List Node} (h : ∀ n ∈ ns, n.IsSlot) {space rest : Text}
    (blank : ∀ g ∈ space, Trivia.isBlank g) :
    ReadsAsTokens (space ++ Node.arrayText ns) (Node.arraySigns ns) rest := by
  have opening : ReadsAsTokens (space ++ txt "[") [Operator.bracketOpen.sign]
      (Node.slotListText ns ++ txt "]" ++ rest) :=
    alone (o := .bracketOpen) (by decide) blank
  have whole := opening.append (slots h blank_nil)
  simpa [Node.arrayText, Node.arraySigns] using whole

/-- An initial value is read where a semicolon follows. -/
theorem initial {value : Node} (slot : value.IsSlot) (rest : Text) :
    ReadsAsTokens (value.initialText ++ txt ";") (value.initialSigns ++ [Operator.semicolon.sign]) rest := by
  have last {rest : Text} : ReadsAsTokens (txt ";") [Operator.semicolon.sign] rest :=
    alone (o := .semicolon) (by decide) blank_nil
  cases slot with
  | hole => exact last
  | @name t name word =>
      have ends : ∀ g ∈ (txt " " ++ name ++ txt ";" ++ rest).head?, Operator.assign.endsBefore g := by
        rintro _ ⟨⟩
        decide
      have assign : ReadsAsTokens (txt " =") [Operator.assign.sign]
          (txt " " ++ name ++ txt ";" ++ rest) :=
        .operator (txt " ") blank_space (by decide) ends
      have named : ReadsAsTokens (txt " " ++ name) [(.identifier, name)] (txt ";" ++ rest) :=
        .identifier (txt " ") blank_space word (by rintro _ ⟨⟩; rfl)
      exact assign.append (named.append last)

/-- A declaration with an array pattern is read as its signs. -/
theorem declaration (k : Keyword) {ns : List Node} (h : ∀ n ∈ ns, n.IsSlot) {value : Node}
    (slot : value.IsSlot) (rest : Text) :
    ReadsAsTokens (txt k.spelling ++ (txt " " ++ (Node.arrayText ns ++ (value.initialText ++ txt ";"))))
      (k.sign :: (Node.arraySigns ns ++ (value.initialSigns ++ [Operator.semicolon.sign]))) rest := by
  have first : ReadsAsTokens (txt k.spelling) [k.sign]
      (txt " " ++ (Node.arrayText ns ++ (value.initialText ++ txt ";")) ++ rest) :=
    .keyword k [] blank_nil (by rintro _ ⟨⟩; rfl)
  have pattern : ReadsAsTokens (txt " " ++ Node.arrayText ns) (Node.arraySigns ns)
      (value.initialText ++ txt ";" ++ rest) :=
    array h blank_space
  have behind := pattern.append (initial slot rest)
  rw [List.append_assoc] at behind
  exact first.append behind

end ReadsAsTokens

namespace Print

/-- Elements that are names or holes are printed as their text. -/
theorem elementList_slots {indent margin : Text} {print : Piece → Doc}
    (names : ∀ t name, print (piece indent margin .usual (.identifier t name)) = .text name)
    {ns : List Node} (h : ∀ n ∈ ns, n.IsSlot) :
    elementList print (pieces indent margin ns) = .text (Node.slotListText ns) := by
  induction ns using Node.slotListText.induct with
  | case1 => rfl
  | case2 n =>
      obtain ⟨single, -⟩ := List.forall_mem_cons.1 h
      cases single with
      | hole => rfl
      | @name t name =>
          have text : Node.slotListText [.identifier t name] = name := List.append_nil name
          rw [text]
          exact names t name
  | case3 n m ns ih =>
      obtain ⟨first, others⟩ := List.forall_mem_cons.1 h
      have unrolled : elementList print (pieces indent margin (n :: m :: ns)) =
          .when n.isPresent (print (piece indent margin .usual n)) ++ Doc.text (txt ", ") ++
            elementList print (pieces indent margin (m :: ns)) := by
        rw [pieces, pieces, elementList, piece_node]
        simp
      rw [unrolled, ih others]
      cases first with
      | hole => rfl
      | @name t name =>
          rw [names]
          rfl

/-- The text of an array. -/
theorem array_doc (indent margin : Text) (place : Place) (t : Token) {ns : List Node}
    (h : ∀ n ∈ ns, n.IsSlot) :
    (piece indent margin place (.array t ns)).doc = .text (Node.arrayText ns) := by
  have elements : elementList (·.element) (pieces indent margin ns) = .text (Node.slotListText ns) :=
    elementList_slots (fun _ _ => rfl) h
  change Doc.enclosed "[" (elementList (·.element) (pieces indent margin ns)) "]" = _
  rw [elements]
  rfl

/-- The text of an array pattern. -/
theorem arrayPattern_doc (indent margin : Text) (place : Place) (t : Token) {ns : List Node}
    (h : ∀ n ∈ ns, n.IsSlot) : (piece indent margin place (.arrayPattern t ns)).doc =
      .text (Node.arrayText ns) := by
  have elements : elementList (·.required .binding) (pieces indent margin ns) =
      .text (Node.slotListText ns) :=
    elementList_slots (fun _ _ => rfl) h
  change "[" ++ elementList (·.required .binding) (pieces indent margin ns) ++ "]" = _
  rw [elements]
  rfl

/-- The text of a declaration with an array pattern. -/
theorem declaration_doc (indent margin : Text) (t u v : Token) (keyword : Text) {ns : List Node}
    (h : ∀ n ∈ ns, n.IsSlot) {value : Node} (slot : value.IsSlot) :
    (piece indent margin .usual (.declaration t keyword
      [.declarator u (.arrayPattern v ns) false .absent value])).doc =
      .text (keyword ++ (txt " " ++ (Node.arrayText ns ++ (value.initialText ++ txt ";")))) := by
  have initial : (piece indent margin .usual value).initializer = .text value.initialText := by
    cases slot <;> rfl
  have declarator : (piece indent margin .usual
      (.declarator u (.arrayPattern v ns) false .absent value)).doc =
      .text (Node.arrayText ns ++ value.initialText) := by
    change (piece indent margin .usual (.arrayPattern v ns)).doc ++ Doc.text [] ++ Doc.text [] ++
      (piece indent margin .usual value).initializer = _
    rw [arrayPattern_doc indent margin .usual v h, initial]
    change Doc.text (_ ++ [] ++ [] ++ _) = _
    rw [List.append_nil, List.append_nil]
  change Doc.text keyword ++ Doc.text (txt " ") ++ (piece indent margin .usual
    (.declarator u (.arrayPattern v ns) false .absent value)).doc ++ Doc.text (txt ";") = _
  rw [declarator]
  change Doc.text (_ ++ _ ++ _ ++ _) = _
  simp only [List.append_assoc]

end Print

end CoScript
