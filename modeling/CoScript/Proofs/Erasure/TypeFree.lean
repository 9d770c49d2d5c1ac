import CoScript.Proofs.Erasure.Shape
import CoScript.Proofs.Cooperate.Shape
import CoScript.Proofs.Parse.StatementShape
import CoScript.Proofs.Tree.Subtrees

/-!
Erasing types leaves no type behind and does nothing else: a tree without types stays what it is. Both
are said of all nodes of a tree, those inside of types included.
-/
namespace CoScript

namespace Node

/-- Whether a node says nothing about types itself: it is no type or part of one, it declares and
asserts none, and it marks no binding. -/
def isTypeless : Node → Bool
  | interfaceDeclaration _ _ _ _ | typeAlias _ _ _ | assertion _ _ _ _ | nonNull _ _ => false
  | declarator _ _ definite _ _ => !definite
  | parameter _ _ optional _ _ _ => !optional
  | n => n.category != .type && n.category != .signature && n.category != .qualifiedName

/-- A tree without types. -/
def TypeFree (n : Node) : Prop :=
  ∀ m ∈ n.subtrees, m.isTypeless

theorem typeFree_iff {n : Node} :
    n.TypeFree ↔ (n.isPresent → n.isTypeless) ∧ Throughout (fun _ c => c.TypeFree) n.positions := by
  constructor
  · intro h
    refine ⟨fun present => h n (mem_subtrees.2 ⟨present, .inl rfl⟩), fun p c hc m hm => ?_⟩
    have present : n.isPresent := by
      cases n with
      | absent => cases hc
      | _ => rfl
    exact h m (mem_subtrees.2 ⟨present, .inr ⟨p, c, hc, hm⟩⟩)
  · rintro ⟨here, below⟩ m hm
    obtain ⟨present, rfl | ⟨p, c, hc, hm⟩⟩ := mem_subtrees.1 hm
    · exact here present
    · exact below p c hc m hm

theorem typeFree_leaf {n : Node} (typeless : n.isPresent → n.isTypeless) (leaf : n.positions = []) :
    n.TypeFree :=
  typeFree_iff.2 ⟨typeless, by simp [leaf]⟩

theorem absent_typeFree : TypeFree absent :=
  typeFree_leaf nofun rfl

/-! Nothing is left of types. -/

/-- Whether a node belongs to a type. -/
def inType (n : Node) : Bool :=
  n.category == .type || n.category == .signature || n.category == .qualifiedName

/-- Whether types are erased from what stands in a position. What is in a type is left alone, and an
annotation is dropped as a whole. -/
def Position.isErased : Position → Bool
  | type | signature | typeName | inType _ => false
  | optional p => p.isErased
  | _ => true

theorem Position.outside_of_admits {p : Position} {c : Node} (visited : p.isErased)
    (admitted : p.admits c) : c.inType = false := by
  cases c with
  | propertySignature | methodSignature | indexSignature | keywordType | arrayType | unionType
  | intersectionType | parenthesizedType | typeReference | qualifiedName | literalType | tupleType
  | functionType | objectType =>
      -- What belongs to a type stands nowhere else.
      induction p with
      | optional p ih => exact ih visited admitted
      | type | signature | typeName | inType => cases visited
      | key computed => cases computed <;> cases admitted
      | _ => cases admitted
  | _ => rfl

/-- Whether a node gives way to what it is about, or to nothing. -/
def givesWay : Node → Bool
  | interfaceDeclaration _ _ _ _ | typeAlias _ _ _ | assertion _ _ _ _ | nonNull _ _ => true
  | _ => false

/-- A node that stays has no types below it but annotations. -/
theorem throughout_isErased {n : Node} (outside : n.inType = false) (stays : n.givesWay = false) :
    Throughout (fun p _ => p.isErased ∨ p = .optional .type) n.positions := by
  cases n with
  | interfaceDeclaration | typeAlias | assertion | nonNull => cases stays
  | propertySignature | methodSignature | indexSignature | keywordType | arrayType | unionType
  | intersectionType | parenthesizedType | typeReference | qualifiedName | literalType | tupleType
  | functionType | objectType => cases outside
  | property _ _ _ _ _ method => cases method <;> simp [positions, Position.isErased]
  | _ => simp [positions, Position.isErased]

theorem orEmpty_typeFree {n : Node} (h : n.TypeFree) : n.orEmpty.TypeFree := by
  cases n with
  | absent => exact typeFree_leaf (fun _ => rfl) rfl
  | _ => exact h

/-- The replacement of a child has no types. -/
theorem erasedAt_typeFree {p : Position} {c : Node} (visited : p.isErased ∨ p = .optional .type)
    (admitted : p.admits c) (free : c.inType = false → c.eraseTypes.TypeFree) :
    (erasedAt p c).TypeFree := by
  obtain visited | rfl := visited
  · have free := free (p.outside_of_admits visited admitted)
    cases p with
    | type | signature | typeName | inType => cases visited
    | body => exact orEmpty_typeFree free
    | optional p =>
        cases p with
        | type => exact absent_typeFree
        | body =>
            rw [erasedAt]
            split
            · exact orEmpty_typeFree free
            · exact absent_typeFree
        | _ => exact free
    | _ => exact free
  · exact absent_typeFree

/-- What is left of a node has no types if its children have none. -/
theorem dropTypes_typeFree {n : Node} (outside : n.inType = false) (stays : n.givesWay = false)
    (h : Throughout (fun _ c => c.TypeFree) n.positions) : n.dropTypes.TypeFree := by
  have kept {body : List Node} (h : ∀ s ∈ body, s.TypeFree) :
      ∀ s ∈ body.filter isPresent, s.TypeFree := fun s hs => h s (List.mem_filter.1 hs).1
  refine typeFree_iff.2 ⟨fun _ => ?_, ?_⟩
  · cases n with
    | interfaceDeclaration | typeAlias | assertion | nonNull => cases stays
    | propertySignature | methodSignature | indexSignature | keywordType | arrayType | unionType
    | intersectionType | parenthesizedType | typeReference | qualifiedName | literalType | tupleType
    | functionType | objectType => cases outside
    | _ => rfl
  · cases n with
    | program body | block t body =>
        simp only [dropTypes, positions, throughout_each] at h ⊢
        exact kept h
    | switchCase t test body =>
        simp only [dropTypes, positions, throughout_cons, throughout_each] at h ⊢
        exact ⟨h.1, kept h.2⟩
    | interfaceDeclaration | typeAlias | assertion | nonNull => cases stays
    | _ => exact h

/-- A tree has no types after they are erased. -/
theorem Shaped.eraseTypes_typeFree {n : Node} (h : n.Shaped) (outside : n.inType = false) :
    n.eraseTypes.TypeFree := by
  induction h with
  | @of n fits below ih =>
      have shaped : n.Shaped := .of fits below
      cases stays : n.givesWay with
      | true =>
          cases n with
          | interfaceDeclaration | typeAlias => exact absent_typeFree
          | assertion t e type satisfies | nonNull t e =>
              exact ih .expression e List.mem_cons_self
                (Position.outside_of_admits rfl (fits .expression e List.mem_cons_self))
          | _ => cases stays
      | false =>
          have noSignature : n.category ≠ .signature := by
            intro signature
            simp [inType, signature] at outside
          rw [eraseTypes_eq shaped noSignature]
          refine dropTypes_typeFree ?_ ?_ fun p c' hc' => ?_
          · simpa [inType] using outside
          · cases n <;> first | rfl | cases stays
          · rw [positions_mapPositions] at hc'
            obtain ⟨⟨q, c⟩, hc, heq⟩ := List.mem_map.1 hc'
            obtain ⟨rfl, rfl⟩ := Prod.mk.inj heq
            exact erasedAt_typeFree (throughout_isErased outside stays q c hc) (fits q c hc)
              (ih q c hc)

/-! Nothing else is erased. -/

theorem TypeFree.inType {n : Node} (h : n.TypeFree) : n.inType = false := by
  cases present : n.isPresent with
  | false => cases n <;> first | rfl | cases present
  | true =>
      have typeless := (typeFree_iff.1 h).1 present
      cases n <;> first | rfl | cases typeless

/-- A child without types is its own replacement. -/
theorem FitsIn.erasedAt_of_typeFree {p : Position} {c : Node} (h : c.FitsIn p) (free : c.TypeFree)
    (same : c.eraseTypes = c) : Node.erasedAt p c = c := by
  have body {n : Node} (h : n.isPresent) : n.orEmpty = n := by
    cases n with
    | absent => cases h
    | _ => rfl
  cases p with
  | type | signature | typeName | inType => rfl
  | body =>
      rw [Node.erasedAt, same]
      exact body (Position.isPresent_of_admits rfl h.admitted)
  | optional p =>
      cases p with
      | type =>
          obtain rfl | type := h.absent_or
          · rfl
          · have sort := beq_iff_eq.1 type.admitted
            have outside := free.inType
            simp [Node.inType, sort] at outside
      | body =>
          rw [Node.erasedAt, same]
          split
          · exact body ‹_›
          · cases c with
            | absent => rfl
            | _ => contradiction
      | _ => exact same
  | _ => exact same

/-- A tree without types stays what it is when types are erased. -/
theorem Shaped.eraseTypes_of_typeFree {n : Node} (h : n.Shaped) (free : n.TypeFree) :
    n.eraseTypes = n := by
  induction h with
  | @of n fits below ih =>
      have shaped : n.Shaped := .of fits below
      obtain ⟨typeless, children⟩ := typeFree_iff.1 free
      have outside := free.inType
      have noSignature : n.category ≠ .signature := by
        intro signature
        simp [Node.inType, signature] at outside
      have same : n.mapPositions erasedAt = n := mapPositions_of_fixed fun p c hc =>
        FitsIn.erasedAt_of_typeFree ⟨fits p c hc, below p c hc⟩ (children p c hc)
          (ih p c hc (children p c hc))
      have statements {body : List Node} (h : ∀ s ∈ body, (Position.statement, s) ∈ n.positions) :
          body.filter isPresent = body :=
        List.filter_eq_self.2 fun s hs => Position.isPresent_of_admits rfl (fits _ s (h s hs))
      rw [eraseTypes_eq shaped noSignature, same]
      cases n with
      | interfaceDeclaration | typeAlias | assertion | nonNull => cases typeless rfl
      | declarator t target definite => 
          obtain rfl : definite = false := by simpa [isTypeless] using typeless rfl
          rfl
      | parameter t target optional => 
          obtain rfl : optional = false := by simpa [isTypeless] using typeless rfl
          rfl
      | program body | block t body | switchCase t test body =>
          rw [dropTypes, statements fun s hs => by simp [positions, each, hs]]
      | _ => rfl

/-! Whole trees. -/

/-- Every required position of a well-shaped tree is filled by a node of the sort it asks for. -/
theorem Shaped.filled {n m c : Node} {p : Position} (h : n.Shaped) (hm : m ∈ n.subtrees)
    (hc : (p, c) ∈ m.positions) (required : p.isRequired) : c.isPresent ∧ p.admits c :=
  have fits := (h.subtree hm).childrenFit p c hc
  ⟨Position.isPresent_of_admits required fits.admitted, fits.admitted⟩

theorem Shaped.eraseTypes_eraseTypes {n : Node} (h : n.Shaped) (outside : n.inType = false) :
    n.eraseTypes.eraseTypes = n.eraseTypes :=
  h.eraseTypes.eraseTypes_of_typeFree (h.eraseTypes_typeFree outside)

end Node

open Cooperate

/-- Erasing types removes the types of an accepted script and nothing else, before and after the script
is made cooperative: no node is left that says something about types, no required place is left empty,
and a script without types stays what it is. -/
theorem Script.parse_eraseTypes (o : Options) {source : Source} {program tree : Node}
    (h : Script.parse source = .ok program)
    (stage : tree = program ∨ tree = (program.cooperate o).result) :
    tree.eraseTypes.TypeFree ∧
    (∀ m ∈ tree.eraseTypes.subtrees, ∀ p c, (p, c) ∈ m.positions → p.isRequired →
      c.isPresent ∧ p.admits c) ∧
    (tree.TypeFree → tree.eraseTypes = tree) ∧
    tree.eraseTypes.eraseTypes = tree.eraseTypes := by
  have read := Script.parse_shaped h
  have shaped : tree.Shaped := by
    rcases stage with rfl | rfl
    · exact read
    · exact (read.cooperative_fitsIn o).1
  have outside : tree.inType = false := by
    obtain rfl := Script.parse_eq_ok h
    rcases stage with rfl | rfl <;> rfl
  exact ⟨shaped.eraseTypes_typeFree outside, fun m hm p c => shaped.eraseTypes.filled hm,
    shaped.eraseTypes_of_typeFree, shaped.eraseTypes_eraseTypes outside⟩

/-- A choice whose only branch declares a type keeps an empty statement. -/
theorem Script.parse_eraseTypes_alias :
    ∃ program t c, Script.parse (.ofText (txt "if (x as y) type z = w")) = .ok program ∧
      program.eraseTypes = .program [.ifStatement t c (.emptyStatement {}) .absent] ∧
      program.eraseTypes.TypeFree := by
  have parsed : Script.parse (.ofText (txt "if (x as y) type z = w")) = .ok _ := rfl
  exact ⟨_, _, _, parsed, rfl, (Script.parse_eraseTypes .default parsed (.inl rfl)).1⟩

end CoScript
