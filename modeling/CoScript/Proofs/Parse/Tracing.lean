import CoScript.Proofs.Parse.Grammar
import CoScript.Proofs.Parse.Places
import CoScript.Proofs.Parse.Yield
import CoScript.Proofs.Tree.Subtrees

/-!
What parsers give points into the text that they read. The states on the way need no second look, because
no move leads away from the tokens of the text; so one instance for each rule of the grammar says that what
it gives is made of the tokens it meets.
-/
namespace CoScript

/-! Data that point into a text. -/

/-- Data that may hold tokens. -/
class Traced (α : Type) where
  pointsInto : Text → α → Prop := fun _ _ => True

instance : Traced Unit := {}
instance : Traced Bool := {}
instance : Traced Nat := {}
instance : Traced Node.Position := {}
instance : Traced Token := { pointsInto := Token.PointsInto }
instance : Traced Node := { pointsInto := Node.PointsInto }
instance {α : Type} [Traced α] : Traced (List α) :=
  { pointsInto source as := ∀ a ∈ as, Traced.pointsInto source a }
instance {α : Type} [Traced α] : Traced (Option α) :=
  { pointsInto source o := ∀ a ∈ o, Traced.pointsInto source a }
instance {α β : Type} [Traced α] [Traced β] : Traced (α × β) :=
  { pointsInto source p := Traced.pointsInto source p.1 ∧ Traced.pointsInto source p.2 }

/-- All tokens of a piece of data say where they stand in a text. -/
class Points (source : Text) {α : Type} [Traced α] (a : α) : Prop where
  points : Traced.pointsInto source a

/-- Data that point into a text, as parsers give them. -/
structure Located (source : Text) (α : Type) [Traced α] where
  value : α
  points : Traced.pointsInto source value

namespace Points

variable {source : Text}

instance {α : Type} [Traced α] (x : Located source α) : Points source x.value := ⟨x.points⟩

instance (b : Bool) : Points source b := ⟨trivial⟩
instance (k : Nat) : Points source k := ⟨trivial⟩
instance (u : Unit) : Points source u := ⟨trivial⟩
instance (p : Node.Position) : Points source p := ⟨trivial⟩

section
variable {α β : Type} [Traced α] [Traced β] {a : α} {b : β} {as bs : List α} {o : Option α}

instance pair [h : Points source a] [k : Points source b] : Points source (a, b) := ⟨h.points, k.points⟩

instance nil : Points source ([] : List α) := ⟨List.forall_mem_nil _⟩

instance cons [h : Points source a] [k : Points source as] : Points source (a :: as) :=
  ⟨List.forall_mem_cons.2 ⟨h.points, k.points⟩⟩

instance append [h : Points source as] [k : Points source bs] : Points source (as ++ bs) :=
  ⟨List.forall_mem_append.2 ⟨h.points, k.points⟩⟩

instance none : Points source (none : Option α) := ⟨by rintro _ ⟨⟩⟩

instance some [h : Points source a] : Points source (some a) := ⟨by rintro _ ⟨⟩; exact h.points⟩

instance toList [h : Points source o] : Points source o.toList :=
  ⟨fun a ha => h.points a (Option.mem_toList.1 ha)⟩

end

instance each (p : Node.Position) (ns : List Node) [h : Points source ns] : Points source (Node.each p ns) :=
  ⟨List.forall_mem_map.2 fun n hn => ⟨trivial, h.points n hn⟩⟩

instance absent : Points source Node.absent :=
  ⟨.node rfl (.inl rfl) fun _ _ => by rintro ⟨⟩⟩

/-- Whether something is false, as can be seen from its form. -/
class Refuted (b : Bool) : Prop where
  eq_false : b = false

instance : Refuted false := ⟨rfl⟩

/-- A node other than a template points where its token and its children do. -/
instance (priority := low) node {n : Node} [plain : Refuted n.isTemplate] [own : Points source n.token]
    [below : Points source n.positions] : Points source n :=
  ⟨.node plain.eq_false (.inr own.points) fun p c hc => (below.points (p, c) hc).2⟩

end Points

namespace Parse

/-! Parsers that give such data. -/

/-- From a state whose tokens point into a text, a parser gives nothing or what points there too. -/
class Gives (source : Text) {α : Type} [Traced α] (p : Parse α) : Prop where
  gives {s : State} : s.PointsInto source → Points source (p s).1

namespace Gives

variable {source : Text} {α β : Type} [Traced α] [Traced β] {p q : Parse α} {f : α → Parse β}

instance pure {a : α} [h : Points source a] : Gives source (pure a : Parse α) :=
  ⟨fun _ => inferInstanceAs (Points source (some a))⟩

/-- A parser that looks at the state and moves nowhere. -/
theorem look (g : State → α) (h : ∀ {s}, s.PointsInto source → Points source (g s)) :
    Gives source (fun s => (Option.some (g s), s) : Parse α) :=
  ⟨fun points => have := h points; Points.some⟩

instance current : Gives source current :=
  look State.current fun h => ⟨h.current⟩

instance peek : Gives source peek :=
  look State.peek fun h => ⟨h.peek⟩

instance reject (t : Token) (f : Fault) : Gives source (reject t f : Parse α) := ⟨fun _ => Points.none⟩

instance giveUp : Gives source (giveUp : Parse α) := ⟨fun _ => Points.none⟩

instance (priority := low) bool {p : Parse Bool} : Gives source p := ⟨fun _ => ⟨fun _ _ => trivial⟩⟩

instance (priority := low) nat {p : Parse Nat} : Gives source p := ⟨fun _ => ⟨fun _ _ => trivial⟩⟩

instance (priority := low) unit {p : Parse Unit} : Gives source p := ⟨fun _ => ⟨fun _ _ => trivial⟩⟩

instance (priority := low) bind [m : p.Moves] [h : Gives source p]
    [k : ∀ x : Located source α, Gives source (f x.value)] : Gives source (p >>= f) where
  gives {s} points := by
    have reached := points.reaches (m.reaches s)
    have given := (h.gives points).points
    cases hp : p s with
    | mk r s' =>
        rw [hp] at reached given
        cases r with
        | none =>
            rw [bind_eq_none hp]
            exact Points.none
        | some a =>
            rw [bind_eq hp]
            exact (k ⟨a, given a rfl⟩).gives reached

instance pair_bind {γ : Type} [Traced γ] {p : Parse (α × γ)} {f : α × γ → Parse β} [m : p.Moves]
    [h : Gives source p]
    [k : ∀ (x : Located source α) (y : Located source γ), Gives source (f (x.value, y.value))] :
    Gives source (p >>= f) :=
  bind (k := fun ⟨(a, c), points⟩ => k ⟨a, points.1⟩ ⟨c, points.2⟩)

instance ite {c : Prop} [Decidable c] [Gives source p] [Gives source q] :
    Gives source (if c then p else q) := by
  split <;> infer_instance

instance allowIn [h : Gives source p] : Gives source (allowIn p) :=
  ⟨fun {s} points => h.gives (s := { s with noIn := false }) { points with }⟩

instance forbidIn [h : Gives source p] : Gives source (forbidIn p) :=
  ⟨fun {s} points => h.gives (s := { s with noIn := true }) { points with }⟩

instance watch_attempt [h : Gives source p] : Gives source (watch (attempt p)) where
  gives {s} points := by
    have given := h.gives points
    simp only [watch, attempt]
    infer_instance

theorem of_yields (h : p.Yields (Traced.pointsInto source)) : Gives source p :=
  ⟨fun {s} _ => ⟨fun a ha => h s a (p s).2 (Prod.ext ha rfl)⟩⟩

end Gives

instance (g : Goal) : Traced g.Result :=
  match g with
  | .expression _ | .operators _ _ | .statement | .binding | .type _ | .typeOperators _ _
  | .typeName _ => inferInstanceAs (Traced Node)
  | .patternProperties => inferInstanceAs (Traced (List Node × Node))
  | .elements | .arguments | .properties | .programItems | .blockItems | .caseItems | .cases _
  | .declarators | .patternElements | .parameters | .typeArguments | .tupleElements | .members
  | .bases => inferInstanceAs (Traced (List Node))

/-! What is computed from nodes that were read. -/

section
variable {source : Text}

theorem points_shorthand {key : Node} [h : Points source key] {computed : Bool} {t : Token} {name : Text}
    (known : shorthand? key computed = some (t, name)) : Points source (Node.identifier t name) := by
  unfold shorthand? at known
  split at known
  · cases known
    exact h
  · cases known

/-- A node that points into a text still does with one more child that does. -/
theorem points_of_more {m n c : Node} {p : Node.Position} [h : Points source m] [k : Points source c]
    (plain : m.isTemplate = false) (plain' : n.isTemplate = false) (own : n.token = m.token)
    (below : n.positions = m.positions ++ [(p, c)]) : Points source n := by
  cases h.points with
  | template => cases plain
  | node _ own' below' =>
      refine ⟨.node plain' (own ▸ own') fun p' c' hc => ?_⟩
      rw [below, List.mem_append, List.mem_singleton] at hc
      obtain hc | hc := hc
      · exact below' p' c' hc
      · cases hc
        exact k.points

variable {t : Token} {m n : Node} [Points source t] [h : Points source m] [Points source n]

instance : Points source (unite t m n) := by
  unfold unite
  split
  · exact points_of_more (h := h) (c := n) rfl rfl rfl List.map_append
  · infer_instance

instance : Points source (intersect t m n) := by
  unfold intersect
  split
  · exact points_of_more (h := h) (c := n) rfl rfl rfl List.map_append
  · infer_instance

instance : Points source (extend t m n) := by
  unfold extend
  split
  · exact points_of_more (h := h) (c := n) rfl rfl rfl List.map_append
  · infer_instance

end

/-! Phrases below. -/

/-- Answers to phrases point into the text that they are read in, whichever it is. -/
class Traces (r : Recur) : Prop where
  gives {source : Text} {g : Goal} : Points source g.left? → Gives source (r g)

theorem Traces.free {r : Recur} (h : Traces r) {source : Text} {g : Goal} (none : g.left? = none) :
    Gives source (r g) :=
  h.gives (none ▸ inferInstance)

section
variable {source : Text} {self : Recur} [∀ g, (self g).Moves] [below : Traces self]

section
omit [∀ g, (self g).Moves]

instance : Gives source (self .elements) := below.free rfl
instance : Gives source (self .arguments) := below.free rfl
instance : Gives source (self .properties) := below.free rfl
instance : Gives source (self .statement) := below.free rfl
instance : Gives source (self .programItems) := below.free rfl
instance : Gives source (self .blockItems) := below.free rfl
instance : Gives source (self .caseItems) := below.free rfl
instance : Gives source (self .declarators) := below.free rfl
instance : Gives source (self .binding) := below.free rfl
instance : Gives source (self .patternElements) := below.free rfl
instance : Gives source (self .patternProperties) := below.free rfl
instance : Gives source (self .parameters) := below.free rfl
instance : Gives source (self .typeArguments) := below.free rfl
instance : Gives source (self .tupleElements) := below.free rfl
instance : Gives source (self .members) := below.free rfl
instance : Gives source (self .bases) := below.free rfl
instance {level : Nat} : Gives source (self (.expression level)) := below.free rfl
instance {level : Nat} : Gives source (self (.type level)) := below.free rfl
instance {seenDefault : Bool} : Gives source (self (.cases seenDefault)) := below.free rfl

variable {level : Nat} {left : Node} [h : Points source left]

instance : Gives source (self (.operators level left)) :=
  below.gives (inferInstanceAs (Points source (some left)))

instance : Gives source (self (.typeOperators level left)) :=
  below.gives (inferInstanceAs (Points source (some left)))

instance : Gives source (self (.typeName left)) :=
  below.gives (inferInstanceAs (Points source (some left)))

end

set_option synthInstance.maxSize 10000

variable {t : Token} [ht : Points source t] {left : Node} [hl : Points source left] {ns : List Node}
  [Points source ns] {level : Nat} {b c : Bool}

/-! Keys and bindings. -/

instance : Gives source (key self) := by
  unfold key
  infer_instance

instance : Gives source ( annotation self) := by
  unfold annotation
  infer_instance

instance : Gives source (initializer self) := by
  unfold initializer
  infer_instance

instance : Gives source (binding self) := by
  unfold binding
  refine .bind (k := fun t => ?_)
  split <;> infer_instance

instance : Gives source (bindingElement self) := by
  unfold bindingElement
  infer_instance

instance : Gives source (patternElements self) := by
  unfold patternElements
  infer_instance

instance : Gives source (patternProperty self) := by
  unfold patternProperty
  refine .bind (k := fun t => .pair_bind (k := fun key computed => .bind (k := fun explicit => ?_)))
  split
  · infer_instance
  · refine .bind (k := fun last => ?_)
    split
    · rename_i known _
      have := points_shorthand (h := ⟨key.points⟩) known
      infer_instance
    · infer_instance

instance : Gives source (patternProperties self) := by
  unfold patternProperties
  infer_instance

instance : Gives source (parameter self) := by
  unfold parameter
  infer_instance

instance : Gives source (parameters self) := by
  unfold parameters
  infer_instance

instance : Gives source (parameterList self) := by
  unfold parameterList
  infer_instance

/-! Types. -/

instance : Gives source (typeName self left) := by
  unfold typeName
  infer_instance

instance : Gives source (typeArguments self) := by
  unfold typeArguments
  infer_instance

instance : Gives source (typeReference self) := by
  unfold typeReference
  infer_instance

instance : Gives source (parenthesizedType self) := by
  unfold parenthesizedType
  infer_instance

instance : Gives source (tupleElements self) := by
  unfold tupleElements
  infer_instance

instance : Gives source (typeOperand self) := by
  unfold typeOperand
  refine .bind (k := fun t => ?_)
  split <;> infer_instance

instance : Gives source (typeExpression self level) := by
  unfold typeExpression
  infer_instance

instance : Gives source (typeOperators self level left) := by
  unfold typeOperators
  refine .bind (k := fun ahead => ?_)
  split
  · infer_instance
  · split <;> infer_instance

instance : Gives source (indexSignature self t b) := by
  unfold indexSignature
  infer_instance

instance : Gives source (keyedMember self t b) := by
  unfold keyedMember
  infer_instance

instance : Gives source (memberSignature self) := by
  unfold memberSignature
  infer_instance

instance : Gives source (members self) := by
  unfold members
  infer_instance

instance : Gives source (bases self) := by
  unfold bases
  infer_instance

/-! Functions. -/

instance : Gives source (block self) := by
  unfold block
  infer_instance

instance : Gives source (functionBody self) := by
  unfold functionBody
  infer_instance

instance : Gives source (functionRest self t b left) := by
  unfold functionRest
  infer_instance

instance : Gives source (functionExpression self b) := by
  unfold functionExpression
  infer_instance

instance : Gives source (functionDeclaration self t b) := by
  unfold functionDeclaration
  infer_instance

instance : Gives source (arrowBody self t b ns left) := by
  unfold arrowBody
  infer_instance

instance : Gives source (arrowFunction self b) := by
  unfold arrowFunction
  infer_instance

instance : Gives source (arrowOfName self b) := by
  unfold arrowOfName
  infer_instance

/-! Expressions. -/

instance : Gives source (listElement self) := by
  unfold listElement
  infer_instance

instance : Gives source (elements self) := by
  unfold elements
  infer_instance

instance : Gives source (arguments self) := by
  unfold arguments
  infer_instance

instance : Gives source (argumentList self) := by
  unfold argumentList
  infer_instance

instance : Gives source (propertyRest self t b left c) := by
  unfold propertyRest
  have named (ahead : Token) : Gives source (match shorthand? left c with
      | some (nameToken, name) =>
        return .property t left c (.identifier nameToken name) true false
      | none => reject ahead (.expected (.operator .colon) ahead) : Parse Node) := by
    split
    · rename_i known
      have := points_shorthand (h := hl) known
      infer_instance
    · infer_instance
  infer_instance

instance : Gives source (property self) := by
  unfold property
  infer_instance

instance : Gives source (properties self) := by
  unfold properties
  infer_instance

omit [∀ g, (self g).Moves] below in
instance : Gives source (regexLiteral t) := by
  unfold regexLiteral
  dsimp only
  split
  · infer_instance
  · split <;> infer_instance

omit [∀ g, (self g).Moves] in
/-- A substitution is parsed as a text of its own. -/
theorem substitution_yields (t : Token) (source : Text) :
    (substitution self t source).Yields (Node.PointsInto source) := by
  intro s e s' h
  have given : Points source (self (.expression Level.lowest) (.start source)).1 :=
    (below.free rfl).gives (.start source)
  simp only [substitution] at h
  generalize self (.expression Level.lowest) (.start source) = outcome at h given
  split at h
  · exact given.points e (Prod.mk.inj h).1
  · cases h

omit [∀ g, (self g).Moves] in
theorem substitutions_yield (t : Token) (sources : List Text) :
    (substitutions self t sources).Yields (List.Forall₂ Node.PointsInto sources) := by
  induction sources with
  | nil => exact .pure .nil
  | cons source sources ih =>
      exact (substitution_yields t source).bind fun e first => ih.bind fun es others =>
        .pure (.cons first others)

instance : Gives source (templateLiteral self t) := by
  unfold templateLiteral
  split
  · infer_instance
  · rename_i body parts
    refine .of_yields ((substitutions_yield t body.sources).bind fun ns below => .pure ?_)
    exact .template ht.points parts below

instance : Gives source (nameOperand self t) := by
  unfold nameOperand
  infer_instance

instance : Gives source (groupOperand self) := by
  unfold groupOperand
  infer_instance

instance : Gives source (newOperand self t) := by
  unfold newOperand
  infer_instance

instance : Gives source (unaryOperand self t) := by
  unfold unaryOperand
  infer_instance

instance : Gives source (updateOperand self t) := by
  unfold updateOperand
  infer_instance

instance : Gives source (operand self) := by
  unfold operand
  refine .bind (k := fun t => ?_)
  split <;> infer_instance

instance : Gives source (expression self level) := by
  unfold expression
  infer_instance

instance : Gives source (assignmentRest self t left) := by
  unfold assignmentRest
  infer_instance

instance : Gives source (conditionalRest self t left) := by
  unfold conditionalRest
  infer_instance

instance : Gives source (sequenceRest self t left) := by
  rw [sequenceRest_eq]
  infer_instance

instance : Gives source (assertionRest self t left) := by
  unfold assertionRest
  infer_instance

instance : Gives source (propertyName t) := by
  unfold propertyName
  infer_instance

instance : Gives source (indexRest self t left b) := by
  unfold indexRest
  infer_instance

instance : Gives source (optionalRest self t left) := by
  unfold optionalRest
  infer_instance

instance : Gives source (operatorRest self left) := by
  unfold operatorRest
  refine .bind (k := fun t => ?_)
  dsimp only
  split <;> infer_instance

instance : Gives source (operators self level left) := by
  unfold operators
  infer_instance

/-! Statements. -/

instance : Gives source (item self) := by
  unfold item
  infer_instance

instance : Gives source (programItems self) := by
  unfold programItems
  infer_instance

instance : Gives source (blockItems self) := by
  unfold blockItems
  infer_instance

instance : Gives source (declarator self) := by
  unfold declarator
  infer_instance

instance : Gives source (declarators self) := by
  unfold declarators
  infer_instance

instance : Gives source (declaration self) := by
  unfold declaration
  infer_instance

instance : Gives source (interfaceDeclaration self) := by
  unfold interfaceDeclaration
  infer_instance

instance : Gives source (typeAlias self) := by
  unfold typeAlias
  infer_instance

instance : Gives source (condition self) := by
  unfold condition
  infer_instance

instance : Gives source (body self) := by
  unfold body
  infer_instance

instance : Gives source (ifStatement self) := by
  unfold ifStatement
  infer_instance

instance : Gives source (loopOver self t left b c) := by
  unfold loopOver
  split <;> infer_instance

instance : Gives source (loopClauses self t left) := by
  unfold loopClauses
  refine .bind (k := fun ended => ?_)
  dsimp only
  split <;> infer_instance

instance : Gives source (loopInit self) := by
  unfold loopInit
  refine .bind (k := fun t => ?_)
  split <;> infer_instance

instance : Gives source (forStatement self) := by
  unfold forStatement
  infer_instance

instance : Gives source (whileStatement self) := by
  unfold whileStatement
  infer_instance

instance : Gives source (doWhile self) := by
  unfold doWhile
  infer_instance

instance : Gives source (returnStatement self) := by
  unfold returnStatement
  infer_instance

instance : Gives source (jump) := by
  unfold jump
  infer_instance

instance : Gives source (throwStatement self) := by
  unfold throwStatement
  infer_instance

instance : Gives source (blockAhead self) := by
  unfold blockAhead
  infer_instance

instance : Gives source (catchClause self) := by
  unfold catchClause
  infer_instance

instance : Gives source (tryStatement self) := by
  unfold tryStatement
  infer_instance

instance : Gives source (caseItems self) := by
  unfold caseItems
  infer_instance

instance : Gives source (caseTest self b t) := by
  unfold caseTest
  split <;> infer_instance

instance : Gives source (cases self b) := by
  unfold cases
  infer_instance

instance : Gives source (switchStatement self) := by
  unfold switchStatement
  infer_instance

instance : Gives source (labeledStatement self) := by
  unfold labeledStatement
  infer_instance

instance : Gives source (expressionStatement self) := by
  unfold expressionStatement
  infer_instance

instance : Gives source (wordStatement self t) := by
  unfold wordStatement
  infer_instance

instance : Gives source (statement self) := by
  unfold statement
  refine .bind (k := fun t => ?_)
  split <;> infer_instance

theorem step_traces : Traces (step self) := by
  refine ⟨fun {source g} known => ?_⟩
  cases g with
  | operators level left | typeOperators level left | typeName left =>
      have : Points source left := ⟨known.points left rfl⟩
      dsimp only [step]
      infer_instance
  | _ =>
      dsimp only [step]
      infer_instance

end

/-- Whatever is asked of the parser, and however deep the nesting may go. -/
theorem run_traces (depth : Nat) : Traces (run depth) := by
  induction depth with
  | zero => exact ⟨fun _ => ⟨fun _ => Points.none⟩⟩
  | succ depth ih => exact step_traces

/-- Every node of a script says where its token stands in the script, except inside of templates: the nodes
of a substitution say where theirs stand in the source of the substitution. -/
theorem script_points (source : Text) : (script source).program.PointsInto source := by
  have items : Points source (run (depthBound source) .programItems (.start source)).1 :=
    ((run_traces _).free rfl).gives (.start source)
  rw [script]
  generalize run (depthBound source) .programItems (.start source) = outcome at items
  refine .node rfl (.inl rfl) fun p c hc => ?_
  obtain ⟨n, hn, same⟩ := List.mem_map.1 hc
  cases same
  cases given : outcome.1 with
  | none => simp [given] at hn
  | some ns =>
      rw [given] at hn items
      exact items.points ns rfl c hn

/-- The name in a substitution is said to stand at the start of the script, where the backtick is. -/
theorem substitution_misplaced :
    ∃ n ∈ (script (txt "`${y}`")).program.subtrees,
      n.token.line = 1 ∧ ¬ n.token.PointsInto (txt "`${y}`") := by
  let name : Token :=
    { kind := .identifier, literal := txt "y", raw := txt "y", line := 1, column := 1, stop := 1 }
  let children (ns : List Node) : List Node := ns.flatMap fun n => n.positions.map Prod.snd
  have read :
      (children (children (children [(script (txt "`${y}`")).program]))).map Node.token = [name] := by
    decide
  have below {ns : List Node} {m : Node} (h : ∃ n ∈ children ns, m ∈ n.subtrees) :
      ∃ n ∈ ns, m ∈ n.subtrees := by
    obtain ⟨c, hc, hm⟩ := h
    obtain ⟨n, hn, child⟩ := List.mem_flatMap.1 hc
    obtain ⟨⟨p, c⟩, placed, rfl⟩ := List.mem_map.1 child
    exact ⟨n, hn, Node.mem_subtrees_of_child placed hm⟩
  obtain ⟨n, hn, same⟩ := List.mem_map.1 (read ▸ List.mem_cons_self : name ∈ _)
  have present : n.isPresent := by
    cases n with
    | absent => exact absurd (congrArg Token.line same : 0 = 1) (by decide)
    | _ => rfl
  have itself : n ∈ n.subtrees := Node.mem_subtrees.2 ⟨present, .inl rfl⟩
  obtain ⟨root, hroot, mem⟩ := below (below (below ⟨n, hn, itself⟩))
  obtain rfl := List.mem_singleton.1 hroot
  refine ⟨n, mem, by rw [same], fun points => ?_⟩
  rw [same] at points
  obtain ⟨before, after, split, start, -⟩ := points.place
  cases before with
  | nil => cases split
  | cons g before =>
      have size := g.size_pos
      have none : 0 = g.size + Text.byteSize before := start
      omega

end Parse

end CoScript
