import CoScript.Proofs.Parse.ExpressionShape
import CoScript.Script

/-!
Statements and whole scripts that the parser gives are well shaped. Broken statements are left out of
lists, so this holds of what is made out of a script with faults as well.
-/
namespace CoScript.Parse

open Node (AllFit)

theorem allFit_toList {p : Node.Position} {o : Option Node} (h : ∀ n ∈ o, n.FitsIn p) :
    AllFit p o.toList :=
  fun n hn => h n (Option.mem_toList.1 hn)

section
variable {self : Recur} (h : Answers self)
include h

/-! Lists of statements. -/

theorem item_fits : (item self).Yields fun o => ∀ n ∈ o, n.FitsIn .statement := by
  unfold item
  refine .bind (.watchedAttempt h.statement) fun r hr => ?_
  obtain ⟨statement, broken⟩ := r
  exact .moved (.skip fun _ => .pure hr)

theorem programItems_fits : (programItems self).Yields (AllFit .statement) := by
  unfold programItems
  refine .skip fun ended => ?_
  split
  · exact .pure (Node.allFit_nil _)
  · exact .bind (item_fits h) fun o ho =>
      .bind h.programItems fun ns hns => .pure ((allFit_toList ho).append hns)

theorem blockItems_fits : (blockItems self).Yields (AllFit .statement) := by
  unfold blockItems
  refine .skip fun closes => ?_
  split
  · exact .pure (Node.allFit_nil _)
  refine .skip fun ended => ?_
  split
  · exact .pure (Node.allFit_nil _)
  · exact .bind (item_fits h) fun o ho =>
      .bind h.blockItems fun ns hns => .pure ((allFit_toList ho).append hns)

theorem caseItems_fits : (caseItems self).Yields (AllFit .statement) := by
  unfold caseItems
  refine .skip fun t => ?_
  split
  · exact .pure (Node.allFit_nil _)
  refine .bind (.watchedAttempt h.statement) fun r hr => ?_
  obtain ⟨statement, broken⟩ := r
  exact .moved (.skip fun _ =>
    .bind h.caseItems fun ns hns => .pure ((allFit_toList hr).append hns))

/-! Declarations. -/

theorem declarator_fits : (declarator self).Yields (·.FitsIn .declarator) := by
  unfold declarator
  refine .skip fun t => .bind h.binding fun target ht => .skip fun ahead => .moved ?_
  refine .bind (annotation_fits h) fun type hT => .bind (initializer_fits h) fun v hv => ?_
  refine .pure (.intro rfl ?_)
  simpa [Node.ChildrenFit, Node.positions] using ⟨ht, hT, hv⟩

theorem declarators_fits : (declarators self).Yields (AllFit .declarator) := by
  unfold declarators
  refine .skip fun _ => .bind (declarator_fits h) fun first hf => .skip fun comma => ?_
  split
  · exact .bind h.declarators fun ds hds => .pure (.cons hf hds)
  · exact .pure (.singleton hf)

/-- A declaration may also head a loop, so more is said about it than that it is a statement. -/
theorem declaration_fits : (declaration self).Yields fun d =>
    d.FitsIn .statement ∧ d.FitsIn .loopHead := by
  unfold declaration
  refine .skip fun t => .bind h.declarators fun ds hds => .pure ?_
  have children : (Node.declaration t t.literal ds).ChildrenFit := by
    simpa [Node.ChildrenFit, Node.positions] using hds
  exact ⟨.intro rfl children, .intro rfl children⟩

theorem interfaceDeclaration_fits :
    (interfaceDeclaration self).Yields (·.FitsIn .statement) := by
  unfold interfaceDeclaration
  refine .skip fun t => .skip fun _ => .skip fun name => .skip fun ahead => .guarded ?_
  have rest (bases : List Node) (hb : AllFit .type bases) :
      (do
        expect (.operator .braceOpen)
        return .interfaceDeclaration t (.identifier name name.literal) bases (← self .members)
        : Parse Node).Yields (·.FitsIn .statement) := by
    refine .skip fun _ => .bind h.members fun ms hms => .pure (.intro rfl ?_)
    have hn : (Node.identifier name name.literal).FitsIn (.inType .name) := .intro rfl (.leaf rfl)
    simpa [Node.ChildrenFit, Node.positions] using ⟨hn, hb, hms⟩
  dsimp only
  split
  · exact .skip fun _ => .bind h.bases rest
  · exact .bind (.pure (Node.allFit_nil _)) rest

theorem typeAlias_fits : (typeAlias self).Yields (·.FitsIn .statement) := by
  unfold typeAlias
  refine .skip fun t => .skip fun _ => .skip fun name => .skip fun ahead => .guarded ?_
  refine .skip fun _ => .skip fun _ => .bind (h.type _) fun type hT => .skip fun _ => ?_
  refine .pure (.intro rfl ?_)
  have hn : (Node.identifier name name.literal).FitsIn .name := .intro rfl (.leaf rfl)
  simpa [Node.ChildrenFit, Node.positions] using ⟨hn, hT⟩

/-! Control flow. -/

theorem condition_fits : (condition self).Yields (·.FitsIn .expression) := by
  unfold condition
  exact .skip fun _ => .skip fun _ => .bind (h.expression _) fun _ he => .skip fun _ => .pure he

theorem body_fits : (body self).Yields (·.FitsIn .body) := by
  unfold body
  exact .skip fun _ => h.statement.mono fun _ hs => ⟨hs.admitted, hs.shaped⟩

theorem ifStatement_fits : (ifStatement self).Yields (·.FitsIn .statement) := by
  unfold ifStatement
  refine .skip fun t => .bind (condition_fits h) fun c hc => .bind (body_fits h) fun a ha => ?_
  refine .skip fun otherwise => ?_
  split
  · refine .bind (body_fits h) fun b hb => .pure (.intro rfl ?_)
    simpa [Node.ChildrenFit, Node.positions] using ⟨hc, ha, hb.optional⟩
  · refine .pure (.intro rfl ?_)
    simpa [Node.ChildrenFit, Node.positions] using ⟨hc, ha, Node.absent_fitsIn _⟩

theorem loopOver_fits (t : Token) {left : Node} (hl : left.FitsIn .loopHead)
    (ofElements awaits : Bool) :
    (loopOver self t left ofElements awaits).Yields (·.FitsIn .statement) := by
  unfold loopOver
  split
  · exact .reject _ _
  refine .skip fun _ => .skip fun _ => .bind (h.expression _) fun right hr => ?_
  refine .skip fun _ => .bind (body_fits h) fun b hb => ?_
  split
  · refine .pure (.intro rfl ?_)
    simpa [Node.ChildrenFit, Node.positions] using ⟨hl, hr, hb⟩
  · refine .pure (.intro rfl ?_)
    simpa [Node.ChildrenFit, Node.positions] using ⟨hl, hr, hb⟩

theorem loopClauses_fits (t : Token) {init : Node} (hi : init.FitsIn (.optional .loopHead)) :
    (loopClauses self t init).Yields (·.FitsIn .statement) := by
  have last (c : Node) (hc : c.FitsIn (.optional .expression)) (u : Node)
      (hu : u.FitsIn (.optional .expression)) :
      (do
        expect (.operator .parenClose)
        return .forStatement t init c u (← body self) : Parse Node).Yields
        (·.FitsIn .statement) := by
    refine .skip fun _ => .bind (body_fits h) fun b hb => .pure (.intro rfl ?_)
    simpa [Node.ChildrenFit, Node.positions] using ⟨hi, hc, hu, hb⟩
  have clause : (self (.expression Level.lowest)).Yields (·.FitsIn (.optional .expression)) :=
    (h.expression _).mono fun _ he => he.optional
  have second (c : Node) (hc : c.FitsIn (.optional .expression)) :
      (do
        expect (.operator .semicolon)
        let update ← if ← peekIs (.operator .parenClose) then pure .absent
          else do
            advance
            self (.expression Level.lowest)
        expect (.operator .parenClose)
        return .forStatement t init c update (← body self) : Parse Node).Yields
        (·.FitsIn .statement) := by
    refine .skip fun _ => .skip fun closes => ?_
    dsimp only
    split
    · exact .bind (.pure (Node.absent_fitsIn _)) (last c hc)
    · exact .skip fun _ => .bind clause (last c hc)
  unfold loopClauses
  refine .skip fun ends => ?_
  dsimp only
  split
  · exact .bind (.pure (Node.absent_fitsIn _)) second
  · exact .skip fun _ => .bind clause second

theorem loopInit_fits : (loopInit self).Yields (·.FitsIn (.optional .loopHead)) := by
  have declared := (declaration_fits h).mono fun d (hd : _ ∧ d.FitsIn .loopHead) => hd.2.optional
  unfold loopInit
  refine .skip fun t => ?_
  split
  · exact .pure (Node.absent_fitsIn _)
  · exact .forbidIn declared
  · exact .forbidIn declared
  · exact .forbidIn declared
  · exact .forbidIn ((h.expression _).mono fun _ he => he.loopHead.optional)

theorem forStatement_fits : (forStatement self).Yields (·.FitsIn .statement) := by
  unfold forStatement
  refine .skip fun t => .skip fun awaits => .skip fun _ => .skip fun _ => ?_
  refine .bind (loopInit_fits h) fun init hi => .skip fun ahead => ?_
  split
  · exact loopOver_fits h _ (hi.required (by simp_all)) _ _
  split
  · exact loopOver_fits h _ (hi.required (by simp_all)) _ _
  · exact .moved (.guarded (loopClauses_fits h _ hi))

theorem whileStatement_fits : (whileStatement self).Yields (·.FitsIn .statement) := by
  unfold whileStatement
  refine .skip fun t => .bind (condition_fits h) fun c hc => .bind (body_fits h) fun b hb => ?_
  refine .pure (.intro rfl ?_)
  simpa [Node.ChildrenFit, Node.positions] using ⟨hc, hb⟩

theorem doWhile_fits : (doWhile self).Yields (·.FitsIn .statement) := by
  unfold doWhile
  refine .skip fun t => .bind (body_fits h) fun b hb => .skip fun _ => ?_
  refine .bind (condition_fits h) fun c hc => .skip fun _ => .pure (.intro rfl ?_)
  simpa [Node.ChildrenFit, Node.positions] using ⟨hb, hc⟩

theorem returnStatement_fits : (returnStatement self).Yields (·.FitsIn .statement) := by
  unfold returnStatement
  refine .skip fun t => .skip fun ends => ?_
  have rest (v : Node) (hv : v.FitsIn (.optional .expression)) :
      (do finishStatement; return .returnStatement t v : Parse Node).Yields
        (·.FitsIn .statement) := by
    refine .skip fun _ => .pure (.intro rfl ?_)
    simpa [Node.ChildrenFit, Node.positions] using hv
  dsimp only
  split
  · exact .bind (.pure (Node.absent_fitsIn _)) rest
  · exact .skip fun _ => .bind ((h.expression _).mono fun _ he => he.optional) rest

omit h in
theorem jump_fits : jump.Yields (·.FitsIn .statement) := by
  unfold jump
  refine .skip fun t => .skip fun ahead => ?_
  have rest (l : Node) (hl : l.FitsIn (.optional .name)) :
      (do
        finishStatement
        if t.is (.keyword .break) then return .breakStatement t l
        else return .continueStatement t l : Parse Node).Yields (·.FitsIn .statement) := by
    refine .skip fun _ => ?_
    split
    · refine .pure (.intro rfl ?_)
      simpa [Node.ChildrenFit, Node.positions] using hl
    · refine .pure (.intro rfl ?_)
      simpa [Node.ChildrenFit, Node.positions] using hl
  dsimp only
  split
  · exact .skip fun _ => .bind (.pure (Node.FitsIn.intro rfl (.leaf rfl)).optional) rest
  · exact .bind (.pure (Node.absent_fitsIn _)) rest

theorem throwStatement_fits : (throwStatement self).Yields (·.FitsIn .statement) := by
  unfold throwStatement
  refine .skip fun t => .skip fun ahead => .guarded (.skip fun _ => ?_)
  refine .bind (h.expression _) fun v hv => .skip fun _ => .pure (.intro rfl ?_)
  simpa [Node.ChildrenFit, Node.positions] using hv

theorem blockAhead_fits : (blockAhead self).Yields (·.FitsIn .block) := by
  unfold blockAhead
  exact .skip fun _ => block_fits h

theorem catchClause_fits : (catchClause self).Yields (·.FitsIn .catchClause) := by
  unfold catchClause
  refine .skip fun t => .skip fun named => ?_
  split
  · refine .skip fun _ => .bind h.binding fun p hp => .bind (annotation_fits h) fun type hT => ?_
    refine .skip fun _ => .bind (blockAhead_fits h) fun b hb => .pure (.intro rfl ?_)
    have caught : p.FitsIn .caught := ⟨hp.admitted, hp.shaped⟩
    simpa [Node.ChildrenFit, Node.positions] using ⟨caught.optional, hT, hb⟩
  · refine .bind (blockAhead_fits h) fun b hb => .pure (.intro rfl ?_)
    simpa [Node.ChildrenFit, Node.positions] using
      ⟨Node.absent_fitsIn _, Node.absent_fitsIn _, hb⟩

theorem tryStatement_fits : (tryStatement self).Yields (·.FitsIn .statement) := by
  unfold tryStatement
  refine .skip fun t => .bind (blockAhead_fits h) fun b hb => .skip fun caught => ?_
  have last (c : Node) (hc : c.FitsIn (.optional .catchClause)) (f : Node)
      (hf : f.FitsIn (.optional .block)) :
      (do
        if !c.isPresent && !f.isPresent then
          let ahead ← peek
          reject ahead .tryAlone
        return .tryStatement t b c f : Parse Node).Yields (·.FitsIn .statement) := by
    have whole : (Node.tryStatement t b c f).FitsIn .statement := by
      refine .intro rfl ?_
      simpa [Node.ChildrenFit, Node.positions] using ⟨hb, hc, hf⟩
    dsimp only
    split
    · exact .skip fun _ => .skip fun _ => .pure whole
    · exact .pure whole
  have second (c : Node) (hc : c.FitsIn (.optional .catchClause)) :
      (do
        let f ← if ← skip (.keyword .finally) then blockAhead self else pure .absent
        if !c.isPresent && !f.isPresent then
          let ahead ← peek
          reject ahead .tryAlone
        return .tryStatement t b c f : Parse Node).Yields (·.FitsIn .statement) := by
    refine .skip fun _ => ?_
    dsimp only
    split
    · exact .bind ((blockAhead_fits h).mono fun _ hf => hf.optional) (last c hc)
    · exact .bind (.pure (Node.absent_fitsIn _)) (last c hc)
  dsimp only
  split
  · exact .bind ((catchClause_fits h).mono fun _ hc => hc.optional) second
  · exact .bind (.pure (Node.absent_fitsIn _)) second

/-! Switches. -/

theorem caseTest_fits (seenDefault : Bool) (t : Token) :
    (caseTest self seenDefault t).Yields (·.FitsIn (.optional .expression)) := by
  unfold caseTest
  split
  · exact .skip fun _ => (h.expression _).mono fun _ he => he.optional
  · split
    · exact .reject _ _
    · exact .pure (Node.absent_fitsIn _)
  · exact .reject _ _

theorem cases_fits (seenDefault : Bool) :
    (cases self seenDefault).Yields (AllFit .switchCase) := by
  unfold cases
  refine .skip fun t => ?_
  split
  · exact .pure (Node.allFit_nil _)
  refine .bind (caseTest_fits h _ _) fun test ht => .skip fun _ => .skip fun _ => ?_
  refine .bind h.caseItems fun items hi => .skip fun last => .guarded ?_
  refine .bind (h.cases _) fun rest hr => .pure (.cons (.intro rfl ?_) hr)
  simpa [Node.ChildrenFit, Node.positions] using ⟨ht, hi⟩

theorem switchStatement_fits : (switchStatement self).Yields (·.FitsIn .statement) := by
  unfold switchStatement
  refine .skip fun t => .bind (condition_fits h) fun d hd => .skip fun _ => .skip fun _ => ?_
  refine .bind (h.cases _) fun cs hcs => .pure (.intro rfl ?_)
  simpa [Node.ChildrenFit, Node.positions] using ⟨hd, hcs⟩

/-! Statements. -/

theorem labeledStatement_fits : (labeledStatement self).Yields (·.FitsIn .statement) := by
  unfold labeledStatement
  refine .skip fun t => .skip fun _ => .bind (body_fits h) fun b hb => .pure (.intro rfl ?_)
  have label : (Node.identifier t t.literal).FitsIn .name := .intro rfl (.leaf rfl)
  simpa [Node.ChildrenFit, Node.positions] using ⟨label, hb⟩

theorem expressionStatement_fits : (expressionStatement self).Yields (·.FitsIn .statement) := by
  unfold expressionStatement
  refine .skip fun t => .bind (h.expression _) fun e he => .skip fun _ => .pure (.intro rfl ?_)
  simpa [Node.ChildrenFit, Node.positions] using he

theorem wordStatement_fits (t : Token) : (wordStatement self t).Yields (·.FitsIn .statement) := by
  unfold wordStatement
  refine .skip fun ahead => ?_
  dsimp only
  split
  · exact labeledStatement_fits h
  split
  · exact .skip fun _ => functionDeclaration_fits h _ _
  split
  · exact interfaceDeclaration_fits h
  split
  · exact typeAlias_fits h
  split
  · exact .reject _ _
  · exact expressionStatement_fits h

theorem statement_fits : (statement self).Yields (·.FitsIn .statement) := by
  have declared : (do let d ← declaration self; finishStatement; return d : Parse Node).Yields
      (·.FitsIn .statement) :=
    .bind (declaration_fits h) fun d hd => .skip fun _ => .pure hd.1
  have nested : (block self).Yields (·.FitsIn .statement) :=
    (block_fits h).mono fun _ hb => hb.blockStatement
  unfold statement
  refine .skip fun t => ?_
  split
  · exact declared
  · exact declared
  · exact declared
  · exact functionDeclaration_fits h _ _
  · exact ifStatement_fits h
  · exact forStatement_fits h
  · exact whileStatement_fits h
  · exact doWhile_fits h
  · exact returnStatement_fits h
  · exact jump_fits
  · exact jump_fits
  · exact throwStatement_fits h
  · exact tryStatement_fits h
  · exact switchStatement_fits h
  · exact nested
  · exact .pure (.intro rfl (.leaf rfl))
  all_goals first
    | exact .reject _ _
    | exact wordStatement_fits h _
    | exact expressionStatement_fits h

end

/-! Whole scripts. -/

/-- The rules give well-shaped results if what they rely on does. -/
theorem Answers.step {self : Recur} (h : Answers self) : Answers (step self) where
  expression := expression_fits h
  operators level _ hl := operators_fits h hl level
  elements := elements_fits h
  arguments := arguments_fits h
  properties := properties_fits h
  statement := statement_fits h
  programItems := programItems_fits h
  blockItems := blockItems_fits h
  caseItems := caseItems_fits h
  cases := cases_fits h
  declarators := declarators_fits h
  binding := binding_fits h
  patternElements := patternElements_fits h
  patternProperties := patternProperties_fits h
  parameters := parameters_fits h
  type := typeExpression_fits h
  typeOperators level _ hl := typeOperators_fits h level hl
  typeName := typeName_fits h
  typeArguments := typeArguments_fits h
  tupleElements := tupleElements_fits h
  members := members_fits h
  bases := bases_fits h

/-- However deep the nesting may go. -/
theorem run_answers (depth : Nat) : Answers (run depth) := by
  induction depth with
  | zero => constructor <;> intros <;> rintro _ _ _ ⟨⟩
  | succ depth ih => exact ih.step

/-- What is made out of a script is a well-shaped program. -/
theorem script_shaped (source : Text) : (script source).program.Shaped := by
  unfold script
  split
  rename_i items s hrun
  cases items with
  | none => exact (Node.ChildrenFit.leaf rfl).shaped
  | some items =>
      have fit := (run_answers _).programItems _ items s hrun
      refine Node.ChildrenFit.shaped ?_
      simpa [Node.ChildrenFit, Node.positions] using fit

end CoScript.Parse

namespace CoScript.Script

theorem parse_eq_ok {source : Source} {program : Node} (h : parse source = .ok program) :
    program = (Parse.script source.content).program := by
  unfold parse at h
  split at h
  · rename_i hread
    exact (Except.ok.inj h).symm.trans (Prod.mk.inj hread).1.symm
  · contradiction

theorem parse_shaped {source : Source} {program : Node} (h : parse source = .ok program) :
    program.Shaped :=
  parse_eq_ok h ▸ Parse.script_shaped source.content

end CoScript.Script
