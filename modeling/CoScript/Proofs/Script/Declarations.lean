import CoScript.Config
import CoScript.Proofs.Cooperate.Contract
import CoScript.Proofs.Erasure.Commute
import CoScript.Proofs.Print.OperatorTree
import CoScript.Proofs.Script.Transform
import CoScript.Proofs.Text.Name
import CoScript.Proofs.Token.Sequence
import CoScript.Script

/-!
What stands for an interface in a cooperative script: a block with a call for each variable. The printed
text names the variables as they are listed for the script. The block of an interface that is the body of
a loop is the body of that loop still, so giving way to the host comes first in it.
-/
namespace CoScript

open Print Cooperate

/-! What is printed. -/

/-- How a call of a method of the context with strings is written. -/
def Cooperate.Options.callText (o : Options) (method : String) (arguments : List Text) : Text :=
  Text.join (txt ".") (Text.splitOn '.' o.context) ++ (txt "." ++ txt method) ++
    (txt "(" ++ Text.join (txt ", ") (arguments.map StringLiteral.quote) ++ txt ")")

theorem Text.join_cons (separator t : Text) (ts : List Text) :
    join separator (t :: ts) = t ++ ts.flatMap (separator ++ ·) := by
  induction ts generalizing t with
  | nil => simp [join]
  | cons u us ih =>
      rw [join, ih, List.flatMap_cons, List.append_assoc, List.append_assoc]
      rintro ⟨⟩

namespace Print

theorem Doc.text_append (t u : Text) : Doc.text t ++ Doc.text u = .text (t ++ u) := rfl

theorem Doc.enclosed_text (opening closing : String) (t : Text) :
    Doc.enclosed opening (.text t) closing = .text (txt opening ++ t ++ txt closing) := rfl

theorem Doc.join_text (separator : String) (ts : List Text) :
    Doc.join separator (ts.map .text) = .text (Text.join (txt separator) ts) := by
  induction ts with
  | nil => rfl
  | cons t ts ih =>
      cases ts with
      | nil => rfl
      | cons => exact congrArg (Doc.text t ++ (separator : Doc) ++ ·) ih

theorem Doc.concat_text (ts : List Text) : Doc.concat (ts.map .text) = .text ts.flatten := by
  induction ts with
  | nil => rfl
  | cons t ts ih => exact congrArg (Doc.text t ++ ·) ih

/-- What stands behind each of some texts stands in front of each as well. -/
theorem append_flatMap {α : Type} (separator : Text) (f : α → Text) (xs : List α) :
    separator ++ xs.flatMap (fun x => f x ++ separator) =
      xs.flatMap (fun x => separator ++ f x) ++ separator := by
  induction xs with
  | nil => simp
  | cons x xs ih =>
      rw [List.flatMap_cons, List.flatMap_cons, List.append_assoc, ih]
      simp only [List.append_assoc]

variable {indent margin : Text}

/-- Texts in braces stand on lines of their own. -/
theorem braced_text (indent margin : Text) (ts : List Text) :
    braced indent margin "" (ts.map .text) = .text (txt "\x7b" ++
      (ts.flatMap (fun t => txt "\n" ++ (margin ++ indent ++ t)) ++
        ((if ts.isEmpty then [] else txt "\n" ++ margin) ++ txt "\x7d"))) := by
  have lines : (ts.map .text).map (fun line => Doc.text (margin ++ indent) ++ line ++ Doc.text (txt "\n")) =
      (ts.map fun t => margin ++ indent ++ t ++ txt "\n").map .text := by
    rw [List.map_map, List.map_map]
    rfl
  cases ts with
  | nil => rfl
  | cons t ts =>
      change Doc.text (txt "\x7b\n") ++ Doc.concat (((t :: ts).map .text).map fun line =>
        Doc.text (margin ++ indent) ++ line ++ Doc.text (txt "\n")) ++ Doc.text margin ++
          Doc.text (txt "\x7d") = _
      have opening : txt "\x7b\n" = txt "\x7b" ++ txt "\n" := rfl
      rw [lines, Doc.concat_text, ← List.flatMap_def, Doc.text_append, Doc.text_append, Doc.text_append,
        opening, List.append_assoc (txt "\x7b"), append_flatMap]
      simp

/-- A property of a name or a property is printed without parentheses. -/
theorem member_doc {e : Node} {t : Text} (name : Text) (place : e.isPlace)
    (h : (piece indent margin .usual e).doc = .text t) :
    (piece indent margin .usual (.member {} e (.identifier {} name) false false)).doc =
      .text (t ++ (txt "." ++ name)) := by
  have object : (piece indent margin .usual e).object false = .text t := by
    rw [← h]
    cases e with
    | identifier | member => rfl
    | _ => cases place
  change (piece indent margin .usual e).object false ++ (Doc.text (txt ".") ++ Doc.text name) = _
  rw [object]
  rfl

/-- A path is printed as it is spelled. -/
theorem path_doc (spelling : Text) :
    (piece indent margin .usual (path spelling)).doc =
        .text (Text.join (txt ".") (Text.splitOn '.' spelling)) ∧
      (path spelling).isPlace ∧ (path spelling).startsLikeStatement = false := by
  have extend (names : List Text) (e : Node) (t : Text) (place : e.isPlace)
      (plain : e.startsLikeStatement = false) (h : (piece indent margin .usual e).doc = .text t) :
      let whole := names.foldl (fun e name => .member {} e (.identifier {} name) false false) e
      (piece indent margin .usual whole).doc = .text (t ++ names.flatMap (txt "." ++ ·)) ∧
        whole.isPlace ∧ whole.startsLikeStatement = false := by
    induction names generalizing e t with
    | nil => exact ⟨by rwa [List.flatMap_nil, List.append_nil], place, plain⟩
    | cons name names ih =>
        have further := ih (.member {} e (.identifier {} name) false false) _ rfl plain
          (member_doc name place h)
        rwa [List.append_assoc] at further
  unfold path
  cases Text.splitOn '.' spelling with
  | nil => exact ⟨rfl, rfl, rfl⟩
  | cons first rest =>
      rw [Text.join_cons]
      exact extend rest (.identifier {} first) first rfl rfl rfl

theorem strings_doc (ss : List Text) :
    (pieces indent margin (ss.map fun s => .string {} s [])).map (·.element) =
      (ss.map StringLiteral.quote).map .text := by
  induction ss with
  | nil => rfl
  | cons s ss ih => exact congrArg (Doc.text (StringLiteral.quote s) :: ·) ih

/-- A call of a method of the context is printed as it is to be written. -/
theorem contextCall_doc (o : Options) (method : String) (arguments : List Text) :
    (piece indent margin .usual (contextCall o method (arguments.map fun s => .string {} s []))).doc =
        .text (o.callText method arguments) ∧
      (contextCall o method (arguments.map fun s => .string {} s [])).startsLikeStatement = false := by
  obtain ⟨spelled, place, plain⟩ := @path_doc indent margin o.context
  refine ⟨?_, plain⟩
  change (piece indent margin .usual (.member {} (path o.context) (.identifier {} (txt method)) false
    false)).doc ++ Doc.text [] ++ Doc.enclosed "(" (.join ", " ((pieces indent margin
      (arguments.map fun s => .string {} s [])).map (·.element))) ")" = _
  rw [member_doc _ place spelled, strings_doc, Doc.join_text, Doc.enclosed_text, Doc.text_append,
    Doc.text_append, List.append_nil]
  rfl

theorem declareStatement_doc (o : Options) (t : Token) (v : Variable) (place : Place) :
    (piece indent margin place (declareStatement o t v)).doc =
      .text (o.callText "declareVariable" (v.name :: v.types) ++ txt ";") := by
  obtain ⟨call, plain⟩ := @contextCall_doc indent margin o "declareVariable" (v.name :: v.types)
  change Piece.parenthesizedIf (contextCall o "declareVariable"
    ((v.name :: v.types).map fun s => .string {} s [])).startsLikeStatement _
      (piece indent margin .usual (contextCall o "declareVariable"
        ((v.name :: v.types).map fun s => .string {} s []))).doc ++ Doc.text (txt ";") = _
  rw [plain, Piece.parenthesizedIf, if_neg Bool.false_ne_true, call, Doc.text_append]

theorem yieldStatement_doc (o : Options) (t : Token) (place : Place) :
    (piece indent margin place (yieldStatement o t)).doc =
      .text (txt "await " ++ o.callText "delay" [] ++ txt ";") := by
  have call : (piece indent margin .usual (contextCall o "delay" [])).doc = .text (o.callText "delay" []) :=
    (contextCall_doc o "delay" []).1
  change Doc.text (txt "await ") ++ (piece indent margin .usual (contextCall o "delay" [])).doc ++
    Doc.text (txt ";") = _
  rw [call, Doc.text_append, Doc.text_append]

end Print

/-! What is read. -/

/-- The sign of an operator. -/
def Operator.sign (o : Operator) : Token.Sign :=
  (.operator o, txt o.spelling)

/-- Names with points between them. -/
def Token.dotted : List Text → List Sign
  | [] => []
  | name :: names =>
    (.identifier, name) :: names.flatMap fun name => [Operator.dot.sign, (.identifier, name)]

/-- Words with points between them, with their kinds. -/
def Token.dottedBy (kind : Text → Kind) : List Text → List Sign
  | [] => []
  | name :: names =>
    (kind name, name) :: names.flatMap fun name => [Operator.dot.sign, (kind name, name)]

theorem Token.dotted_eq (names : List Text) : dotted names = dottedBy (fun _ => .identifier) names := by
  cases names <;> rfl

/-- Strings with commas between them. -/
def Token.strings : List Text → List Sign
  | [] => []
  | s :: ss => (.string, s) :: ss.flatMap fun s => [Operator.comma.sign, (.string, s)]

/-- A call of a method of the context with strings. -/
def Cooperate.Options.callSigns (o : Options) (method : String) (arguments : List Text) :
    List Token.Sign :=
  Token.dotted (Text.splitOn '.' o.context) ++
    [Operator.dot.sign, (.identifier, txt method), Operator.parenOpen.sign] ++
    Token.strings arguments ++ [Operator.parenClose.sign]

/-- The context is reached by names in ASCII that are no reserved words. -/
def Cooperate.Options.ContextIsFree (o : Options) : Prop :=
  Config.isPath o.context ∧ ∀ name ∈ Text.splitOn '.' o.context, Keyword.ofText? name = none

/-- The name and the tags of a variable have no stray bytes. -/
def Variable.IsValid (v : Variable) : Prop :=
  ∀ s ∈ v.name :: v.types, s.toString?.isSome

/-- The statement that declares a variable, with its name and its tags. -/
def Variable.signs (o : Options) (v : Variable) : List Token.Sign :=
  o.callSigns "declareVariable" (v.name :: v.types) ++ [Operator.semicolon.sign]

/-- The statement that gives way to the host. -/
def Cooperate.Options.yieldSigns (o : Options) : List Token.Sign :=
  (.keyword .await, txt "await") :: o.callSigns "delay" [] ++ [Operator.semicolon.sign]

/-- A block of statements. -/
def Token.block (statements : List (List Sign)) : List Sign :=
  Operator.braceOpen.sign :: statements.flatten ++ [Operator.braceClose.sign]

/-- A name of a configuration is read as the word that it is. -/
theorem readsAs_word_of_isName {name : Text} (h : Config.isName name) : ReadsAs (.ofWord name) name := by
  obtain ⟨start, parts⟩ := Bool.and_eq_true_iff.1 h
  rw [List.all_eq_true] at parts
  have chars : name = .ofChars name.toChars := by
    rw [Text.ofChars, Text.toChars, List.map_map]
    refine (List.map_id _).symm.trans (List.map_congr_left fun g hg => ?_)
    cases g with
    | char => rfl
    | stray => exact absurd (parts _ hg) (by simp [Glyph.holds])
  generalize name.toChars = cs at chars
  subst chars
  cases cs with
  | nil => cases start
  | cons c cs =>
      refine readsAs_word start fun d hd => ?_
      exact Bool.or_eq_true_iff.1 (parts (.char d) (List.mem_map_of_mem (List.mem_cons_of_mem c hd)))

theorem readsAs_name {name : Text} (h : Config.isName name) (free : Keyword.ofText? name = none) :
    ReadsAs .identifier name := by
  have read := readsAs_word_of_isName h
  rwa [Token.Kind.ofWord, free] at read

/-- A text without stray bytes. -/
theorem Text.replaced_of_toString {t : Text} (h : t.toString?.isSome) : t.replaced = t := by
  induction t with
  | nil => rfl
  | cons g t ih =>
      cases g with
      | char c =>
          refine congrArg (.char c :: ·) (ih ?_)
          simp only [toString?, List.mapM_cons, Option.isSome_map] at h ⊢
          exact Option.isSome_of_isSome_bind h
      | stray => simp [toString?, List.mapM_cons] at h

namespace ReadsAsTokens

variable {space rest : Text}

/-- Words with points between them are read one after the other. -/
theorem dottedBy {kind : Text → Token.Kind} {names : List Text} (blank : ∀ g ∈ space, Trivia.isBlank g)
    (some : names ≠ []) (words : ∀ name, kind name = .identifier ∨ ∃ word, kind name = .keyword word)
    (h : ∀ name ∈ names, ReadsAs (kind name) name) (ends : ∀ g ∈ rest.head?, g.holds isNamePart = false) :
    ReadsAsTokens (space ++ Text.join (txt ".") names) (Token.dottedBy kind names) rest := by
  obtain ⟨name, names, rfl⟩ := List.exists_cons_of_ne_nil some
  obtain ⟨first, others⟩ := List.forall_mem_cons.1 h
  let follows (t : Text) : Prop := ∀ g ∈ t.head?, g.holds isNamePart = false
  have point (name u : Text) : follows (txt "." ++ name ++ u) := by
    rintro _ ⟨⟩
    rfl
  rw [Text.join_cons, ← List.append_assoc]
  have rest' : follows (names.flatMap (txt "." ++ ·) ++ rest) := by
    cases names with
    | nil => exact ends
    | cons next names =>
        rintro _ ⟨⟩
        rfl
  refine (word space blank (words name) first rest').append
    (.flatMap follows ends (fun name _ => point name) ?_)
  intro name hname u next
  have dot : ReadsAsTokens (txt ".") [Operator.dot.sign] (name ++ u) := by
    refine operator (o := .dot) [] (by simp) (by decide) fun g hg => ?_
    obtain ⟨_, _, text, named⟩ := (others name hname).start_name (words name)
    rw [text] at hg
    obtain rfl := Option.some.inj hg
    exact Operator.endsBefore_dot_of_name named
  exact dot.append (word [] (by simp) (words name) (others name hname) next)

/-- Names are read one after the other. -/
theorem dotted {names : List Text} (blank : ∀ g ∈ space, Trivia.isBlank g)
    (some : names ≠ []) (h : ∀ name ∈ names, ReadsAs .identifier name)
    (ends : ∀ g ∈ rest.head?, g.holds isNamePart = false) :
    ReadsAsTokens (space ++ Text.join (txt ".") names) (Token.dotted names) rest := by
  rw [Token.dotted_eq]
  exact dottedBy blank some (fun _ => .inl rfl) h ends

theorem strings {ss : List Text} (valid : ∀ s ∈ ss, s.toString?.isSome) :
    ReadsAsTokens (Text.join (txt ", ") (ss.map StringLiteral.quote)) (Token.strings ss) rest := by
  have single (s : Text) (space : Text) (hs : s.toString?.isSome) (blank : ∀ g ∈ space, Trivia.isBlank g)
      (rest : Text) : ReadsAsTokens (space ++ StringLiteral.quote s) [(.string, s)] rest := by
    have read := quoted space blank s rest
    rwa [Text.replaced_of_toString hs] at read
  cases ss with
  | nil => exact .nil rest
  | cons s ss =>
      obtain ⟨here, others⟩ := List.forall_mem_cons.1 valid
      rw [List.map_cons, Text.join_cons, List.flatMap_map]
      refine (single s [] here (by simp) _).append (.flatMap (fun _ => True) trivial (by simp) ?_)
      intro s hs u _
      have comma : ReadsAsTokens (txt ",") [Operator.comma.sign] (txt " " ++ StringLiteral.quote s ++ u) :=
        operator (o := .comma) [] (by simp) (by decide) (by rintro _ ⟨⟩; decide)
      have whole := comma.append (single s (txt " ") (others s hs) (by decide) u)
      rwa [← List.append_assoc] at whole

/-- A call of a method of the context is read as the call that it is. -/
theorem contextCall {o : Options} (free : o.ContextIsFree) {method : String}
    (named : ReadsAs .identifier (txt method)) {arguments : List Text}
    (valid : ∀ s ∈ arguments, s.toString?.isSome) (blank : ∀ g ∈ space, Trivia.isBlank g)
    (closes : ∀ g ∈ rest.head?, Operator.parenClose.endsBefore g) :
    ReadsAsTokens (space ++ o.callText method arguments) (o.callSigns method arguments) rest := by
  have names : ∀ name ∈ Text.splitOn '.' o.context, ReadsAs .identifier name := fun name hname =>
    readsAs_name (List.all_eq_true.1 free.1 name hname) (free.2 name hname)
  -- From the last token to the first one, since each has to know what follows it.
  have ending : ReadsAsTokens (txt ")") [Operator.parenClose.sign] rest :=
    operator (o := .parenClose) [] (by simp) (by decide) closes
  have inside := append (strings valid) ending
  have opens : ∀ g ∈ (Text.join (txt ", ") (arguments.map StringLiteral.quote) ++ txt ")" ++ rest).head?,
      Operator.parenOpen.endsBefore g := by
    cases arguments with
    | nil =>
        rintro _ ⟨⟩
        decide
    | cons =>
        rw [List.map_cons, Text.join_cons]
        rintro _ ⟨⟩
        decide
  have list := append (operator (o := .parenOpen) [] (by simp) (by decide) opens) inside
  have property := append (identifier [] (by simp) named (by rintro _ ⟨⟩; rfl)) list
  have starts : ∀ g ∈ ((txt method ++ (txt "(" ++
      (Text.join (txt ", ") (arguments.map StringLiteral.quote) ++ txt ")"))) ++ rest).head?,
      Operator.dot.endsBefore g := by
    have word : Word.Sound ⟨.identifier, txt method, .none⟩ := named
    have before := Word.Sound.point_before (u := ⟨.operator .dot, txt ".", .none⟩)
      ⟨rfl, by decide, by decide⟩ rfl word rfl
    rw [List.append_assoc, List.head?_append_of_ne_nil _ word.text_ne_nil]
    exact before.ends
  have access := append (operator (o := .dot) [] (by simp) (by decide) starts) property
  have whole := append (dotted blank (Text.splitOn_ne_nil _ _) names (by rintro _ ⟨⟩; rfl)) access
  simp only [List.append_assoc, List.nil_append, List.cons_append, Options.callText, Options.callSigns]
    at whole ⊢
  exact whole

end ReadsAsTokens

namespace Node

/-! Blocks. -/

/-- A statement without types that is printed in one way everywhere, and read as tokens where a line ends
behind it. -/
def IsLine (s : Node) (signs : List Token.Sign) : Prop :=
  s.isPresent ∧ s.eraseTypes = s ∧ ∃ t : Text,
    (∀ indent margin place, (piece indent margin place s).doc = .text t) ∧
      ∀ space rest, (∀ g ∈ space, Trivia.isBlank g) → ReadsAsTokens (space ++ t) signs (txt "\n" ++ rest)

/-- The text of a statement, once it has no types, is read as tokens, wherever the statement stands. -/
def ReadsBackAs (s : Node) (signs : List Token.Sign) : Prop :=
  ∀ place indent margin, (∀ g ∈ margin ++ indent, Trivia.isBlank g) →
    ∃ t, (piece indent margin place s.eraseTypes).doc = .text t ∧
      (Token.scan t).map Token.sign = signs ++ [(Token.Kind.eof, [])]

variable {body : List Node} {signs : List (List Token.Sign)}

theorem lines_typeless (h : List.Forall₂ IsLine body signs) :
    (eraseTypesAll body).filter isPresent = body := by
  induction h with
  | nil => rfl
  | cons line _ ih =>
      obtain ⟨present, typeless, -⟩ := line
      rw [eraseTypesAll, typeless, List.filter_cons_of_pos present, ih]

/-- Statements on lines of their own are read one after the other. -/
theorem lines_read (h : List.Forall₂ IsLine body signs) : ∃ ts : List Text,
    (∀ indent margin, (pieces indent margin body).map (·.required .statement) = ts.map .text) ∧
      ∀ space rest, (∀ g ∈ space, Trivia.isBlank g) → (ts ≠ [] → ∃ u, rest = txt "\n" ++ u) →
        ReadsAsTokens (ts.flatMap fun t => txt "\n" ++ (space ++ t)) signs.flatten rest := by
  induction h with
  | nil => exact ⟨[], fun _ _ => rfl, fun _ _ _ _ => .nil _⟩
  | @cons s _ _ _ line _ ih =>
      obtain ⟨present, -, t, written, read⟩ := line
      obtain ⟨ts, writtenAll, readAll⟩ := ih
      refine ⟨t :: ts, fun indent margin => ?_, fun space rest blank ends => ?_⟩
      · have first : (piece indent margin .usual s).required .statement = .text t := by
          rw [Piece.required, piece_node, if_pos present, written]
        exact congrArg₂ List.cons first (writtenAll indent margin)
      · have line : ∀ g ∈ txt "\n" ++ space, Trivia.isBlank g := List.forall_mem_cons.2 ⟨rfl, blank⟩
        obtain ⟨u, rfl⟩ := ends (List.cons_ne_nil t ts)
        obtain ⟨more, follows⟩ : ∃ more, ts.flatMap (fun t => txt "\n" ++ (space ++ t)) ++ (txt "\n" ++ u) =
            txt "\n" ++ more := by
          cases ts with
          | nil => exact ⟨u, rfl⟩
          | cons => exact ⟨_, rfl⟩
        rw [List.flatMap_cons, List.flatten_cons, ← List.append_assoc]
        exact .append (follows ▸ read (txt "\n" ++ space) more line)
          (readAll space _ blank fun _ => ⟨u, rfl⟩)

/-- The text of a block is read as its statements in braces. -/
theorem block_readsBackAs (t : Token) (h : List.Forall₂ IsLine body signs) :
    (block t body).ReadsBackAs (Token.block signs) := by
  intro place indent margin blank
  obtain ⟨ts, written, read⟩ := lines_read h
  have printed := (congrArg (braced indent margin "") (written indent (margin ++ indent))).trans
    (braced_text indent margin ts)
  rw [eraseTypes, lines_typeless h]
  refine ⟨_, printed, ReadsAsTokens.scan ?_⟩
  let space : Text := if ts.isEmpty then [] else txt "\n" ++ margin
  have blankSpace : ∀ g ∈ space, Trivia.isBlank g := by
    cases ts with
    | nil => simp [space]
    | cons => exact List.forall_mem_cons.2 ⟨rfl, fun g hg => blank g (List.mem_append_left indent hg)⟩
  have closing : ReadsAsTokens (space ++ txt "\x7d") [Operator.braceClose.sign] [] :=
    .operator (o := .braceClose) space blankSpace (by decide) (by simp)
  have inside := (read (margin ++ indent) ((space ++ txt "\x7d") ++ []) blank (by
    intro some
    exact ⟨margin ++ txt "\x7d", by simp [space, some]⟩)).append closing
  have opening : ReadsAsTokens (txt "\x7b") [Operator.braceOpen.sign]
      ((ts.flatMap (fun t => txt "\n" ++ (margin ++ indent ++ t)) ++ (space ++ txt "\x7d")) ++ []) := by
    refine .operator (o := .braceOpen) [] (by simp) (by decide) ?_
    cases ts <;> rintro _ ⟨⟩ <;> decide
  exact opening.append inside

/-! What is declared. -/

variable {o : Options}

theorem declareStatement_isLine (free : o.ContextIsFree) (t : Token) {v : Variable}
    (valid : v.IsValid) : (declareStatement o t v).IsLine (v.signs o) := by
  have typeless : (declareStatement o t v).eraseTypes = declareStatement o t v := by
    have strings (ss : List Text) : eraseTypesAll (ss.map fun s => string {} s []) =
        ss.map fun s => string {} s [] := by
      induction ss with
      | nil => rfl
      | cons s ss ih => exact congrArg (string {} s [] :: ·) ih
    simp [declareStatement, Cooperate.contextCall, eraseTypes, eraseTypes_path, eraseTypesAll, strings]
  refine ⟨rfl, typeless, _, fun indent margin => declareStatement_doc o t v, fun space rest blank => ?_⟩
  have named : ReadsAs .identifier (txt "declareVariable") := readsAs_name rfl rfl
  have call : ReadsAsTokens (space ++ o.callText "declareVariable" (v.name :: v.types))
      (o.callSigns "declareVariable" (v.name :: v.types)) (txt ";" ++ (txt "\n" ++ rest)) :=
    .contextCall free named valid blank (by rintro _ ⟨⟩; decide)
  have stop : ReadsAsTokens (txt ";") [Operator.semicolon.sign] (txt "\n" ++ rest) :=
    .operator (o := .semicolon) [] (by simp) (by decide) (by rintro _ ⟨⟩; decide)
  rw [← List.append_assoc]
  exact call.append stop

theorem yieldStatement_isLine (free : o.ContextIsFree) (t : Token) :
    (yieldStatement o t).IsLine o.yieldSigns := by
  refine ⟨rfl, eraseTypes_yieldStatement o t, _, fun indent margin => yieldStatement_doc o t,
    fun space rest blank => ?_⟩
  have named : ReadsAs .identifier (txt "delay") := readsAs_name rfl rfl
  have waits : ReadsAsTokens (space ++ txt "await") [(.keyword .await, txt "await")]
      ((txt " " ++ o.callText "delay" [] ++ txt ";") ++ (txt "\n" ++ rest)) :=
    .keyword .await space blank (by rintro _ ⟨⟩; rfl)
  have call : ReadsAsTokens (txt " " ++ o.callText "delay" []) (o.callSigns "delay" [])
      (txt ";" ++ (txt "\n" ++ rest)) :=
    .contextCall free named (by simp) (by decide) (by rintro _ ⟨⟩; decide)
  have stop : ReadsAsTokens (txt ";") [Operator.semicolon.sign] (txt "\n" ++ rest) :=
    .operator (o := .semicolon) [] (by simp) (by decide) (by rintro _ ⟨⟩; decide)
  have whole := waits.append (call.append stop)
  simp only [List.append_assoc] at whole
  exact whole

/-- Every type has a tag. -/
theorem typeTags_ne_nil (type : Node) : type.typeTags ≠ [] := by
  refine typeTags.induct (fun type => type.typeTags ≠ []) (fun types => types ≠ [] → typeTagsAll types ≠ [])
    ?known ?unknown ?array ?parenthesized ?empty ?union ?reference ?other ?nil ?cons type
  case known | unknown => intro t name known; simp [typeTags, known]
  case array => intro t element; simp [typeTags]
  case parenthesized => intro t type tagged; rwa [typeTags]
  case empty => intro t types empty; simp [typeTags, empty]
  case union =>
    intro t types some tagged
    rw [typeTags, if_neg some]
    exact tagged (mt List.isEmpty_iff.2 some)
  case reference => intro t u name arguments; simp [typeTags]
  case other => intro type h₁ h₂ h₃ h₄ h₅; rw [typeTags] <;> first | assumption | simp
  case nil => intro none; contradiction
  case cons => intro type types tagged _ _; simp [typeTagsAll, tagged]

/-- A variable of an interface has a tag. -/
theorem types_ne_nil_of_mem {n : Node} {v : Variable} (h : v ∈ n.interfaceVariables) : v.types ≠ [] := by
  cases n with
  | interfaceDeclaration t name bases members =>
      obtain ⟨member, -, declared⟩ := List.mem_filterMap.1 h
      unfold declared? at declared
      split at declared
      · exact Option.some.inj declared ▸ typeTags_ne_nil _
      · exact Option.some.inj declared ▸ typeTags_ne_nil _
      · cases declared
  | _ => cases h

theorem lines_forall₂ (free : o.ContextIsFree) (t : Token) {vs : List Variable}
    (valid : ∀ v ∈ vs, v.IsValid) :
    List.Forall₂ IsLine (vs.map (declareStatement o t)) (vs.map (·.signs o)) := by
  induction vs with
  | nil => exact .nil
  | cons v vs ih =>
      obtain ⟨here, others⟩ := List.forall_mem_cons.1 valid
      exact .cons (declareStatement_isLine free t here) (ih others)

/-- What stands for an interface is read as declarations of its variables. -/
theorem interface_readsBackAs (free : o.ContextIsFree) {n : Node}
    (interface : n.isInterface) (valid : ∀ v ∈ n.interfaceVariables, v.IsValid) :
    (n.cooperate o).result.ReadsBackAs (Token.block (n.interfaceVariables.map (·.signs o))) := by
  cases n with
  | interfaceDeclaration t name bases members => exact block_readsBackAs t (lines_forall₂ free t valid)
  | _ => cases interface

theorem loopBody?_cooperate {l n : Node} (loop : l.loopBody? = some n) :
    (l.cooperate o).result.loopBody? = some (loopBody o l.token (n.cooperate o).result).result := by
  cases l with
  | whileStatement | doWhile =>
      cases loop
      rfl
  | forStatement _ head | forIn _ head | forOf _ _ head =>
      cases loop
      simp only [cooperate]
      cases head.canHeadLoop <;> rfl
  | _ => cases loop

/-- A loop whose body is an interface gives way to the host before the variables are declared. -/
theorem loop_readsBackAs (free : o.ContextIsFree) {l n : Node}
    (loop : l.loopBody? = some n) (interface : n.isInterface)
    (valid : ∀ v ∈ n.interfaceVariables, v.IsValid) :
    ∃ b, (l.cooperate o).result.loopBody? = some b ∧
      b.ReadsBackAs (Token.block (o.yieldSigns :: n.interfaceVariables.map (·.signs o))) := by
  refine ⟨_, loopBody?_cooperate loop, ?_⟩
  cases n with
  | interfaceDeclaration t name bases members =>
      exact block_readsBackAs t (.cons (yieldStatement_isLine free l.token) (lines_forall₂ free t valid))
  | _ => cases interface

end Node

/-! Scripts. -/

namespace Print

/-- A printed text in the middle of a list of texts is there as it is. -/
theorem Doc.concat_run {ds es : List Doc} {t u : Text} {a b : Bool}
    (h : Doc.concat (ds ++ .text t :: es) a = .ok (u, b)) :
    ∃ before after c, Doc.concat ds a = .ok (before, c) ∧ u = before ++ t ++ after := by
  induction ds generalizing a u with
  | nil =>
      change Doc.append (.text t) (Doc.concat es) a = _ at h
      simp only [Doc.append, Doc.text] at h
      split at h
      · cases h
      · cases h
        exact ⟨[], _, _, rfl, rfl⟩
  | cons d ds ih =>
      change Doc.append d (Doc.concat (ds ++ .text t :: es)) a = _ at h
      rw [Doc.append] at h
      split at h
      · cases h
      · rename_i first c hd
        split at h
        · cases h
        · rename_i second e hds
          cases h
          obtain ⟨before, after, c, printed, rfl⟩ := ih hds
          refine ⟨first ++ before, after, c, ?_, by simp only [List.append_assoc]⟩
          change Doc.append d (Doc.concat ds) a = _
          simp only [Doc.append, hd, printed]

theorem pieces_append (indent margin : Text) (ns ms : List Node) :
    pieces indent margin (ns ++ ms) = pieces indent margin ns ++ pieces indent margin ms := by
  induction ns with
  | nil => rfl
  | cons n ns ih => exact congrArg (piece indent margin .usual n :: ·) ih

end Print

namespace Script

open Node

/-- The text of a script is the texts of its statements, each with a line break behind it. -/
theorem printScript_eq_ok {body : List Node} {indent t : Text} :
    (Node.program body).printScript indent = .ok t ↔ ∃ b, Doc.concat ((pieces indent [] body).map fun p =>
      Doc.text [] ++ p.required .statement ++ Doc.text (txt "\n")) false = .ok (t, b) := by
  change Except.map Prod.fst (Doc.concat ((pieces indent [] body).map fun p =>
    Doc.text [] ++ p.required .statement ++ Doc.text (txt "\n")) false) = _ ↔ _
  cases Doc.concat ((pieces indent [] body).map fun p =>
      Doc.text [] ++ p.required .statement ++ Doc.text (txt "\n")) false with
  | error => simp [Except.map]
  | ok r => simp [Except.map, Prod.ext_iff, eq_comm]

/-- What a statement of a script is printed as is in the text of the script, after the text of the
statements before it. -/
theorem transform_around {o : Options} {source : Source} {before after : List Node} {n : Node}
    (parsed : parse source = .ok (.program (before ++ n :: after))) {signs : List Token.Sign}
    (read : (n.cooperate o).result.ReadsBackAs signs) {indent : Text}
    (blank : ∀ g ∈ indent, Trivia.isBlank g) :
    ∃ t u v, ((program before).cooperate o).result.eraseTypes.printScript indent = .ok t ∧
      transform o indent source = .ok (t ++ u ++ v) ∧
      (Token.scan u).map Token.sign = signs ++ [(Token.Kind.eof, [])] := by
  change (n.cooperative o).ReadsBackAs signs at read
  obtain ⟨u, printed, reads⟩ := read .usual indent [] blank
  have present : (n.cooperative o).eraseTypes.isPresent := by
    cases h : (n.cooperative o).eraseTypes with
    | absent =>
        rw [h] at printed
        cases congrFun printed false
    | _ => rfl
  have cooperated (ns : List Node) : ((program ns).cooperate o).result.eraseTypes =
      program (((ns.map (cooperative o)).map eraseTypes).filter isPresent) := by
    refine (congrArg eraseTypes (cooperative_program o ns)).trans ?_
    rw [eraseTypes, eraseTypesAll_eq_map]
  have line : (piece indent [] .usual (n.cooperative o).eraseTypes).required .statement = .text u := by
    rw [Piece.required, piece_node, if_pos present, printed]
  obtain ⟨text, whole⟩ := printScript_transformed parsed o indent
  have transformed : transform o indent source = .ok text := by
    simp only [transform, parsed, whole]
  rw [cooperated, List.map_append, List.map_append, List.filter_append, List.map_cons, List.map_cons,
    List.filter_cons_of_pos present] at whole
  obtain ⟨b, whole⟩ := printScript_eq_ok.1 whole
  rw [pieces_append, List.map_append, pieces, List.map_cons, line, Doc.text_append,
    Doc.text_append] at whole
  obtain ⟨t, v, c, first, rfl⟩ := Doc.concat_run whole
  refine ⟨t, u, txt "\n" ++ v, ?_, ?_, reads⟩
  · rw [cooperated]
    exact printScript_eq_ok.2 ⟨c, first⟩
  · rw [transformed]
    simp only [List.nil_append, List.append_assoc]

/-- The variables that are listed for a script are declared in its cooperative form: what stands for an
interface is read as a block with a call for each of its variables, which names the variable and its tags.
If the interface is the body of a loop, that block gives way to the host before. -/
theorem parse_declarations {o : Options} (free : o.ContextIsFree) :
    (∀ n : Node, n.isInterface → (∀ v ∈ n.interfaceVariables, v.IsValid) →
      (∀ v ∈ n.interfaceVariables, v.types ≠ []) ∧
        (n.cooperate o).result.ReadsBackAs (Token.block (n.interfaceVariables.map (·.signs o))) ∧
        ∀ l : Node, l.loopBody? = some n → ∃ b, (l.cooperate o).result.loopBody? = some b ∧
          b.ReadsBackAs (Token.block (o.yieldSigns :: n.interfaceVariables.map (·.signs o)))) ∧
      ∀ source body, parse source = .ok (.program body) →
        declaredVariables source = .ok ((body.filter Node.isInterface).flatMap Node.interfaceVariables) ∧
          ∀ before n after indent, body = before ++ n :: after → n.isInterface →
            (∀ v ∈ n.interfaceVariables, v.IsValid) → (∀ g ∈ indent, Trivia.isBlank g) →
            ∃ t u v, ((program before).cooperate o).result.eraseTypes.printScript indent = .ok t ∧
              transform o indent source = .ok (t ++ u ++ v) ∧
              (Token.scan u).map Token.sign =
                Token.block (n.interfaceVariables.map (·.signs o)) ++ [(.eof, [])] := by
  refine ⟨fun n interface valid => ⟨fun v hv => types_ne_nil_of_mem hv,
    interface_readsBackAs free interface valid, fun l loop => loop_readsBackAs free loop interface valid⟩,
    fun source body parsed => ⟨?_, ?_⟩⟩
  · rw [declaredVariables, parsed]
    refine congrArg Except.ok ?_
    clear parsed
    induction body with
    | nil => rfl
    | cons s body ih =>
        cases interface : s.isInterface with
        | true => rw [List.filter_cons_of_pos interface, List.flatMap_cons, ← ih]; rfl
        | false =>
            rw [List.filter_cons_of_neg (by simp [interface]), ← ih]
            cases s with
            | interfaceDeclaration => cases interface
            | _ => rfl
  · rintro before n after indent rfl interface valid blank
    exact transform_around parsed (interface_readsBackAs free interface valid) blank

/-- An interface, and a loop whose body is one. -/
theorem parse_declarations_shared : ∃ (s : Source) (n l m : Node),
    s = .ofText (txt "interface A \x7b x: number; 'a b': B[] | (C) \x7d while (f) interface D \x7b y: E \x7d") ∧
      parse s = .ok (.program [n, l]) ∧
      n.interfaceVariables = [⟨txt "x", [txt "number"]⟩, ⟨txt "a b", [txt "array", txt "C"]⟩] ∧
      (n.cooperate .default).result.ReadsBackAs
        (Token.block (n.interfaceVariables.map (·.signs .default))) ∧
      (∃ b, (l.cooperate .default).result.loopBody? = some b ∧
        b.ReadsBackAs (Token.block (Options.default.yieldSigns ::
          m.interfaceVariables.map (·.signs .default)))) ∧
      ∃ t u v, transform .default (txt "\t") s = .ok (t ++ u ++ v) ∧
        (Token.scan u).map Token.sign =
          Token.block (n.interfaceVariables.map (·.signs .default)) ++ [(.eof, [])] := by
  have free : Options.default.ContextIsFree := ⟨by decide, by decide⟩
  obtain ⟨s, n, l, m, written, parsed, loop, interface, interface', listed, listed'⟩ :
      ∃ (s : Source) (n l m : Node), s = .ofText
          (txt "interface A \x7b x: number; 'a b': B[] | (C) \x7d while (f) interface D \x7b y: E \x7d") ∧
        parse s = .ok (.program [n, l]) ∧ l.loopBody? = some m ∧ n.isInterface ∧ m.isInterface ∧
        n.interfaceVariables = [⟨txt "x", [txt "number"]⟩, ⟨txt "a b", [txt "array", txt "C"]⟩] ∧
        m.interfaceVariables = [⟨txt "y", [txt "E"]⟩] :=
    ⟨_, _, _, _, rfl, rfl, rfl, rfl, rfl, rfl, rfl⟩
  have valid : ∀ v ∈ n.interfaceVariables, v.IsValid := by
    rw [listed]
    simp only [Variable.IsValid]
    decide
  have valid' : ∀ v ∈ m.interfaceVariables, v.IsValid := by
    rw [listed']
    simp only [Variable.IsValid]
    decide
  obtain ⟨t, u, v, -, transformed, read⟩ := ((parse_declarations free).2 s _ parsed).2 [] n [l]
    (txt "\t") rfl interface valid (by decide)
  exact ⟨s, n, l, m, written, parsed, listed, ((parse_declarations free).1 n interface valid).2.1,
    ((parse_declarations free).1 m interface' valid').2.2 l loop, t, u, v, transformed, read⟩

/-- The block that stands for an interface in a loop does more than declare its variables. -/
theorem loop_shares_block : ∃ (s : Source) (l n b : Node) (t : Text),
    s = .ofText (txt "while (f) interface A \x7b x: number \x7d") ∧ parse s = .ok (.program [l]) ∧
      l.loopBody? = some n ∧ n.isInterface ∧ (l.cooperate .default).result.loopBody? = some b ∧
      b.eraseTypes.print = .ok t ∧
      transform .default (txt "  ") s = .ok (txt "while (f) " ++ t ++ txt "\n") ∧
      (Token.scan t).map Token.sign ≠
        Token.block (n.interfaceVariables.map (·.signs .default)) ++ [(Token.Kind.eof, [])] := by
  refine ⟨_, _, _, _, _, rfl, rfl, rfl, rfl, rfl, rfl, rfl, ?_⟩
  decide

end Script
end CoScript
