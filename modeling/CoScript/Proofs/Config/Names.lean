import CoScript.Proofs.Parse.OperatorTree
import CoScript.Proofs.Script.Declarations

/-!
The names of a configuration in which no problem was found. The rules for them know letters and digits, but
no reserved words: a path is read as words with points between them and a name as a word, and these are
identifiers unless they are reserved.
-/
namespace CoScript

namespace Text

/-- A text is read as one identifier, which is called so. -/
def IsIdentifier (t : Text) : Prop :=
  (Token.scan t).map Token.sign = [(.identifier, t), (.eof, [])]

/-- A text is read as identifiers with points between them. -/
def IsIdentifierPath (t : Text) : Prop :=
  ∃ names, names ≠ [] ∧ (Token.scan t).map Token.sign = Token.dotted names ++ [(Token.Kind.eof, [])]

end Text

theorem Token.Kind.ofWord_cases (word : Text) :
    ofWord word = .identifier ∨ ∃ k, ofWord word = .keyword k := by
  unfold ofWord
  split
  · exact .inr ⟨_, rfl⟩
  · exact .inl rfl

theorem Token.Kind.ofWord_eq_identifier {word : Text} :
    ofWord word = .identifier ↔ Keyword.ofText? word = none := by
  unfold ofWord
  split
  · rename_i known
    simp [known]
  · rename_i free
    simp [free]

namespace Token

theorem mem_dottedBy (kind : Text → Kind) {names : List Text} {name : Text} (h : name ∈ names) :
    (kind name, name) ∈ dottedBy kind names := by
  cases names with
  | nil => cases h
  | cons first names =>
      obtain rfl | h := List.mem_cons.1 h
      · exact List.mem_cons_self
      · refine List.mem_cons_of_mem _ (List.mem_flatMap.2 ⟨name, h, ?_⟩)
        exact List.mem_cons_of_mem _ List.mem_cons_self

theorem dottedBy_congr {kind kind' : Text → Kind} {names : List Text}
    (h : ∀ name ∈ names, kind name = kind' name) : dottedBy kind names = dottedBy kind' names := by
  cases names with
  | nil => rfl
  | cons name names =>
      obtain ⟨first, others⟩ := List.forall_mem_cons.1 h
      rw [dottedBy, dottedBy, first, List.flatMap_congr fun name hname => by rw [others name hname]]

/-- Where only identifiers stand between points, there is no reserved word. -/
theorem not_keyword_of_mem_dotted {names : List Text} {s : Sign} (h : s ∈ dotted names) (k : Keyword) :
    s.1 ≠ .keyword k := by
  cases names with
  | nil => cases h
  | cons name names =>
      simp only [dotted, List.mem_cons, List.mem_flatMap, List.not_mem_nil, or_false] at h
      obtain rfl | ⟨name, -, rfl | rfl⟩ := h <;> rintro ⟨⟩

end Token

namespace Config

/-- A name is read as one word. -/
theorem isName_read {name : Text} (h : isName name) :
    (Token.scan name).map Token.sign = [(.ofWord name, name), (.eof, [])] := by
  have read : ReadsAsTokens ([] ++ name) _ [] :=
    .word [] (by simp) (Token.Kind.ofWord_cases name) (readsAs_word_of_isName h) (by simp)
  exact read.scan

/-- A path is read as words with points between them. -/
theorem isPath_read {path : Text} (h : isPath path) :
    (Token.scan path).map Token.sign =
      Token.dottedBy .ofWord (Text.splitOn '.' path) ++ [(Token.Kind.eof, [])] := by
  have read : ReadsAsTokens ([] ++ Text.join (txt ".") (Text.splitOn '.' path)) _ [] :=
    .dottedBy (by simp) (Text.splitOn_ne_nil '.' path) Token.Kind.ofWord_cases
      (fun word hword => readsAs_word_of_isName (List.all_eq_true.1 h word hword)) (by simp)
  have whole : Text.join (txt ".") (Text.splitOn '.' path) = path := Text.join_splitOn '.' path
  rw [whole] at read
  exact read.scan

theorem isIdentifier_iff {name : Text} (h : isName name) :
    name.IsIdentifier ↔ Keyword.ofText? name = none := by
  rw [Text.IsIdentifier, isName_read h, ← Token.Kind.ofWord_eq_identifier]
  simp

theorem isIdentifierPath_iff {path : Text} (h : isPath path) :
    path.IsIdentifierPath ↔ ∀ word ∈ Text.splitOn '.' path, Keyword.ofText? word = none := by
  rw [Text.IsIdentifierPath, isPath_read h]
  constructor
  · rintro ⟨names, -, same⟩ word hword
    rw [← Token.Kind.ofWord_eq_identifier]
    refine (Token.Kind.ofWord_cases word).resolve_right ?_
    rintro ⟨k, reserved⟩
    have there := List.mem_append_left [(.eof, [])] (Token.mem_dottedBy .ofWord hword)
    rw [same, List.mem_append] at there
    obtain there | ended := there
    · exact Token.not_keyword_of_mem_dotted there k reserved
    · rw [reserved] at ended
      cases List.mem_singleton.1 ended
  · intro free
    refine ⟨_, Text.splitOn_ne_nil '.' path, ?_⟩
    rw [Token.dotted_eq, Token.dottedBy_congr fun word hword =>
      Token.Kind.ofWord_eq_identifier.2 (free word hword)]

/-- A path of identifiers is parsed as the expression that stands for it in calls and conditions, unless
its first name is the one that starts a function. -/
theorem path_parsed {path : Text} (h : isPath path)
    (free : ∀ word ∈ Text.splitOn '.' path, Keyword.ofText? word = none)
    (sync : (Text.splitOn '.' path).head? ≠ some (txt "async")) :
    ∀ depth ≥ Parse.depthBound path, ∃ e s,
      Parse.run depth (.expression Level.lowest) (.start path) = (some e, s) ∧
      s.peek.is .eof ∧ s.complaints = [] ∧ e.Alike (Cooperate.path path) := by
  have names : ∀ word ∈ Text.splitOn '.' path, ReadsAs .identifier word := fun word hword =>
    readsAs_name (List.all_eq_true.1 h word hword) (free word hword)
  have tree : (Cooperate.path path).IsOperatorTree := by
    unfold Cooperate.path
    have some := Text.splitOn_ne_nil '.' path
    generalize Text.splitOn '.' path = words at names sync some
    cases words with
    | nil => exact absurd rfl some
    | cons first rest =>
        obtain ⟨start, others⟩ := List.forall_mem_cons.1 names
        have extend (rest : List Text) (others : ∀ word ∈ rest, ReadsAs .identifier word) (e : Node)
            (he : e.IsOperatorTree) : (rest.foldl
              (fun e name => .member {} e (.identifier {} name) false false) e).IsOperatorTree := by
          induction rest generalizing e with
          | nil => exact he
          | cons name rest ih =>
              obtain ⟨word, others⟩ := List.forall_mem_cons.1 others
              exact ih others _ (.property he word)
        exact extend rest others _ (.identifier start fun async => sync (by rw [async]; rfl))
  obtain ⟨text, printed, read⟩ := tree.read_back Print.defaultIndent
  obtain rfl : text = path := by
    have shown : (Cooperate.path path).print = .ok path := by
      rw [Node.print, (Print.path_doc path).1]
      exact congrArg Except.ok (Text.join_splitOn '.' path)
    exact Except.ok.inj (printed.symm.trans shown)
  exact read

/-- In a configuration without problems, the context and the guard are words with points between them, and
the binding of errors and every pure callee is a word; they are identifiers exactly if none of the words is
reserved. Then the context and the guard are also parsed as what is put into scripts for them. -/
theorem names_read {c : Config} (valid : c.problems = []) :
    (∀ path ∈ [c.options.context, c.options.interrupt],
      (Token.scan path).map Token.sign =
        Token.dottedBy .ofWord (Text.splitOn '.' path) ++ [(.eof, [])] ∧
      (path.IsIdentifierPath ↔ ∀ word ∈ Text.splitOn '.' path, Keyword.ofText? word = none) ∧
      (path.IsIdentifierPath → (Text.splitOn '.' path).head? ≠ some (txt "async") →
        ∀ depth ≥ Parse.depthBound path, ∃ e s,
          Parse.run depth (.expression Level.lowest) (.start path) = (some e, s) ∧
          s.peek.is .eof ∧ s.complaints = [] ∧ e.Alike (Cooperate.path path))) ∧
    ∀ name ∈ c.options.errorBinding :: c.options.pureCallees,
      (Token.scan name).map Token.sign = [(.ofWord name, name), (.eof, [])] ∧
      (name.IsIdentifier ↔ Keyword.ofText? name = none) := by
  simp only [problems, List.append_eq_nil_iff, ite_eq_left_iff, reduceCtorEq, imp_false,
    Bool.not_eq_true, Bool.not_eq_false, List.map_eq_nil_iff, List.filter_eq_nil_iff] at valid
  obtain ⟨⟨⟨⟨⟨context, interrupt⟩, binding⟩, callees⟩, -⟩, -⟩ := valid
  constructor
  · intro path hpath
    have h : isPath path := by
      simp only [List.mem_cons, List.not_mem_nil, or_false] at hpath
      obtain rfl | rfl := hpath
      · exact context
      · exact interrupt
    exact ⟨isPath_read h, isIdentifierPath_iff h,
      fun free => path_parsed h ((isIdentifierPath_iff h).1 free)⟩
  · intro name hname
    have h : isName name := by
      obtain rfl | hname := List.mem_cons.1 hname
      · exact binding
      · simpa using callees name hname
    exact ⟨isName_read h, isIdentifier_iff h⟩

/-- The configuration that is used unless another one is chosen has no problems, and no reserved words in
it. -/
theorem names_read_default : Config.default.problems = [] ∧
    Config.default.options.context.IsIdentifierPath ∧ Config.default.options.interrupt.IsIdentifierPath ∧
    ∀ name ∈ Config.default.options.errorBinding :: Config.default.options.pureCallees,
      name.IsIdentifier := by
  have valid : Config.default.problems = [] := by decide +kernel
  obtain ⟨paths, names⟩ := names_read valid
  refine ⟨valid, (paths _ List.mem_cons_self).2.1.2 (by decide),
    (paths _ (List.mem_cons_of_mem _ List.mem_cons_self)).2.1.2 (by decide), fun name hname => ?_⟩
  exact (names name hname).2.2 (by revert name; decide)

/-- A reserved word passes for the binding of errors and for the context, although no script can use it. -/
theorem reserved_unnoticed :
    let c : Config := { Config.default with options :=
      { Config.default.options with context := txt "host.new", errorBinding := txt "if" } }
    c.problems = [] ∧ ¬ c.options.context.IsIdentifierPath ∧ ¬ c.options.errorBinding.IsIdentifier := by
  refine ⟨by decide +kernel, ?_, ?_⟩
  · rw [isIdentifierPath_iff (by decide)]
    decide
  · rw [isIdentifier_iff (by decide)]
    decide

end Config

end CoScript
