import CoScript.Proofs.Parse.Braces

/-!
Expressions as substitutions of templates. A substitution is searched for its end without scanning tokens,
so the end is found if comments and regular expressions have no braces, quotes or backticks.
-/
namespace CoScript.Parse

variable {depth : Nat} {source : Text}

/-- An expression may be substituted into a template. If it is read without complaints up to its end, and
its comments and regular expressions have no braces, quotes or backticks, then the template is scanned as
one token and splits into empty chunks of text and the expression. -/
theorem expression_substitutes
    (clean : (run depth (.expression Level.lowest) (.start source)).2.complaints = [])
    (ended : (run depth (.expression Level.lowest) (.start source)).2.peek.kind = .eof)
    (searchable : Template.Searchable source) :
    (Token.scan (txt "`" ++ (txt "$\x7b" ++ source ++ txt "\x7d") ++ txt "`")).map Token.sign =
        [(.template, txt "$\x7b" ++ source ++ txt "\x7d"), (.eof, [])] ∧
      Template.split? (txt "$\x7b" ++ source ++ txt "\x7d") = some ⟨[[], []], [source]⟩ :=
  Token.scan_substituting (nesting_scan clean ended) searchable

/-- An object with a brace in a string, behind a comment. -/
theorem expression_substitutes_object : ∃ source : Text,
    source = txt "/* a */ \x7bb: '\x7d'\x7d" ∧
    (run 9 (.expression Level.lowest) (.start source)).2.complaints = [] ∧
    (run 9 (.expression Level.lowest) (.start source)).2.peek.kind = .eof ∧
    Template.Searchable source ∧
    (Token.scan (txt "`" ++ (txt "$\x7b" ++ source ++ txt "\x7d") ++ txt "`")).map Token.sign =
        [(.template, txt "$\x7b" ++ source ++ txt "\x7d"), (.eof, [])] ∧
    Template.split? (txt "$\x7b" ++ source ++ txt "\x7d") = some ⟨[[], []], [source]⟩ :=
  ⟨_, rfl, rfl, rfl, rfl, @expression_substitutes 9 _ rfl rfl rfl⟩

/-- A regular expression with a brace is an expression, but in a template the brace ends the
substitution. -/
theorem regex_splits_template : ∃ source : Text,
    source = txt "/\x7d/" ∧
    (run (depthBound source) (.expression Level.lowest) (.start source)).2.complaints = [] ∧
    (run (depthBound source) (.expression Level.lowest) (.start source)).2.peek.kind = .eof ∧
    Template.split? (txt "$\x7b" ++ source ++ txt "\x7d") = some ⟨[[], txt "/\x7d"], [txt "/"]⟩ ∧
    Template.split? (txt "$\x7b" ++ source ++ txt "\x7d") ≠ some ⟨[[], []], [source]⟩ :=
  ⟨_, rfl, rfl, rfl, rfl, by decide⟩

end CoScript.Parse
