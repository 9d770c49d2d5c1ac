import CoScript.Proofs.Parse.Layout
import CoScript.Proofs.Script.Tokens
import CoScript.Proofs.Script.Transform

/-!
Layout and comments do not matter. What comes of a script depends on the tokens it falls into: on their
kinds, on what the script has in their places and on the line breaks between them.
-/
namespace CoScript

namespace Token

/-- Tokens of two scripts that are spelled alike, with or without a line break before. -/
def SpelledAlike (script script' : List UInt8) (t t' : Token) : Prop :=
  t.kind = t'.kind ∧ slice script t.start t.stop = slice script' t'.start t'.stop ∧
    t.newlineBefore = t'.newlineBefore

instance (script script' : List UInt8) (t t' : Token) : Decidable (SpelledAlike script script' t t') :=
  inferInstanceAs (Decidable (_ ∧ _ ∧ _))

theorem raw_of_mem_scan {script : List UInt8} {t : Token} (h : t ∈ scan (Text.ofBytes script)) :
    t.raw = Text.ofBytes (slice script t.start t.stop) := by
  obtain ⟨n, bound, -, collects⟩ := Scanner.call_eof { rest := Text.ofBytes script }
  rw [scan, collects _ (Nat.lt_succ_of_le bound)] at h
  obtain ⟨i, -, rfl⟩ := List.mem_map.1 h
  exact (Scanner.call_stands (s := { rest := Text.ofBytes script }) (.start script) i).1.raw

/-- Tokens that are spelled alike mean the same. -/
theorem scan_echoes {script script' : List UInt8}
    (h : List.Forall₂ (SpelledAlike script script') (scan (Text.ofBytes script))
      (scan (Text.ofBytes script'))) :
    List.Forall₂ Parse.Echo (scan (Text.ofBytes script)) (scan (Text.ofBytes script')) := by
  have all (tokens tokens' : List Token) (h : List.Forall₂ (SpelledAlike script script') tokens tokens')
      (sub : tokens ⊆ scan (Text.ofBytes script)) (sub' : tokens' ⊆ scan (Text.ofBytes script')) :
      List.Forall₂ Parse.Echo tokens tokens' := by
    induction h with
    | nil => exact .nil
    | cons first _ ih =>
        have mem := sub List.mem_cons_self
        have mem' := sub' List.mem_cons_self
        obtain ⟨kind, slices, line⟩ := first
        have raw := (raw_of_mem_scan mem).trans ((congrArg Text.ofBytes slices).trans
          (raw_of_mem_scan mem').symm)
        exact .cons ⟨kind, literal_eq_of_raw mem mem' kind raw, raw, line⟩
          (ih (fun _ h => sub (List.mem_cons_of_mem _ h)) fun _ h => sub' (List.mem_cons_of_mem _ h))
  exact all _ _ h (List.Subset.refl _) (List.Subset.refl _)

end Token

namespace Script

/-- A script is refused if there are complaints about it. -/
theorem parse_eq (source : Source) :
    (∃ c cs, (Parse.script source.content).complaints = c :: cs ∧
        parse source = .error ⟨.reading, (c :: cs).map (diagnostic source)⟩) ∨
      (Parse.script source.content).complaints = [] ∧
        parse source = .ok (Parse.script source.content).program := by
  rw [parse, read]
  cases (Parse.script source.content).complaints with
  | nil => exact .inr ⟨rfl, rfl⟩
  | cons c cs => exact .inl ⟨c, cs, rfl, rfl⟩

theorem parse_echoes {a b : Source}
    (h : List.Forall₂ Parse.Echo (Token.scan a.content) (Token.scan b.content)) :
    (∃ f g, parse a = .error f ∧ parse b = .error g) ∨
      ∃ m n, parse a = .ok m ∧ parse b = .ok n ∧ m.Alike n := by
  obtain ⟨alike, long⟩ := Parse.script_echoes h
  obtain ⟨c, cs, broken, hf⟩ | ⟨clean, hm⟩ := parse_eq a
  · obtain ⟨d, ds, -, hg⟩ | ⟨clean', -⟩ := parse_eq b
    · exact .inl ⟨_, _, hf, hg⟩
    · rw [broken, clean'] at long
      contradiction
  · obtain ⟨d, ds, broken', -⟩ | ⟨-, hn⟩ := parse_eq b
    · rw [clean, broken'] at long
      contradiction
    · exact .inr ⟨_, _, hm, hn, alike⟩

/-- Scripts that fall into tokens that are spelled alike are both refused, or they are turned into the
same text and declare the same variables. -/
theorem transform_spelledAlike (o : Cooperate.Options) (indent : Text) {a b : Source}
    {script script' : List UInt8} (ha : a.content = Text.ofBytes script)
    (hb : b.content = Text.ofBytes script')
    (same : List.Forall₂ (Token.SpelledAlike script script') (Token.scan a.content)
      (Token.scan b.content)) :
    (∃ f g, f.stage = .reading ∧ g.stage = .reading ∧
      transform o indent a = .error f ∧ transform o indent b = .error g ∧
      declaredVariables a = .error f ∧ declaredVariables b = .error g) ∨
    ∃ text vs, transform o indent a = .ok text ∧ transform o indent b = .ok text ∧
      declaredVariables a = .ok vs ∧ declaredVariables b = .ok vs := by
  rw [ha, hb] at same
  have echoes := Token.scan_echoes same
  rw [← ha, ← hb] at echoes
  obtain ⟨f, g, hf, hg⟩ | ⟨m, n, hm, hn, alike⟩ := parse_echoes echoes
  · exact .inl ⟨f, g, parse_error_stage hf, parse_error_stage hg, by rw [transform, hf],
      by rw [transform, hg], by rw [declaredVariables, hf]; rfl, by rw [declaredVariables, hg]; rfl⟩
  · obtain ⟨text, printed⟩ := printScript_transformed hn o indent
    have printed' := (alike.cooperate o).eraseTypes.printScript printed
    refine .inr ⟨text, n.declaredVariables, by simp only [transform, hm, printed'],
      by simp only [transform, hn, printed], ?_, by rw [declaredVariables, hn]; rfl⟩
    rw [declaredVariables, hm, ← alike.declaredVariables]
    rfl

/-- A call with blanks and comments put in. -/
theorem transform_spelledAlike_call :
    let script := (txt "f(x)\n").toBytes
    let script' := (txt "/* call */ f ( x ) // now\n").toBytes
    let a := Source.ofText (.ofBytes script)
    let b := Source.ofText (.ofBytes script')
    List.Forall₂ (Token.SpelledAlike script script') (Token.scan a.content) (Token.scan b.content) ∧
    ((∃ f g, f.stage = .reading ∧ g.stage = .reading ∧
      transform .default [] a = .error f ∧ transform .default [] b = .error g ∧
      declaredVariables a = .error f ∧ declaredVariables b = .error g) ∨
    ∃ text vs, transform .default [] a = .ok text ∧ transform .default [] b = .ok text ∧
      declaredVariables a = .ok vs ∧ declaredVariables b = .ok vs) := by
  intro script script' a b
  have same : List.Forall₂ (Token.SpelledAlike script script') (Token.scan a.content)
      (Token.scan b.content) := by
    decide
  exact ⟨same, transform_spelledAlike .default [] rfl rfl same⟩

end Script

end CoScript
