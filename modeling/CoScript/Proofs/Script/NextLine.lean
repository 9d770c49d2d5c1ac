import CoScript.Proofs.Parse.Sequel
import CoScript.Proofs.Script.Layout

/-!
Automatic semicolons. A line break ends a statement wherever it can end, so a script may follow another one on
the next line unless it begins with a token that would go on from the line before.
-/
namespace CoScript.Script

/-- A script is read as its statements and then those of the script on the lines after it. -/
theorem parse_nextLine {a b whole : Source} {script script' : List UInt8}
    (ha : a.content = Text.ofBytes script) (hb : b.content = Text.ofBytes script')
    (joined : whole.content = Text.ofBytes (script ++ (txt "\n").toBytes ++ script')) {m n : Node}
    (reads : parse a = .ok m) (reads' : parse b = .ok n)
    (apart : ∀ t ∈ (Token.scan b.content).head?, t.kind.continues = false) :
    ∃ ss ts us, m = .program ss ∧ n = .program ts ∧ parse whole = .ok (.program us) ∧
      us.map Node.withoutTokens = (ss ++ ts).map Node.withoutTokens := by
  have content : whole.content = a.content ++ b.content.nextLine := by
    rw [joined, ha, hb, List.append_assoc]
    exact (Text.ofBytes_append_ascii (by decide) script script').trans
      (congrArg _ (Text.ofBytes_ascii (by decide) script'))
  obtain ⟨_, _, -, failed⟩ | ⟨clean, found⟩ := parse_eq a
  · rw [failed] at reads
    contradiction
  obtain ⟨_, _, -, failed⟩ | ⟨clean', found'⟩ := parse_eq b
  · rw [failed] at reads'
    contradiction
  obtain ⟨clean'', ss, ts, us, first, second, both, alike⟩ := Parse.script_nextLine clean clean' apart
  rw [← content] at clean'' both
  obtain ⟨_, _, broken, -⟩ | ⟨-, found''⟩ := parse_eq whole
  · rw [clean''] at broken
    contradiction
  refine ⟨ss, ts, ss ++ us, ?_, ?_, found''.trans (congrArg _ both), ?_⟩
  · exact (Except.ok.inj (reads.symm.trans found)).trans first
  · exact (Except.ok.inj (reads'.symm.trans found')).trans second
  · simp only [Node.Alike, Node.withoutTokens, Node.withoutTokensAll_eq_map, Node.program.injEq] at alike
    rw [List.map_append, List.map_append, alike]

/-- An increment on the line after an assignment, which it would go on from on the same line. -/
theorem parse_nextLine_increment :
    let script := (txt "a = b").toBytes
    let script' := (txt "++c").toBytes
    let a := Source.ofText (.ofBytes script)
    let b := Source.ofText (.ofBytes script')
    let whole := Source.ofText (.ofBytes (script ++ (txt "\n").toBytes ++ script'))
    parse a = .ok (Parse.script a.content).program ∧ parse b = .ok (Parse.script b.content).program ∧
    (∀ t ∈ (Token.scan b.content).head?, t.kind.continues = false) ∧
    ∃ ss ts us, (Parse.script a.content).program = .program ss ∧
      (Parse.script b.content).program = .program ts ∧ parse whole = .ok (.program us) ∧
      us.map Node.withoutTokens = (ss ++ ts).map Node.withoutTokens := by
  intro script script' a b whole
  have clean : (Parse.script a.content).complaints = [] := by decide
  have clean' : (Parse.script b.content).complaints = [] := by decide
  have reads : parse a = .ok (Parse.script a.content).program := by
    rw [parse, read, clean]
    rfl
  have reads' : parse b = .ok (Parse.script b.content).program := by
    rw [parse, read, clean']
    rfl
  have apart : ∀ t ∈ (Token.scan b.content).head?, t.kind.continues = false := by decide
  exact ⟨reads, reads', apart, parse_nextLine rfl rfl (rfl : whole.content = _) reads reads' apart⟩

end CoScript.Script
