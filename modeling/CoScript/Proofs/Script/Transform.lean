import CoScript.Proofs.Cooperate.Shape
import CoScript.Proofs.Erasure.Shape
import CoScript.Proofs.Parse.StatementShape
import CoScript.Proofs.Print.Success

/-!
A script that is accepted can be printed, as it is and after every pass. So turning it into a
cooperative one fails only when the script itself is at fault.
-/
namespace CoScript.Script

open Cooperate

/-- The tree of a script is a program. -/
theorem parse_program {source : Source} {program : Node} (h : parse source = .ok program) :
    ∃ body, program = .program body :=
  ⟨_, parse_eq_ok h⟩

theorem parse_error_stage {source : Source} {f : Failure} (h : parse source = .error f) :
    f.stage = .reading := by
  unfold parse at h
  split at h
  · contradiction
  · exact Except.error.inj h ▸ rfl

theorem printScript_parsed {source : Source} {program : Node} (h : parse source = .ok program)
    (indent : Text) : ∃ text, program.printScript indent = .ok text := by
  obtain ⟨body, rfl⟩ := parse_program h
  exact (parse_shaped h).printScript rfl indent

theorem printScript_transformed {source : Source} {program : Node}
    (h : parse source = .ok program) (o : Options) (indent : Text) :
    ∃ text, (program.cooperate o).result.eraseTypes.printScript indent = .ok text := by
  have shaped := ((parse_shaped h).cooperative_fitsIn o).1.eraseTypes
  obtain ⟨body, rfl⟩ := parse_program h
  exact shaped.printScript rfl indent

/-- Turning a script into a cooperative one gives a text, or the failure to read the script. In the
first case the script can be printed as it is, too. -/
theorem transform_prints_or_rejects (o : Options) (indent : Text) (source : Source) :
    (∃ program plain text, parse source = .ok program ∧ program.printScript indent = .ok plain ∧
      (program.cooperate o).result.eraseTypes.printScript indent = .ok text ∧
      transform o indent source = .ok text) ∨
    (∃ f, f.stage = .reading ∧ parse source = .error f ∧ transform o indent source = .error f) := by
  cases h : parse source with
  | ok program =>
      obtain ⟨plain, hplain⟩ := printScript_parsed h indent
      obtain ⟨text, htext⟩ := printScript_transformed h o indent
      exact .inl ⟨program, plain, text, rfl, hplain, htext, by simp only [transform, h, htext]⟩
  | error f => exact .inr ⟨f, parse_error_stage h, rfl, by simp only [transform, h]⟩

end CoScript.Script
