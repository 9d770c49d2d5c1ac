import CoScript.Parse.State
import CoScript.Proofs.Token.Tiling

/-!
Where a parser starts: before the first token of a script, with the others ahead and the end token last.
-/
namespace CoScript

/-- The scanner reaches the end token, and the tokens before it are others. -/
theorem Scanner.collect_ends {limit : Nat} {s : Scanner} (h : s.rest.length < limit) :
    ∃ (tokens : List Token) (ending : Token), collect limit s = tokens ++ [ending] ∧ ending.kind = .eof ∧
      ∀ t ∈ tokens, t.kind ≠ .eof := by
  induction limit generalizing s with
  | zero => exact absurd h (Nat.not_lt_zero _)
  | succ limit ih =>
      rw [collect]
      dsimp only
      split
      · rename_i finished
        exact ⟨[], s.next.1, rfl, finished, by simp⟩
      · rename_i some
        have shorter := s.rest_lt_of_next some
        obtain ⟨tokens, ending, rest, finished, others⟩ := ih (s := s.next.2) (by omega)
        exact ⟨s.next.1 :: tokens, ending, by rw [rest]; rfl, finished,
          List.forall_mem_cons.2 ⟨some, others⟩⟩

theorem Token.scan_ends (source : Text) :
    ∃ (tokens : List Token) (ending : Token), scan source = tokens ++ [ending] ∧ ending.kind = .eof ∧
      ∀ t ∈ tokens, t.kind ≠ .eof :=
  Scanner.collect_ends (s := { rest := source }) (Nat.lt_succ_self _)

/-- The state before the first token of a script. -/
theorem Parse.State.start_eq {source : Text} {tokens : List Token} {ending : Token}
    (h : Token.scan source = tokens ++ [ending]) :
    (start source).current :: (start source).upcoming = tokens ++ [ending] ∧
      start source = {
        current := (start source).current, upcoming := (start source).upcoming
        ending := { ending with newlineBefore := false } } := by
  rw [start, h]
  cases tokens with
  | nil => exact ⟨rfl, rfl⟩
  | cons t tokens => exact ⟨rfl, by simp⟩

theorem Parse.State.complaints_start (source : Text) : (start source).complaints = [] := by
  rw [start]
  split <;> rfl

end CoScript
