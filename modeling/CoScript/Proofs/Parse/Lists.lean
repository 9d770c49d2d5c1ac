import CoScript.Proofs.Parse.Complaints

/-!
Nothing is dropped silently. Where a script is read without complaints every phrase that was tried gave a
node, so the lists of the tree are complete: their nodes stand in a row, and nothing stands between two of
them but what separates them.
-/
namespace CoScript.Parse

/-! Rows. -/

/-- Nodes in a row: each is read from where the one before it led to and what stands between the two was
passed, so nothing else is passed over. -/
inductive Lined (piece : State → Node → State → Prop) (pass : State → State) :
    State → List Node → State → Prop
  | nil (s : State) : Lined piece pass s [] s
  | cons {s s₁ s' : State} {n : Node} {ns : List Node} (first : piece s n s₁)
      (others : Lined piece pass (pass s₁) ns s') : Lined piece pass s (n :: ns) s'

/-- A list that is read without complaints is a row, behind which it ends. -/
def Complete (piece : State → Node → State → Prop) (pass : State → State) (ends : State → State → Prop)
    (items : Parse (List Node)) : Prop :=
  ∀ s, (items s).2.complaints = [] →
    ∃ ns s₁, (items s).1 = some ns ∧ Lined piece pass s ns s₁ ∧ ends s₁ (items s).2

/-- Each step of reading a list ends it, or reads a piece and passes what stands behind it; there the list
ends or goes on. -/
def InSteps (piece : State → Node → State → Prop) (pass : State → State) (ends : State → State → Prop)
    (rule again : Recur → Parse (List Node)) : Prop :=
  ∀ {depth s ns s'}, rule (run depth) s = (some ns, s') → s'.complaints = [] →
    ns = [] ∧ ends s s' ∨ ∃ n s₁ ns', ns = n :: ns' ∧ piece s n s₁ ∧
      (ns' = [] ∧ ends (pass s₁) s' ∨ again (run depth) (pass s₁) = (some ns', s'))

theorem InSteps.complete {piece : State → Node → State → Prop} {pass : State → State}
    {ends : State → State → Prop} {rule again : Recur → Parse (List Node)}
    (h : InSteps piece pass ends rule again) (never : ∀ s, (again (run 0) s).1 = none)
    (unrolls : ∀ depth, again (run (depth + 1)) = rule (run depth)) {depth : Nat}
    (speaks : Speaks (again (run depth))) : Complete piece pass ends (again (run depth)) := by
  have lined {s s' : State} {ns : List Node} (done : again (run depth) s = (some ns, s'))
      (clean : s'.complaints = []) : ∃ s₁, Lined piece pass s ns s₁ ∧ ends s₁ s' := by
    clear speaks
    induction depth generalizing s ns with
    | zero =>
        have failed := never s
        rw [done] at failed
        contradiction
    | succ depth ih =>
        rw [unrolls] at done
        obtain ⟨rfl, ended⟩ | ⟨n, s₁, ns', rfl, first, rest⟩ := h done clean
        · exact ⟨s, .nil s, ended⟩
        · obtain ⟨rfl, ended⟩ | rest := rest
          · exact ⟨pass s₁, .cons first (.nil _), ended⟩
          · obtain ⟨s₂, others, ended⟩ := ih rest
            exact ⟨s₂, .cons first others, ended⟩
  intro s clean
  obtain ⟨-, given⟩ := Speaks.clean (p := again (run depth)) (s := s) rfl clean
  obtain ⟨ns, found⟩ := Option.isSome_iff_exists.1 given
  obtain ⟨s₁, row, ended⟩ := lined (s := s) (Prod.ext found rfl) clean
  exact ⟨ns, s₁, found, row, ended⟩

theorem expect_cases {α : Type} {k : Token.Kind} {f : Unit → Parse α} {s s' : State} {a : α}
    (h : (expect k >>= f) s = (some a, s')) : s.peek.is k ∧ f () s.advance = (some a, s') := by
  obtain ⟨_, s₁, passed, rest⟩ := bind_cases h
  rw [expect] at passed
  split at passed
  · cases passed
    exact ⟨‹_›, rest⟩
  · cases passed

/-! Statements. -/

section
variable {self : Recur} [∀ g, Speaks (self g)] {s s' : State}

/-- A statement of a list is read, unless there is something to complain about. -/
theorem watched_clean {α : Type} {f : Option Node × Bool → Parse α} (moves : ∀ r, (f r).Moves)
    {r : Option α} (done : (watch (attempt (self .statement)) >>= f) s = (r, s'))
    (clean : s'.complaints = []) :
    ∃ n s₁, self .statement s = (some n, s₁) ∧ f (some n, false) s₁ = (r, s') := by
  have watched : watch (attempt (self .statement)) s = (some ((self .statement s).1,
      decide (s.complaints.length < (self .statement s).2.complaints.length)),
      (self .statement s).2) := rfl
  rw [bind_eq watched] at done
  have later := ((moves ((self .statement s).1,
    decide (s.complaints.length < (self .statement s).2.complaints.length))).reaches
      (self .statement s).2).complaints_grow
  rw [done, clean] at later
  have before : (self .statement s).2.complaints = [] := List.prefix_nil.1 later
  obtain ⟨-, given⟩ := Speaks.clean (p := self .statement) (s := s) rfl before
  obtain ⟨n, found⟩ := Option.isSome_iff_exists.1 given
  refine ⟨n, (self .statement s).2, Prod.ext found rfl, ?_⟩
  rw [found, before, List.length_nil, decide_eq_false (Nat.not_lt_zero _)] at done
  exact done

theorem item_clean {r : Option (Option Node)} (done : item self s = (r, s'))
    (clean : s'.complaints = []) :
    ∃ n s₁, self .statement s = (some n, s₁) ∧ r = some (some n) ∧ s' = s₁.advance := by
  rw [item] at done
  obtain ⟨n, s₁, read, rest⟩ := watched_clean (fun r => by dsimp only; infer_instance) done clean
  cases rest
  exact ⟨n, s₁, read, rfl, rfl⟩

end

end CoScript.Parse
