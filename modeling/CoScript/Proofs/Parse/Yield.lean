import CoScript.Parse.Goal

/-!
What parsers yield. A parser that fails yields nothing, so a statement of this kind is about results
only; it holds whatever state the parser starts in and however it moves on.
-/
namespace CoScript.Parse

/-- Whatever a parser gives satisfies a condition. -/
def Yields {α : Type} (p : Parse α) (Q : α → Prop) : Prop :=
  ∀ s a s', p s = (some a, s') → Q a

namespace Yields

variable {α β : Type} {p : Parse α} {P Q : α → Prop}

theorem mono (h : p.Yields P) (k : ∀ a, P a → Q a) : p.Yields Q :=
  fun s a s' hp => k a (h s a s' hp)

protected theorem pure {a : α} (h : Q a) : Yields (pure a) Q := by
  rintro s b s' ⟨⟩
  exact h

theorem reject (t : Token) (f : Fault) : Yields (Parse.reject t f : Parse α) Q := by
  rintro s a s' ⟨⟩

theorem giveUp : Yields (Parse.giveUp : Parse α) Q := by
  rintro s a s' ⟨⟩

protected theorem bind {f : α → Parse β} {R : β → Prop} (h : p.Yields P)
    (k : ∀ a, P a → (f a).Yields R) : (p >>= f).Yields R := by
  intro s b s' hb
  simp only [bind] at hb
  cases hp : p s with
  | mk r s₁ =>
      rw [hp] at hb
      cases r with
      | none => cases hb
      | some a => exact k a (h s a s₁ hp) s₁ b s' hb

/-- A step whose result says nothing about the final one. -/
theorem skip {f : α → Parse β} {R : β → Prop} (k : ∀ a, (f a).Yields R) : (p >>= f).Yields R :=
  Yields.bind (P := fun _ => True) (fun _ _ _ _ => trivial) fun a _ => k a

/-- A parser that may be refused before it goes on. -/
theorem guarded {c : Prop} [Decidable c] {t : Token} {f : Fault} {g : Unit → Parse α}
    (h : (g ()).Yields Q) : Yields (if c then (do let r ← Parse.reject t f; g r) else g ()) Q := by
  split
  · exact Yields.bind (P := fun _ => False) (reject t f) fun _ h => h.elim
  · exact h

/-- A parser that may move on before it goes on. -/
theorem moved {c : Prop} [Decidable c] {q : Parse Unit} {g : Unit → Parse α}
    (h : (g ()).Yields Q) : Yields (if c then (do let r ← q; g r) else g ()) Q := by
  split
  · exact skip fun _ => h
  · exact h

theorem allowIn (h : p.Yields Q) : (allowIn p).Yields Q := by
  intro s a s' ha
  rw [Parse.allowIn] at ha
  cases hp : p { s with noIn := false } with
  | mk r s₁ =>
      rw [hp] at ha
      simp only [Prod.mk.injEq] at ha
      exact h _ a s₁ (by rw [hp, ha.1])

theorem forbidIn (h : p.Yields Q) : (forbidIn p).Yields Q := by
  intro s a s' ha
  rw [Parse.forbidIn] at ha
  cases hp : p { s with noIn := true } with
  | mk r s₁ =>
      rw [hp] at ha
      simp only [Prod.mk.injEq] at ha
      exact h _ a s₁ (by rw [hp, ha.1])

/-- A watched attempt gives nothing, or what the parser gives. -/
theorem watchedAttempt (h : p.Yields Q) :
    (watch (attempt p)).Yields fun r => ∀ a ∈ r.1, Q a := by
  intro s r s' hr a ha
  cases hp : p s with
  | mk o s₁ =>
      simp only [watch, attempt, hp, Prod.mk.injEq, Option.some.injEq] at hr
      obtain ⟨rfl, rfl⟩ := hr
      have given : o = some a := ha
      exact h s a s₁ (by rw [hp, given])

end Yields

end CoScript.Parse
