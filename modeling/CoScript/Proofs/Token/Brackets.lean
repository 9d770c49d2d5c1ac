import CoScript.Proofs.Parse.Ending
import CoScript.Proofs.Token.Lexeme

/-!
What a token says about the place where it stands: how many brackets are open behind it, whether a
statement may end with it, and whether it can only begin another one.
-/
namespace CoScript.Token

open Parse (IsTrue IsFalse angled afterAngle)

/-! Brackets. -/

/-- Whether a token of a kind opens a bracket. -/
abbrev Kind.opens : Kind → Bool
  | .operator .parenOpen | .operator .bracketOpen | .operator .braceOpen => true
  | _ => false

/-- Whether a token of a kind closes a bracket. -/
abbrev Kind.closes : Kind → Bool
  | .operator .parenClose | .operator .bracketClose | .operator .braceClose => true
  | _ => false

/-- Whether a token of a kind is legal and no bracket. -/
abbrev Kind.isFlat : Kind → Bool
  | .operator .parenOpen | .operator .bracketOpen | .operator .braceOpen
  | .operator .parenClose | .operator .bracketClose | .operator .braceClose | .illegal => false
  | _ => true

/-- The number of brackets open behind a token of a kind, of whatever sort they are. There is none
behind an illegal token, and a bracket is only closed if one is open. -/
def Kind.enclose (n : Nat) (k : Kind) : Option Nat :=
  if k.opens then some (n + 1)
  else if k.closes then if n = 0 then none else some (n - 1)
  else if k.isFlat then some n else none

theorem Kind.enclose_of_opens {k : Kind} (h : k.opens) (n : Nat) : k.enclose n = some (n + 1) :=
  if_pos h

theorem Kind.enclose_of_closes {k : Kind} (h : k.closes) (n : Nat) : k.enclose (n + 1) = some n := by
  have other : k.opens = false := by
    unfold closes at h
    split at h
    · rfl
    · rfl
    · rfl
    · contradiction
  rw [enclose, other, if_neg Bool.false_ne_true, if_pos h, if_neg n.succ_ne_zero, Nat.add_sub_cancel]

theorem Kind.enclose_of_isFlat {k : Kind} (h : k.isFlat) (n : Nat) : k.enclose n = some n := by
  have other : k.opens = false ∧ k.closes = false := by
    unfold isFlat at h
    split at h
    case h_8 => exact ⟨by unfold opens; split <;> simp_all, by unfold closes; split <;> simp_all⟩
    all_goals contradiction
  rw [enclose, other.1, other.2, if_neg Bool.false_ne_true, if_neg Bool.false_ne_true, if_pos h]

/-- One more bracket around a token stays open. -/
theorem Kind.enclose_succ {k : Kind} {n n' : Nat} (h : k.enclose n = some n') :
    k.enclose (n + 1) = some (n' + 1) := by
  by_cases opens : k.opens
  · rw [enclose_of_opens opens] at h ⊢
    exact congrArg (some <| · + 1) (Option.some.inj h)
  by_cases closes : k.closes
  · cases n with
    | zero =>
        rw [enclose, if_neg opens, if_pos closes] at h
        contradiction
    | succ n =>
        rw [enclose_of_closes closes] at h ⊢
        exact congrArg (some <| · + 1) (Option.some.inj h)
  by_cases flat : k.isFlat
  · rw [enclose_of_isFlat flat] at h ⊢
    exact congrArg (some <| · + 1) (Option.some.inj h)
  · rw [enclose, if_neg opens, if_neg closes, if_neg flat] at h
    contradiction

/-- The number of brackets open behind some tokens. -/
def enclosing (n : Nat) (tokens : List Token) : Option Nat :=
  tokens.foldlM (fun n t => t.kind.enclose n) n

@[simp] theorem enclosing_nil (n : Nat) : enclosing n [] = some n := rfl

theorem enclosing_cons (n : Nat) (t : Token) (ts : List Token) :
    enclosing n (t :: ts) = (t.kind.enclose n).bind (enclosing · ts) :=
  List.foldlM_cons

theorem enclosing_append (n : Nat) (ts us : List Token) :
    enclosing n (ts ++ us) = (enclosing n ts).bind (enclosing · us) :=
  List.foldlM_append

theorem enclosing_flat {n : Nat} {t : Token} {ts : List Token} (h : t.kind.isFlat) :
    enclosing n (t :: ts) = enclosing n ts := by
  rw [enclosing_cons, Kind.enclose_of_isFlat h]
  rfl

/-- Where brackets match, no token is illegal. -/
theorem legal_of_enclosing {n n' : Nat} {ts : List Token} (h : enclosing n ts = some n') :
    ∀ t ∈ ts, t.kind ≠ .illegal := by
  induction ts generalizing n with
  | nil => nofun
  | cons t ts ih =>
      rw [enclosing_cons] at h
      obtain ⟨m, here, rest⟩ := Option.bind_eq_some_iff.1 h
      refine List.forall_mem_cons.2 ⟨fun kind => ?_, ih rest⟩
      rw [kind] at here
      contradiction

/-! Ends of statements. -/

/-- Whether a statement may end with a token of a kind. A reserved word may be the name of a property. -/
abbrev Kind.isFinal : Kind → Bool
  | .operator .parenClose | .operator .bracketClose | .operator .braceClose | .operator .semicolon
  | .operator .increment | .operator .decrement | .operator .bang | .operator .greater
  | .operator .shiftRight | .operator .shiftRightZero => true
  | .operator _ | .eof | .illegal => false
  | _ => true

theorem Kind.isFinal_of_closes {k : Kind} (h : k.closes) : k.isFinal := by
  unfold closes at h
  split at h
  · rfl
  · rfl
  · rfl
  · contradiction

theorem Kind.ne_eof_of_isFinal {k : Kind} (h : k.isFinal) : k ≠ .eof := by
  rintro rfl
  contradiction

/-- What a closing angle bracket leaves is no bracket, and final if the whole token is. -/
theorem afterAngle_isFinal {t : Token} {o : Operator} (known : o ∈ angled)
    (kind : t.kind = .operator o) (spelled : t.literal = txt o.spelling) :
    (afterAngle t).kind.isFlat ∧ (afterAngle t).kind.isFinal = t.kind.isFinal ∧
      (afterAngle t).kind ≠ .eof ∧
      ∀ o', (afterAngle t).kind = .operator o' → (afterAngle t).literal = txt o'.spelling := by
  have each : ∀ o ∈ angled, ∃ o', Operator.ofText? ((txt o.spelling).drop 1) = some o' ∧
      (txt o.spelling).drop 1 = txt o'.spelling ∧ Kind.isFlat (.operator o') ∧
      Kind.isFinal (.operator o') = Kind.isFinal (.operator o) := by
    simp only [angled, List.forall_mem_cons]
    exact ⟨⟨.greater, by decide⟩, ⟨.shiftRight, by decide⟩,
      ⟨.assign, by decide⟩, ⟨.greaterEqual, by decide⟩,
      ⟨.shiftRightAssign, by decide⟩, List.forall_mem_nil _⟩
  obtain ⟨o', left, spelled', flat, final⟩ := each o known
  rw [← spelled] at left spelled'
  have kind' : (afterAngle t).kind = .operator o' := by
    rw [afterAngle]
    dsimp only
    rw [left]
  rw [kind', kind]
  refine ⟨flat, final, by simp, ?_⟩
  rintro _ ⟨⟩
  exact spelled'

/-! Beginnings of statements. -/

/-- Whether a token of a kind can begin a statement, and never goes on from one when it stands on a line
of its own. The end of the input begins an empty rest. -/
abbrev Kind.begins : Kind → Bool
  | .eof | .identifier | .number | .string => true
  | .keyword .function | .keyword .let | .keyword .const | .keyword .var | .keyword .true
  | .keyword .false | .keyword .null | .keyword .if | .keyword .return | .keyword .while
  | .keyword .do | .keyword .for | .keyword .break | .keyword .continue | .keyword .switch
  | .keyword .new | .keyword .delete | .keyword .typeof | .keyword .void | .keyword .this
  | .keyword .try | .keyword .throw | .keyword .await => true
  | .operator .braceOpen | .operator .bang | .operator .tilde | .operator .increment
  | .operator .decrement => true
  | _ => false

/-- Whether a token of a kind goes on from a statement on the line before, though it may begin one, too. -/
abbrev Kind.continues : Kind → Bool
  | .operator .parenOpen | .operator .bracketOpen | .operator .plus | .operator .minus
  | .operator .semicolon | .operator .slash | .template | .regex => true
  | _ => false

/-- A token before which a statement is over. -/
structure Breaks (t : Token) : Prop where
  begins : t.kind.begins
  apart : t.kind = .eof ∨ t.newlineBefore

namespace Breaks

variable {t : Token}

theorem is_inner (h : t.Breaks) {k : Kind} (inner : k.begins = false) : t.is k = false := by
  refine beq_false_of_ne fun kind => ?_
  have begins := h.begins
  rw [kind, inner] at begins
  contradiction

theorem of_eof (h : t.kind = .eof) : t.Breaks :=
  ⟨by rw [h], .inl h⟩

/-- Whatever a token on the same line might do is not done. -/
theorem is_and (h : t.Breaks) (k : Kind) [solid : k.Solid] : (t.is k && !t.newlineBefore) = false := by
  obtain ended | apart := h.apart
  · rw [Token.is, ended, beq_false_of_ne solid.solid.symm, Bool.false_and]
  · rw [apart, Bool.not_true, Bool.and_false]

end Breaks

end CoScript.Token
