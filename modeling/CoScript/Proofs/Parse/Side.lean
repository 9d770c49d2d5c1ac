import CoScript.Proofs.Parse.Budget
import CoScript.Proofs.Token.Substitution

/-!
Braces match. A phrase that is read without complaints closes the braces that it opens, and no others; and
it has no illegal token. So each rule of the grammar is read from one side of the current token to another,
with a number of braces open at either place.
-/
namespace CoScript

namespace Token

/-- A condition that only plain tokens satisfy. -/
class Clears (c : Bool) (t : Token) : Prop where
  plain : c = true → t.kind.isPlain

namespace Clears

variable {t : Token}

instance {k : Kind} [h : Parse.IsTrue k.isPlain] : Clears (t.is k) t :=
  ⟨fun same => eq_of_beq same ▸ h.is_true⟩

instance {word : String} : Clears (t.isWord word) t where
  plain same := by
    have kind := eq_of_beq (Bool.and_eq_true_iff.1 same).1
    rw [kind]

instance : Clears t.namesProperty t where
  plain name := by
    unfold namesProperty at name
    split at name
    · rename_i kind
      rw [kind]
    · rename_i kind
      rw [kind]
    · contradiction

instance and_left {a b : Bool} [h : Clears a t] : Clears (a && b) t :=
  ⟨fun both => h.plain (Bool.and_eq_true_iff.1 both).1⟩

instance and_right {a b : Bool} [h : Clears b t] : Clears (a && b) t :=
  ⟨fun both => h.plain (Bool.and_eq_true_iff.1 both).2⟩

instance or {a b : Bool} [h : Clears a t] [k : Clears b t] : Clears (a || b) t :=
  ⟨fun one => (Bool.or_eq_true_iff.1 one).elim h.plain k.plain⟩

end Clears

end Token

namespace Level

instance (k : Token.Kind) : NeZero (ofKind k) := by
  constructor
  unfold ofKind
  split
  · split <;> decide
  · split <;> decide
  · decide
  · decide

instance : NeZero (assignment - 1) := ⟨by decide⟩

instance : NeZero (power - 1) := ⟨by decide⟩

instance (c : Bool) : NeZero (if c then comma else lowest) := ⟨by cases c <;> decide⟩

end Level

namespace Parse

open Token (nesting nesting_cons nesting_plain Clears)

/-! States whose tokens were scanned. -/

/-- The end token comes last, and an operator means what it spells. -/
structure State.Genuine (s : State) : Prop extends s.Sound where
  spelled : ∀ t ∈ s.upcoming, ∀ o, t.kind = .operator o → t.literal = txt o.spelling

theorem State.Genuine.start (source : Text) : (start source).Genuine := by
  obtain ⟨tokens, ending, scanned, -⟩ := Token.scan_ends source
  obtain ⟨whole, -⟩ := State.start_eq scanned
  refine ⟨(Sound.start source).1, fun t ht o kind => ?_⟩
  have mem : t ∈ Token.scan source := by
    rw [scanned, ← whole]
    exact List.mem_cons_of_mem _ ht
  obtain ⟨s, rfl⟩ := Scanner.exists_next_of_mem_collect mem
  obtain ⟨broken, trivia, takes⟩ := s.next_takes
  have means := takes.means
  rw [kind] at means
  exact means.1.trans means.2.1

theorem State.Genuine.context {s : State} (h : s.Genuine) (noIn : Bool) :
    State.Genuine { s with noIn := noIn } :=
  ⟨⟨h.ending, h.last⟩, h.spelled⟩

theorem State.Genuine.complain {s : State} (h : s.Genuine) (t : Token) (f : Fault) :
    (s.complain t f).Genuine := by
  refine ⟨h.toSound.complain t f, ?_⟩
  obtain ⟨complaints, -, same⟩ := s.complain_eq t f
  rw [same]
  exact h.spelled

theorem State.Genuine.advance {s : State} (h : s.Genuine) : s.advance.Genuine :=
  ⟨h.toSound.advance, fun t ht => h.spelled t (List.mem_of_mem_tail ht)⟩

theorem Move.genuine {s s' : State} (h : Move s s') (genuine : s.Genuine) : s'.Genuine := by
  cases h with
  | advance => exact genuine.advance
  | complain t f => exact genuine.complain t f
  | context noIn => exact genuine.context noIn
  | angle =>
      obtain ⟨-, taken⟩ | ⟨o, -, kind, taken⟩ | missed := expectAngleClose_cases s
      · rw [taken]
        exact genuine.advance
      · rw [taken]
        refine ⟨(genuine.toSound.splitAngle kind).1, List.forall_mem_cons.2 ⟨fun o kind => ?_, ?_⟩⟩
        · simp only [afterAngle] at kind ⊢
          split at kind
          · rename_i known
            cases kind
            have same : txt o.spelling = s.peek.literal.drop 1 := by simpa using List.find?_some known
            exact same.symm
          · contradiction
        · exact fun t ht => genuine.spelled t (List.mem_of_mem_tail ht)
      · rw [missed]
        exact genuine.complain _ _

theorem Moves.genuine {α : Type} {p : Parse α} (h : p.Moves) {s s' : State} {r : Option α}
    (done : p s = (r, s')) (genuine : s.Genuine) : s'.Genuine := by
  have reached := (h.reaches s).preserves (fun _ _ => Move.genuine) genuine
  rwa [done] at reached

theorem Moves.clean {α : Type} {p : Parse α} (h : p.Moves) {s s' : State} {r : Option α}
    (done : p s = (r, s')) (genuine : s.Genuine) (clean : s'.complaints = []) : s.complaints = [] := by
  have reached := ((h.reaches s).onward genuine.ending).2.2
  rw [done] at reached
  exact reached clean

/-- An operator that starts with a closing angle bracket leaves no brace. -/
theorem afterAngle_isPlain {t : Token} {o : Operator} (known : o ∈ angled)
    (spelled : t.literal = txt o.spelling) : (afterAngle t).kind.isPlain := by
  have left : ∀ o ∈ angled, (afterAngle { literal := txt o.spelling }).kind.isPlain := by
    decide
  rw [afterAngle, spelled]
  exact left o known

/-! Sides of a token. -/

/-- From where on the braces count. -/
inductive Side where
  /-- From the current token on. -/
  | on (opened : Nat)
  /-- From the current token on, which is this one. -/
  | meets (t : Token) (opened : Nat)
  /-- From the token ahead on. -/
  | behind (opened : Nat)
  /-- From the token ahead on, which is this one. -/
  | faces (t : Token) (opened : Nat)
  /-- From the token ahead on, which is plain. -/
  | clear (opened : Nat)

namespace Side

/-- What is known at a side. -/
def Holds : Side → State → Prop
  | meets t _, s => s.current = t
  | faces t _, s => s.peek = t
  | clear _, s => s.peek.kind.isPlain
  | _, _ => True

/-- The number of braces open at the end. -/
def nesting : Side → State → Option Nat
  | on n, s | meets _ n, s => Token.nesting n (s.current :: s.upcoming)
  | behind n, s | faces _ n, s | clear n, s => Token.nesting n s.upcoming

/-- Only the tokens matter. -/
theorem holds_context (i : Side) (s : State) (noIn : Bool) :
    i.Holds { s with noIn := noIn } ↔ i.Holds s := by
  cases i <;> rfl

theorem nesting_context (i : Side) (s : State) (noIn : Bool) :
    i.nesting { s with noIn := noIn } = i.nesting s := by
  cases i <;> rfl

end Side

open Side

/-- The token ahead counts, and then those behind it. -/
theorem State.Genuine.nesting_advance {s : State} (h : s.Genuine) (n : Nat) :
    nesting n s.upcoming = (s.peek.kind.nest n).bind (nesting · s.advance.upcoming) := by
  rw [State.peek, State.advance]
  cases s.upcoming with
  | nil =>
      rw [List.headD_nil, h.ending]
      rfl
  | cons t rest => exact nesting_cons n t rest

theorem State.Genuine.nesting_nest {s : State} (h : s.Genuine) {n n' : Nat}
    (nest : s.peek.kind.nest n = some n') : nesting n s.upcoming = nesting n' s.advance.upcoming := by
  rw [h.nesting_advance, nest]
  rfl

theorem State.Genuine.nesting_plain {s : State} (h : s.Genuine) {n : Nat} (plain : s.peek.kind.isPlain) :
    nesting n s.upcoming = nesting n s.advance.upcoming :=
  h.nesting_nest (Token.Kind.nest_of_isPlain plain n)

theorem State.Genuine.nesting_on {s : State} (h : s.Genuine) (n : Nat) :
    nesting n s.upcoming = nesting n (s.advance.current :: s.advance.upcoming) := by
  rw [h.nesting_advance, nesting_cons]
  rfl

/-- A parser that stays where it is, if nothing is wrong. -/
class Stays {α : Type} (p : Parse α) : Prop where
  stays {s s' : State} {r : Option α} : p s = (r, s') → s'.complaints = [] → r.isSome ∧ s' = s
  moves : p.Moves := by infer_instance

/-- A parser that gets from one side to another, if nothing is wrong. Braces match on the way. -/
class Nests (i : Side) (o : semiOutParam Side) {α : Type} (p : Parse α) : Prop where
  nests {s s' : State} {r : Option α} : p s = (r, s') → s.Genuine → s'.complaints = [] → i.Holds s →
    r.isSome ∧ o.Holds s' ∧ i.nesting s = o.nesting s'
  moves : p.Moves := by infer_instance

/-- A parser that only complains. -/
class Rejects {α : Type} (p : Parse α) : Prop where
  rejects {s s' : State} {r : Option α} : p s = (r, s') → s'.complaints ≠ []
  moves : p.Moves := by infer_instance

instance {α : Type} (t : Token) (f : Fault) : Rejects (reject t f : Parse α) where
  rejects := by
    rintro s _ _ ⟨⟩
    obtain ⟨complaints, some, same⟩ := s.complain_eq t f
    rwa [same]

/-- A complaint may follow a look ahead. -/
instance {α : Type} {f : Token → Parse α} [h : ∀ t, Rejects (f t)] : Rejects (peek >>= f) where
  rejects {s} _ _ done := (h s.peek).rejects done
  moves := .bind (k := fun t => (h t).moves)

namespace Stays

variable {α β : Type} {p q : Parse α}

/-- A parser that only looks stays. -/
theorem of_looks [p.Moves] (look : ∀ s, ∃ a, p s = (some a, s)) : Stays p where
  stays {s} _ _ done _ := by
    obtain ⟨a, same⟩ := look s
    cases same.symm.trans done
    exact ⟨rfl, rfl⟩

instance (a : α) : Stays (pure a) := of_looks fun _ => ⟨_, rfl⟩

instance : Stays current := of_looks fun _ => ⟨_, rfl⟩

instance : Stays peek := of_looks fun _ => ⟨_, rfl⟩

instance (k : Token.Kind) : Stays (currentIs k) := of_looks fun _ => ⟨_, rfl⟩

instance (k : Token.Kind) : Stays (peekIs k) := of_looks fun _ => ⟨_, rfl⟩

instance (p : Parse Bool) : Stays (foresee p) := of_looks fun _ => ⟨_, rfl⟩

instance (self : Recur) : Stays (arrowAhead self) := by
  refine of_looks fun s => ?_
  rw [arrowAhead]
  dsimp only
  repeat' split
  all_goals exact ⟨_, rfl⟩

instance (priority := low) [h : Rejects p] : Stays p :=
  ⟨fun done clean => absurd clean (h.rejects done), h.moves⟩

instance bind {f : α → Parse β} [h : Stays p] [k : ∀ a, Stays (f a)] : Stays (p >>= f) where
  moves := .bind (h := h.moves) (k := fun a => (k a).moves)
  stays := by
    intro s s' r done clean
    cases first : p s with
    | mk a s₁ =>
        cases a with
        | none =>
            rw [bind_eq_none first] at done
            cases done
            exact absurd (h.stays first clean).1 nofun
        | some a =>
            rw [bind_eq first] at done
            obtain ⟨found, rfl⟩ := (k a).stays done clean
            exact ⟨found, (h.stays first clean).2⟩

instance {c : Prop} [Decidable c] [Stays p] [Stays q] : Stays (if c then p else q) := by
  split <;> infer_instance

instance : Stays statementEnds := by
  unfold statementEnds
  infer_instance

end Stays

namespace Nests

variable {α β : Type} {p q : Parse α} {i m o : Side} {n n' : Nat} {t : Token} {k : Token.Kind}

instance of_stays [h : Stays p] : Nests i i p where
  moves := h.moves
  nests := by
    intro s s' r done _ clean holds
    obtain ⟨found, rfl⟩ := h.stays done clean
    exact ⟨found, holds, rfl⟩

theorem of_rejects [h : Rejects p] : Nests i o p where
  nests done _ clean _ := absurd clean (h.rejects done)
  moves := h.moves

instance bind {f : α → Parse β} [h : Nests i m p] [r : ∀ a, Nests m o (f a)] :
    Nests i o (p >>= f) where
  moves := .bind (h := h.moves) (k := fun a => (r a).moves)
  nests := by
    intro s s' _ done genuine clean holds
    cases first : p s with
    | mk a s₁ =>
        cases a with
        | none =>
            rw [bind_eq_none first] at done
            cases done
            exact absurd (h.nests first genuine clean holds).1 nofun
        | some a =>
            rw [bind_eq first] at done
            have there := h.moves.genuine first genuine
            have unharmed := (r a).moves.clean done there clean
            obtain ⟨-, between, same⟩ := h.nests first genuine unharmed holds
            obtain ⟨found, after, same'⟩ := (r a).nests done there clean between
            exact ⟨found, after, same.trans same'⟩

/-- A parser that gets from one side to another, or only complains. -/
class Suits (i o : Side) {α : Type} (p : Parse α) : Prop where
  nests : Nests i o p

instance [h : Nests i o p] : Suits i o p :=
  ⟨h⟩

instance [Rejects p] : Suits i o p :=
  ⟨of_rejects⟩

/-! What is known may be forgotten. -/

instance (priority := low) of_on [h : Nests (on n) o p] : Nests (meets t n) o p where
  nests done genuine clean _ := h.nests done genuine clean trivial
  moves := h.moves

instance (priority := low) of_behind [h : Nests (behind n) o p] : Nests (faces t n) o p where
  nests done genuine clean _ := h.nests done genuine clean trivial
  moves := h.moves

instance (priority := low) of_behind_clear [h : Nests (behind n) o p] : Nests (clear n) o p where
  nests done genuine clean _ := h.nests done genuine clean trivial
  moves := h.moves

theorem of_clear [h : Nests (clear n) o p] (plain : t.kind.isPlain) : Nests (faces t n) o p where
  moves := h.moves
  nests := by
    intro s s' r done genuine clean same
    change s.peek = t at same
    exact h.nests done genuine clean (by rw [Side.Holds, same]; exact plain)

/-- A phrase goes on behind the current token with the braces that are open there. -/
theorem of_nest [h : Nests (behind n') o p] (nest : t.kind.nest n = some n') :
    Nests (meets t n) o p where
  moves := h.moves
  nests := by
    intro s s' r done genuine clean holds
    obtain ⟨found, after, same⟩ := h.nests done genuine clean trivial
    refine ⟨found, after, same ▸ ?_⟩
    change s.current = t at holds
    change nesting n (s.current :: s.upcoming) = nesting n' s.upcoming
    rw [nesting_cons, holds, nest]
    rfl

theorem of_plain [Nests (behind n) o p] (plain : t.kind.isPlain) : Nests (meets t n) o p :=
  of_nest (Token.Kind.nest_of_isPlain plain n)

theorem of_braceOpen [Nests (behind (n + 1)) o p] (brace : t.kind = .operator .braceOpen) :
    Nests (meets t n) o p :=
  of_nest (by rw [brace]; rfl)

theorem of_braceClose [Nests (behind n) o p] (brace : t.kind = .operator .braceClose) :
    Nests (meets t (n + 1)) o p :=
  of_nest (by rw [brace]; rfl)

/-! Tokens. -/

instance current_bind {f : Token → Parse β} [h : ∀ t, Nests (meets t n) o (f t)] :
    Nests (on n) o (current >>= f) where
  nests {s} _ _ done genuine clean _ := (h s.current).nests done genuine clean rfl
  moves := .bind (k := fun t => (h t).moves)

instance peek_bind {f : Token → Parse β} [h : ∀ t, Nests (faces t n) o (f t)] :
    Nests (behind n) o (peek >>= f) where
  nests {s} _ _ done genuine clean _ := (h s.peek).nests done genuine clean rfl
  moves := .bind (k := fun t => (h t).moves)

instance currentIs_bind {f : Bool → Parse β} [plain : IsTrue k.isPlain] [h : Nests (behind n) o (f true)]
    [h' : Nests (on n) o (f false)] : Nests (on n) o (currentIs k >>= f) where
  moves := .bind (k := Bool.forall_bool.2 ⟨h'.moves, h.moves⟩)
  nests := by
    intro s s' r done genuine clean _
    by_cases same : s.current.is k
    · have seen : currentIs k s = (some true, s) := by rw [currentIs, same]
      rw [bind_eq seen] at done
      have known : s.current.kind.isPlain := eq_of_beq same ▸ plain.is_true
      obtain ⟨found, after, same⟩ := h.nests done genuine clean trivial
      exact ⟨found, after, same ▸ nesting_plain known⟩
    · have seen : currentIs k s = (some false, s) := by rw [currentIs, Bool.eq_false_iff.2 same]
      rw [bind_eq seen] at done
      exact h'.nests done genuine clean trivial

instance advance : Nests (behind n) (on n) advance where
  nests := by
    rintro s _ _ ⟨⟩ genuine _ _
    exact ⟨rfl, trivial, genuine.nesting_on n⟩

instance advance_clear : Nests (clear n) (behind n) Parse.advance where
  nests := by
    rintro s _ _ ⟨⟩ genuine _ plain
    exact ⟨rfl, trivial, genuine.nesting_plain plain⟩

instance skip [h : IsTrue k.isPlain] : Nests (behind n) (behind n) (skip k) where
  nests := by
    intro s s' r done genuine _ _
    rw [Parse.skip] at done
    split at done
    · rename_i same
      cases done
      exact ⟨rfl, trivial, genuine.nesting_plain (eq_of_beq same ▸ h.is_true)⟩
    · cases done
      exact ⟨rfl, trivial, rfl⟩

/-- What follows a skipped token starts behind it. Otherwise it starts where the token would be. -/
theorem skip_nest {f : Bool → Parse β} (nest : k.nest n = some n') [h : Nests (behind n') o (f true)]
    (other : Nests i o (f false)) (counts : ∀ s, i.nesting s = nesting n s.upcoming) :
    Nests i o (Parse.skip k >>= f) where
  moves := .bind (k := Bool.forall_bool.2 ⟨other.moves, h.moves⟩)
  nests := by
    intro s s' r done genuine clean holds
    by_cases same : s.peek.is k
    · have skipped : Parse.skip k s = (some true, s.advance) := by rw [Parse.skip, if_pos same]
      rw [bind_eq skipped] at done
      obtain ⟨found, after, onward⟩ := h.nests done genuine.advance clean trivial
      refine ⟨found, after, (counts s).trans (Eq.trans ?_ onward)⟩
      exact genuine.nesting_nest (eq_of_beq same ▸ nest)
    · have missed : Parse.skip k s = (some false, s) := by rw [Parse.skip, if_neg same]
      rw [bind_eq missed] at done
      exact other.nests done genuine clean holds

instance skip_faces {f : Bool → Parse β} [plain : IsTrue k.isPlain] [Nests (behind n) o (f true)]
    [other : Nests (faces t n) o (f false)] : Nests (faces t n) o (Parse.skip k >>= f) :=
  skip_nest (Token.Kind.nest_of_isPlain plain.is_true n) other fun _ => rfl

instance skip_braceOpen {f : Bool → Parse β} [Nests (behind (n + 1)) o (f true)]
    [other : Nests (behind n) o (f false)] :
    Nests (behind n) o (Parse.skip (.operator .braceOpen) >>= f) :=
  skip_nest rfl other fun _ => rfl

instance skip_braceClose {f : Bool → Parse β} [Nests (behind n) o (f true)]
    [other : Nests (behind (n + 1)) o (f false)] :
    Nests (behind (n + 1)) o (Parse.skip (.operator .braceClose) >>= f) :=
  skip_nest rfl other fun _ => rfl

/-- A token that is expected is either ahead or complained about. -/
theorem expect_cases {s s' : State} {r : Option Unit} (done : expect k s = (r, s'))
    (clean : s'.complaints = []) : s.peek.kind = k ∧ r = some () ∧ s' = s.advance := by
  rw [expect] at done
  split at done
  · rename_i same
    cases done
    exact ⟨eq_of_beq same, rfl, rfl⟩
  · cases done
    obtain ⟨complaints, some, same⟩ := s.complain_eq s.peek (.expected k s.peek)
    rw [same] at clean
    exact absurd clean some

theorem expect_nest (nest : k.nest n = some n') : Nests (behind n) (behind n') (expect k) where
  nests := by
    intro s s' r done genuine clean _
    obtain ⟨rfl, rfl, rfl⟩ := expect_cases done clean
    exact ⟨rfl, trivial, genuine.nesting_nest nest⟩

instance expect [h : IsTrue k.isPlain] : Nests (behind n) (behind n) (expect k) :=
  expect_nest (Token.Kind.nest_of_isPlain h.is_true n)

instance expect_braceOpen :
    Nests (behind n) (behind (n + 1)) (Parse.expect (.operator .braceOpen)) :=
  expect_nest rfl

instance expect_braceClose :
    Nests (behind (n + 1)) (behind n) (Parse.expect (.operator .braceClose)) :=
  expect_nest rfl

instance expectAngleClose : Nests (behind n) (behind n) expectAngleClose where
  nests := by
    intro s s' r done genuine clean _
    obtain ⟨kind, taken⟩ | ⟨op, known, kind, taken⟩ | missed := expectAngleClose_cases s
    · cases taken.symm.trans done
      exact ⟨rfl, trivial, genuine.nesting_plain (by rw [kind])⟩
    · cases taken.symm.trans done
      refine ⟨rfl, trivial, ?_⟩
      have plain : (afterAngle s.peek).kind.isPlain := by
        refine afterAngle_isPlain known (genuine.spelled _ ?_ op kind)
        rw [State.peek]
        cases ahead : s.upcoming with
        | nil => simp [State.peek, ahead, genuine.ending] at kind
        | cons t rest => exact List.mem_cons_self
      have before : s.peek.kind.isPlain := by
        have all : ∀ op ∈ angled, Token.Kind.isPlain (.operator op) := by decide
        rw [kind]
        exact all op known
      exact (genuine.nesting_plain before).trans (nesting_plain plain).symm
    · cases missed.symm.trans done
      obtain ⟨complaints, some, same⟩ := s.complain_eq s.peek (.expected (.operator .greater) s.peek)
      rw [same] at clean
      exact absurd clean some

/-! Choices. -/

instance (priority := low) ite {c : Prop} [Decidable c] [h : Nests i o p] [h' : Suits i o q] :
    Nests i o (if c then p else q) := by
  split
  · exact h
  · exact h'.nests

instance ite_rejects {c : Prop} [Decidable c] [Rejects p] [h : Nests i o q] :
    Nests i o (if c then p else q) := by
  split
  · exact of_rejects
  · exact h

instance (priority := high) ite_true [Nests i o p] : Nests i o (if true = true then p else q) := by
  rwa [if_pos rfl]

instance (priority := high) ite_false [Nests i o q] : Nests i o (if false = true then p else q) := by
  rwa [if_neg Bool.false_ne_true]

instance ite_meets {c : Bool} [h : Clears c t] [Nests (behind n) o p] [h' : Suits (meets t n) o q] :
    Nests (meets t n) o (if c = true then p else q) := by
  split
  · exact of_plain (h.plain ‹_›)
  · exact h'.nests

instance ite_faces {c : Bool} [h : Clears c t] [Nests (clear n) o p] [h' : Suits (faces t n) o q] :
    Nests (faces t n) o (if c = true then p else q) := by
  split
  · exact of_clear (h.plain ‹_›)
  · exact h'.nests

instance ite_braceClose [Nests (behind n) o p] [h' : Suits (meets t (n + 1)) o q] :
    Nests (meets t (n + 1)) o (if t.is (.operator .braceClose) = true then p else q) := by
  split
  · exact of_braceClose (eq_of_beq ‹_›)
  · exact h'.nests

/-- A token that goes on from an operand is plain. -/
theorem isPlain_of_level {k : Token.Kind} (h : Level.lowest < Level.ofKind k) : k.isPlain := by
  revert h
  unfold Level.ofKind
  split
  · split <;> simp
  · simp
  · simp
  · simp

instance level_bind {level : Nat} [some : NeZero level] [h : Nests (clear n) o p]
    [h' : Nests (behind n) o q] :
    Nests (behind n) o (peekLevel >>= fun ahead => if level < ahead then p else q) where
  moves := by
    have := h.moves
    have := h'.moves
    infer_instance
  nests := by
    intro s s' r done genuine clean _
    obtain ⟨barred, seen⟩ : ∃ barred : Bool, peekLevel s =
        (Option.some (if barred then Level.lowest else Level.ofKind s.peek.kind), s) := ⟨_, rfl⟩
    rw [bind_eq seen] at done
    -- What goes on has a level above the lowest one, which no brace has.
    by_cases goes : level < if barred then Level.lowest else Level.ofKind s.peek.kind
    · rw [if_pos goes] at done
      refine h.nests done genuine clean (isPlain_of_level ?_)
      have lowest : Level.lowest ≤ level := Nat.one_le_iff_ne_zero.2 some.ne
      cases barred with
      | true => exact absurd (lowest.trans_lt goes) (Nat.lt_irrefl _)
      | false => exact lowest.trans_lt goes
    · rw [if_neg goes] at done
      exact h'.nests done genuine clean trivial

/-! Contexts. -/

/-- A parser may run in another context. -/
theorem inContext [h : Nests i o p] {s : State} {before after : Bool} (genuine : s.Genuine)
    (clean : (p { s with noIn := before }).2.complaints = []) (holds : i.Holds s) :
    (p { s with noIn := before }).1.isSome ∧
      o.Holds { (p { s with noIn := before }).2 with noIn := after } ∧
      i.nesting s = o.nesting { (p { s with noIn := before }).2 with noIn := after } := by
  have there : i.Holds { s with noIn := before } := (holds_context i s before).2 holds
  rw [holds_context o, nesting_context o, ← nesting_context i s before]
  exact h.nests (Prod.eta _).symm (genuine.context before) clean there

instance [h : Nests i o p] : Nests i o (allowIn p) :=
  ⟨by rintro s _ _ ⟨⟩ genuine clean holds; exact inContext genuine clean holds,
    have := h.moves; inferInstance⟩

instance [h : Nests i o p] : Nests i o (forbidIn p) :=
  ⟨by rintro s _ _ ⟨⟩ genuine clean holds; exact inContext genuine clean holds,
    have := h.moves; inferInstance⟩

/-- What is done about a broken phrase does not matter, because it was complained about. -/
instance watch_bind {f : Option α × Bool → Parse β} [k : ∀ r, (f r).Moves] [h : Nests i m p]
    [h' : ∀ r, Nests m o (f (r, false))] : Nests i o (watch (attempt p) >>= f) where
  moves := by
    have := h.moves
    infer_instance
  nests := by
    intro s s' r done genuine clean holds
    have watched : watch (attempt p) s =
        (some ((p s).1, decide (s.complaints.length < (p s).2.complaints.length)), (p s).2) := rfl
    rw [bind_eq watched] at done
    have there : (p s).2.Genuine := h.moves.genuine rfl genuine
    have none := (k _).clean done there clean
    obtain ⟨-, between, same⟩ := h.nests rfl genuine none holds
    have whole : decide (s.complaints.length < (p s).2.complaints.length) = false := by simp [none]
    rw [whole] at done
    obtain ⟨found, after, same'⟩ := (h' _).nests done there clean between
    exact ⟨found, after, same.trans same'⟩

instance finishStatement : Nests (behind n) (behind n) finishStatement := by
  unfold Parse.finishStatement
  infer_instance

end Nests

end Parse

end CoScript
