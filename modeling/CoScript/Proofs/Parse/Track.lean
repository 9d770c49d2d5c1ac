import CoScript.Proofs.Parse.Complaints
import CoScript.Proofs.Parse.Side
import CoScript.Proofs.Token.Brackets

/-!
Two runs on scripts that begin with the same tokens. Where one script ends, the other one may go on with a
statement on a line of its own, and nothing that a parser looks at tells that token from the end of the
input. Only where a bracket is open or an operand is due could it, but there a script does not end.
-/
namespace CoScript

namespace Token

/-- A condition that tells that a token is no bracket, and whether a statement may end with it. -/
class Tells (c : Bool) (t : Token) (final : outParam Bool) : Prop where
  tells : c = true → t.kind.isFlat ∧ t.kind.isFinal = final

namespace Tells

variable {t : Token} {k : Kind} {final : Bool}

instance [h : Parse.IsTrue k.isFlat] [h' : Parse.IsTrue k.isFinal] : Tells (t.is k) t true :=
  ⟨fun same => eq_of_beq same ▸ ⟨h.is_true, h'.is_true⟩⟩

instance [h : Parse.IsTrue k.isFlat] [h' : Parse.IsFalse k.isFinal] : Tells (t.is k) t false :=
  ⟨fun same => eq_of_beq same ▸ ⟨h.is_true, h'.is_false⟩⟩

instance {word : String} : Tells (t.isWord word) t true where
  tells same := by
    have kind := eq_of_beq (Bool.and_eq_true_iff.1 same).1
    rw [kind]
    exact ⟨rfl, rfl⟩

theorem isWord_of_not_isFlat (h : ¬t.kind.isFlat) (word : String) : t.isWord word = false :=
  Bool.eq_false_iff.2 fun same => h (tells (c := t.isWord word) same).1

instance : Tells t.namesProperty t true where
  tells name := by
    unfold namesProperty at name
    split at name
    · rename_i kind
      rw [kind]
      exact ⟨rfl, rfl⟩
    · rename_i kind
      rw [kind]
      exact ⟨rfl, rfl⟩
    · contradiction

instance and_left {a b : Bool} [h : Tells a t final] : Tells (a && b) t final :=
  ⟨fun both => h.tells (Bool.and_eq_true_iff.1 both).1⟩

instance and_right {a b : Bool} [h : Tells b t final] : Tells (a && b) t final :=
  ⟨fun both => h.tells (Bool.and_eq_true_iff.1 both).2⟩

end Tells

end Token

namespace Parse

/-! Tracks. -/

/-- States that differ in nothing but what is ahead of them, and nothing is wrong in either. -/
structure State.Agree (s s' : State) : Prop where
  current : s.current = s'.current
  noIn : s.noIn = s'.noIn
  clean : s.complaints = []
  clean' : s'.complaints = []

theorem State.Agree.symm {s s' : State} (h : s.Agree s') : s'.Agree s :=
  ⟨h.current.symm, h.noIn.symm, h.clean', h.clean⟩

/-- Where two scripts part: all brackets are closed, a statement may end here, and it is over in both. -/
structure State.Parted (opened : Nat) (s s' : State) : Prop where
  closed : opened = 0
  final : s.current.kind.isFinal
  left : s.peek.Breaks
  right : s'.peek.Breaks

/-- What the states of two runs have to do with each other, as long as the scripts have tokens in common.
Some brackets are open behind the current token, and one more token of both scripts may be known to be
ahead. -/
structure Track where
  holds (ahead : Bool) (opened : Nat) (s s' : State) : Prop
  weaken {n s s'} : holds true n s s' → holds false n s s'
  agree {ahead n s s'} : holds ahead n s s' → s.Agree s'
  context {ahead n s s'} (noIn : Bool) : holds ahead n s s' →
    holds ahead n { s with noIn := noIn } { s' with noIn := noIn }
  peek {n s s'} : holds true n s s' → s.peek = s'.peek
  advance {n n' s s'} : holds true n s s' → s.peek.kind.enclose n = some n' →
    holds false n' s.advance s'.advance
  splitAngle {n s s'} {o : Operator} : holds true n s s' → o ∈ angled → s.peek.kind = .operator o →
    holds true n s.splitAngle s'.splitAngle
  /-- The bracket at the current token is closed within what the scripts have in common. -/
  closing {ahead n s s'} : holds ahead (n + 1) s s' → s.current.kind = .operator .parenOpen →
    s = s' ∨ ∃ r r', s.closing? = some r ∧ s'.closing? = some r' ∧ holds false n r r'
  seam {n s s'} : holds false n s s' → holds true n s s' ∨ s.Parted n s'

namespace Track

/-- The same two runs the other way round. -/
def swap (T : Track) : Track where
  holds ahead n s s' := T.holds ahead n s' s
  weaken := T.weaken
  agree h := (T.agree h).symm
  context noIn h := T.context noIn h
  peek h := (T.peek h).symm
  advance h enclosed := T.advance h (T.peek h ▸ enclosed)
  splitAngle h known kind := T.splitAngle h known (T.peek h ▸ kind)
  closing h paren := by
    obtain same | ⟨r, r', found, found', there⟩ := T.closing h ((T.agree h).current ▸ paren)
    · exact .inl same.symm
    · exact .inr ⟨r', r, found', found, there⟩
  seam h := by
    obtain more | parted := T.seam h
    · exact .inl more
    · exact .inr ⟨parted.closed, (T.agree h).current ▸ parted.final, parted.right, parted.left⟩

/-- The two runs inside of one more bracket. -/
def inner (T : Track) : Track where
  holds ahead n s s' := T.holds ahead (n + 1) s s'
  weaken := T.weaken
  agree := T.agree
  context noIn h := T.context noIn h
  peek := T.peek
  advance h enclosed := T.advance h (Token.Kind.enclose_succ enclosed)
  splitAngle := T.splitAngle
  closing := T.closing
  seam h := by
    obtain more | parted := T.seam h
    · exact .inl more
    · exact absurd parted.closed (Nat.succ_ne_zero _)

/-- The first script is over where the scripts part. -/
class Strict (T : Track) : Prop where
  strict {n : Nat} {s s' : State} : T.holds false n s s' → T.holds true n s s' ∨ s.AtEnd

/-- The scripts never part. -/
class Deep (T : Track) : Prop where
  deep {n : Nat} {s s' : State} : T.holds false n s s' → T.holds true n s s'

instance {T : Track} [h : T.Deep] : T.Strict :=
  ⟨fun holds => .inl (h.deep holds)⟩

instance (T : Track) : T.inner.Deep :=
  ⟨fun holds => (T.seam holds).resolve_right fun parted => Nat.succ_ne_zero _ parted.closed⟩

end Track

/-- What is known at a place of two runs. -/
inductive Footing where
  /-- The current token is not taken yet. -/
  | on (opened : Nat)
  /-- The current token, which is this one, is not taken yet. -/
  | meets (t : Token) (opened : Nat)
  /-- The current token, which is this one and no bracket, is not taken yet, and the next one is ahead in
  both scripts. -/
  | sees (t ahead : Token) (opened : Nat)
  /-- The current token is taken. A statement may end with it if it is `final`. -/
  | past (final : Bool) (opened : Nat)
  /-- The current token is taken, and the scripts have one more token in common. -/
  | before (final : Bool) (opened : Nat)
  /-- The current token is taken, and this one is ahead in both scripts. -/
  | faces (final : Bool) (t : Token) (opened : Nat)
  /-- The current token is taken, and a token ahead in both scripts is no bracket. A statement may end
  with it, or not. -/
  | clear (final : Bool) (opened : Nat)

namespace Track

/-- Two runs at a place. -/
def Stands (T : Track) : Footing → State → State → Prop
  | .on n, s, s' => s.Agree s' ∧ ∀ n', s.current.kind.enclose n = some n' → T.holds false n' s s'
  | .meets t n, s, s' =>
    s.current = t ∧ s.Agree s' ∧ ∀ n', s.current.kind.enclose n = some n' → T.holds false n' s s'
  | .sees t ahead n, s, s' => T.holds true n s s' ∧ s.current = t ∧ t.kind.isFlat ∧ s.peek = ahead
  | .past final n, s, s' => T.holds false n s s' ∧ (final → s.current.kind.isFinal)
  | .before final n, s, s' => T.holds true n s s' ∧ (final → s.current.kind.isFinal)
  | .faces final t n, s, s' => T.holds true n s s' ∧ (final → s.current.kind.isFinal) ∧ s.peek = t
  | .clear final n, s, s' => T.holds true n s s' ∧ s.peek.kind.isFlat ∧ s.peek.kind.isFinal = final

variable {T : Track} {i : Footing} {s s' : State}

theorem Stands.agree (h : T.Stands i s s') : s.Agree s' := by
  cases i with
  | on => exact h.1
  | meets => exact h.2.1
  | sees | past | before | faces | clear => exact T.agree h.1

theorem Stands.context (h : T.Stands i s s') (noIn : Bool) :
    T.Stands i { s with noIn := noIn } { s' with noIn := noIn } := by
  have agree : State.Agree { s with noIn := noIn } { s' with noIn := noIn } :=
    ⟨h.agree.current, rfl, h.agree.clean, h.agree.clean'⟩
  cases i with
  | on => exact ⟨agree, fun n' enclosed => T.context noIn (h.2 n' enclosed)⟩
  | meets => exact ⟨h.1, agree, fun n' enclosed => T.context noIn (h.2.2 n' enclosed)⟩
  | sees | past | before | faces | clear => exact ⟨T.context noIn h.1, h.2⟩

theorem Stands.swap (h : T.Stands i s s') : T.swap.Stands i s' s := by
  have current := h.agree.current
  cases i with
  | on => exact ⟨h.1.symm, fun n' enclosed => h.2 n' (current ▸ enclosed)⟩
  | meets => exact ⟨current ▸ h.1, h.2.1.symm, fun n' enclosed => h.2.2 n' (current ▸ enclosed)⟩
  | sees => exact ⟨h.1, current ▸ h.2.1, h.2.2.1, T.peek h.1 ▸ h.2.2.2⟩
  | past | before => exact ⟨h.1, fun final => current ▸ h.2 final⟩
  | faces => exact ⟨h.1, fun final => current ▸ h.2.1 final, T.peek h.1 ▸ h.2.2⟩
  | clear => exact ⟨h.1, T.peek h.1 ▸ h.2⟩

/-- What is known may be forgotten. -/
class Weaker (T : Track) (i : Footing) (o : semiOutParam Footing) : Prop where
  weaker {s s' : State} : T.Stands i s s' → T.Stands o s s'

/-- Places where the scripts have one more token in common. -/
class Inside (T : Track) (i : Footing) (final : outParam Bool) (n : outParam Nat) : Prop where
  inside {s s' : State} : T.Stands i s s' → T.holds true n s s' ∧ (final → s.current.kind.isFinal)

/-- Places where a known token is ahead in both scripts. -/
class Facing (T : Track) (i : Footing) (t : outParam Token) (n : outParam Nat) : Prop where
  facing {s s' : State} : T.Stands i s s' → T.holds true n s s' ∧ s.peek = t

/-- Where two runs stand once a token of a kind was taken. -/
class Lands (T : Track) (k : Token.Kind) (n : Nat) (o : outParam Footing) : Prop where
  leads {s s' : State} : s.current.kind = k → T.Stands (.on n) s s' → T.Stands o s s'

/-- Where two runs stand once a token was taken that meets a condition. -/
class LandsIf (T : Track) (c : Bool) (t : Token) (n : Nat) (o : outParam Footing) : Prop where
  leads {s s' : State} : c = true → T.Stands (.meets t n) s s' → T.Stands o s s'

open Footing

section
variable {n : Nat} {t ahead : Token} {k : Token.Kind} {final : Bool} {o : Footing}

instance : Inside T (before final n) final n := ⟨id⟩

instance : Inside T (faces final t n) final n := ⟨fun h => ⟨h.1, h.2.1⟩⟩

instance : Inside T (clear final n) false n := ⟨fun h => ⟨h.1, nofun⟩⟩

instance : Inside T (sees t ahead n) false n := ⟨fun h => ⟨h.1, nofun⟩⟩

instance : Facing T (faces final t n) t n := ⟨fun h => ⟨h.1, h.2.2⟩⟩

instance : Facing T (sees t ahead n) ahead n := ⟨fun h => ⟨h.1, h.2.2.2⟩⟩

instance inside_past : Inside T (past final (n + 1)) final (n + 1) :=
  ⟨fun h => ⟨(T.seam h.1).resolve_right fun parted => Nat.succ_ne_zero _ parted.closed, h.2⟩⟩

instance inside_deep [deep : T.Deep] : Inside T (past final n) final n :=
  ⟨fun h => ⟨deep.deep h.1, h.2⟩⟩

instance (priority := high) : Weaker T i i := ⟨id⟩

instance : Weaker T (meets t n) (on n) := ⟨fun h => h.2⟩

instance : Weaker T (sees t ahead n) (on n) where
  weaker stands := by
    refine ⟨T.agree stands.1, fun n' enclosed => ?_⟩
    rw [stands.2.1, Token.Kind.enclose_of_isFlat stands.2.2.1] at enclosed
    cases enclosed
    exact T.weaken stands.1

instance : Weaker T (past final n) (past false n) := ⟨fun h => ⟨h.1, nofun⟩⟩

instance [h : Inside T i final n] : Weaker T i (before final n) := ⟨h.inside⟩

instance [h : Inside T i final n] : Weaker T i (before false n) :=
  ⟨fun stands => ⟨(h.inside stands).1, nofun⟩⟩

instance [h : Inside T i final n] : Weaker T i (past final n) :=
  ⟨fun stands => ⟨T.weaken (h.inside stands).1, (h.inside stands).2⟩⟩

instance [h : Inside T i final n] : Weaker T i (past false n) :=
  ⟨fun stands => ⟨T.weaken (h.inside stands).1, nofun⟩⟩

instance leads_opens [h : IsTrue k.opens] : Lands T k n (before false (n + 1)) where
  leads kind stands :=
    have here := stands.2 _ (Token.Kind.enclose_of_opens (kind ▸ h.is_true) n)
    ⟨(T.seam here).resolve_right fun parted => Nat.succ_ne_zero _ parted.closed, nofun⟩

instance leads_closes [h : IsTrue k.closes] : Lands T k (n + 1) (past true n) where
  leads kind stands :=
    have closes := kind ▸ h.is_true
    ⟨stands.2 _ (Token.Kind.enclose_of_closes closes n), fun _ => Token.Kind.isFinal_of_closes closes⟩

instance leads_final [flat : IsTrue k.isFlat] [h : IsTrue k.isFinal] : Lands T k n (past true n) where
  leads kind stands :=
    ⟨stands.2 _ (Token.Kind.enclose_of_isFlat (kind ▸ flat.is_true) n), fun _ => kind ▸ h.is_true⟩

instance leads_onward [flat : IsTrue k.isFlat] [h : IsFalse k.isFinal] :
    Lands T k n (before false n) where
  leads {s s'} kind stands := by
    have here := stands.2 _ (Token.Kind.enclose_of_isFlat (kind ▸ flat.is_true) n)
    refine ⟨(T.seam here).resolve_right fun parted => ?_, nofun⟩
    have final := parted.final
    rw [kind, h.is_false] at final
    contradiction

instance [h : Lands T k n o] : LandsIf T (t.is k) t n o :=
  ⟨fun same stands => h.leads (stands.1 ▸ eq_of_beq same) stands.2⟩

instance leadsIf_final {c : Bool} [h : Token.Tells c t true] : LandsIf T c t n (past true n) where
  leads same stands :=
    have told := h.tells same
    ⟨stands.2.2 n (Token.Kind.enclose_of_isFlat (stands.1 ▸ told.1) n), fun _ => stands.1 ▸ told.2⟩

/-- Taking the token ahead. -/
theorem stands_advance (h : T.holds true n s s') : T.Stands (on n) s.advance s'.advance :=
  have agree := T.agree h
  ⟨⟨T.peek h, agree.noIn, agree.clean, agree.clean'⟩, fun _ => T.advance h⟩

end

end Track

open Track Footing

/-! Parsers at the end of the input. -/

namespace Idle

variable {fails past : Bool} {α β γ : Type} {p q p' q' : Parse α}

instance current_bind_false {f f' : Token → Parse β} [h : ∀ t, Idle false fails (f t) (f' t)] :
    Idle false fails (current >>= f) (current >>= f') :=
  ⟨fun {s} ended finished => (h s.current).same ended finished⟩

instance pure_bind {a : α} {f f' : α → Parse β} [h : Idle past fails (f a) (f' a)] :
    Idle past fails (pure a >>= f) (pure a >>= f') :=
  ⟨fun ended finished => h.same ended finished⟩

instance bind_bind {f f' : α → Parse β} {g g' : β → Parse γ}
    [h : Idle past fails (p >>= fun a => f a >>= g) (p' >>= fun a => f' a >>= g')] :
    Idle past fails (p >>= f >>= g) (p' >>= f' >>= g') := by
  rwa [bind_assoc, bind_assoc]

instance ite_bind {c : Bool} {f f' : α → Parse β} [h : IsFalse c]
    [k : Idle past fails (q >>= f) (q' >>= f')] :
    Idle past fails ((if c = true then p else q) >>= f) ((if c = true then p' else q') >>= f') := by
  rwa [h.is_false, if_neg Bool.false_ne_true, if_neg Bool.false_ne_true]

instance (priority := low) ite_bind_either {c : Prop} [Decidable c] {f f' : α → Parse β}
    [h : Idle past fails (p >>= f) (p' >>= f')] [k : Idle past fails (q >>= f) (q' >>= f')] :
    Idle past fails ((if c then p else q) >>= f) ((if c then p' else q') >>= f') := by
  split
  · exact h
  · exact k

end Idle

/-- What would follow a complaint does not matter. -/
theorem reject_bind {α β : Type} (t : Token) (f : Fault) (g : α → Parse β) :
    ((reject t f : Parse α) >>= g) = reject t f :=
  rfl

instance {α β : Type} (t : Token) (f : Fault) (g : α → Parse β) : Rejects (reject t f >>= g) :=
  inferInstanceAs (Rejects (reject t f))

instance {α β : Type} (t : Token) (f : Fault) (g : α → Parse β) : Speaks (reject t f >>= g) :=
  inferInstanceAs (Speaks (reject t f))

/-- A parser that gets two runs from one place to another with the same result, if nothing is wrong in the
first one. -/
class Agrees (T : Track) (i : Footing) (o : semiOutParam Footing) {α : Type} (p : Parse α) : Prop where
  agrees {s s' s₁ : State} {a : α} : p s = (some a, s₁) → s₁.complaints = [] → T.Stands i s s' →
    (∃ s₁', p s' = (some a, s₁') ∧ T.Stands o s₁ s₁') ∧ (s₁.noIn → s.noIn)
  speaks : Speaks p := by infer_instance

/-- A parser whose result is the same everywhere. It goes nowhere. -/
class Repeats {α : Type} (p : Parse α) : Prop where
  repeats {s s₁ : State} {a : α} : p s = (some a, s₁) → s₁.complaints = [] →
    s₁ = s ∧ ∀ s', p s' = (some a, s')
  speaks : Speaks p := by infer_instance

namespace Repeats

variable {α β : Type} {p q : Parse α}

instance (a : α) : Repeats (pure a) where
  repeats := by
    rintro s _ _ ⟨⟩ -
    exact ⟨rfl, fun _ => rfl⟩

instance (t : Token) (f : Fault) : Repeats (reject t f : Parse α) := ⟨nofun, inferInstance⟩

instance bind {f : α → Parse β} [h : Repeats p] [k : ∀ a, Repeats (f a)] : Repeats (p >>= f) where
  speaks := .bind (h := h.speaks) (k := fun a => (k a).speaks)
  repeats := by
    intro s s₂ b done clean
    obtain ⟨a, s₁, first, rest⟩ := bind_cases done
    have there := (Speaks.clean (h := (k a).speaks) rest clean).1
    obtain ⟨rfl, same⟩ := h.repeats first there
    obtain ⟨rfl, same'⟩ := (k a).repeats rest clean
    exact ⟨rfl, fun s' => (bind_eq (same s')).trans (same' s')⟩

end Repeats

namespace Agrees

variable {α β : Type} {p q : Parse α} {T : Track} {i m o : Footing} {n : Nat} {t : Token}
  {k : Token.Kind} {final : Bool}

/-! Staying where one is. -/

/-- A parser that only looks, and sees the same in both runs. -/
theorem of_looks [Speaks p] (look : State → α) (looks : ∀ s, p s = (some (look s), s))
    (same : ∀ {s s'}, T.Stands i s s' → look s = look s') : Agrees T i i p where
  agrees {s s'} _ _ done _ stands := by
    cases (looks s).symm.trans done
    exact ⟨⟨s', by rw [looks, same stands], stands⟩, id⟩

instance pure (a : α) [h : Weaker T i o] : Agrees T i o (pure a : Parse α) where
  agrees := by
    rintro s s' _ _ ⟨⟩ - stands
    exact ⟨⟨s', rfl, h.weaker stands⟩, id⟩

instance (priority := low) current : Agrees T i i current :=
  of_looks State.current (fun _ => rfl) fun stands => stands.agree.current

instance peek [h : Inside T i final n] : Agrees T i i peek :=
  of_looks State.peek (fun _ => rfl) fun stands => T.peek (h.inside stands).1

instance (priority := low) currentIs : Agrees T i i (currentIs k) :=
  of_looks (·.current.is k) (fun _ => rfl) fun stands => by rw [stands.agree.current]

instance peekIs [h : Inside T i final n] : Agrees T i i (peekIs k) :=
  of_looks (·.peek.is k) (fun _ => rfl) fun stands => by rw [T.peek (h.inside stands).1]

/-- A token that begins no statement is not there where the scripts part. -/
instance (priority := low) peekIs_past [inner : IsFalse k.begins] :
    Agrees T (past final n) (past final n) (Parse.peekIs k) := by
  refine of_looks (·.peek.is k) (fun _ => rfl) fun {s s'} stands => ?_
  obtain more | parted := T.seam stands.1
  · rw [T.peek more]
  · rw [parted.left.is_inner inner.is_false, parted.right.is_inner inner.is_false]

instance (priority := low) of_repeats [h : Repeats p] : Agrees T i i p where
  speaks := h.speaks
  agrees {s s'} _ _ done clean stands := by
    obtain ⟨rfl, same⟩ := h.repeats done clean
    exact ⟨⟨s', same s', stands⟩, id⟩

theorem of_rejects [Speaks p] [h : Rejects p] : Agrees T i o p :=
  ⟨fun done clean _ => absurd clean (h.rejects done), inferInstance⟩

instance (priority := low) of_rejects_weaker [Speaks p] [Rejects p] [Weaker T i o] : Agrees T i o p :=
  of_rejects

/-- A look ahead sees the same in both runs if that is so either way round. -/
instance foresee {p : Parse Bool} [h : Agrees T i o p] [k : Agrees T.swap i o p] :
    Agrees T i i (foresee p) := by
  have fires {T : Track} (h : Agrees T i o p) {s s' : State} (stands : T.Stands i s s') :
      ((p s).1 == some true && (p s).2.complaints.length == s.complaints.length) = true →
      ((p s').1 == some true && (p s').2.complaints.length == s'.complaints.length) = true := by
    intro yes
    rw [stands.agree.clean, Bool.and_eq_true, beq_iff_eq, beq_iff_eq, List.length_nil,
      List.length_eq_zero_iff] at yes
    obtain ⟨⟨s₁', same, after⟩, -⟩ := h.agrees (Prod.ext yes.1 rfl) yes.2 stands
    rw [same, stands.agree.clean', after.agree.clean']
    rfl
  refine of_looks (fun s => (p s).1 == some true && (p s).2.complaints.length == s.complaints.length)
    (fun _ => rfl) fun stands => ?_
  exact Bool.eq_iff_iff.2 ⟨fires h stands, fires k stands.swap⟩

/-! Sequences and choices. -/

instance bind {f : α → Parse β} [h : Agrees T i m p] [r : ∀ a, Agrees T m o (f a)] :
    Agrees T i o (p >>= f) where
  speaks := .bind (h := h.speaks) (k := fun a => (r a).speaks)
  agrees := by
    intro s s' s₂ b done clean stands
    obtain ⟨a, s₁, first, rest⟩ := bind_cases done
    have there := (Speaks.clean (h := (r a).speaks) rest clean).1
    obtain ⟨⟨s₁', same, between⟩, context⟩ := h.agrees first there stands
    obtain ⟨⟨s₂', same', after⟩, context'⟩ := (r a).agrees rest clean between
    exact ⟨⟨s₂', (bind_eq same).trans same', after⟩, context ∘ context'⟩

/-- What is known may be forgotten. -/
theorem of_weaker [h : Agrees T m o p] [w : Weaker T i m] : Agrees T i o p :=
  ⟨fun done clean stands => h.agrees done clean (w.weaker stands), h.speaks⟩

theorem to_weaker [h : Agrees T i m p] [w : Weaker T m o] : Agrees T i o p where
  speaks := h.speaks
  agrees done clean stands :=
    have ⟨⟨s₁', same, there⟩, context⟩ := h.agrees done clean stands
    ⟨⟨s₁', same, w.weaker there⟩, context⟩

instance (priority := low) of_on [Agrees T (on n) o p] : Agrees T (meets t n) o p := of_weaker (m := on n)

instance (priority := low) of_on_sees {ahead : Token} [Agrees T (on n) o p] :
    Agrees T (sees t ahead n) o p :=
  of_weaker (m := on n)

instance (priority := low) of_past [Agrees T (past final n) o p] : Agrees T (before final n) o p :=
  of_weaker (m := past final n)

instance (priority := low) of_past_false [Agrees T (past false n) o p] : Agrees T (past true n) o p :=
  of_weaker (m := past false n)

instance (priority := low) of_before [Agrees T (before final n) o p] : Agrees T (faces final t n) o p :=
  of_weaker (m := before final n)

instance (priority := low) of_before_clear [Agrees T (before false n) o p] :
    Agrees T (clear final n) o p :=
  of_weaker (m := before false n)

/-- A parser that gets from one place to another, or only complains. -/
class Suits (T : Track) (i o : Footing) {α : Type} (p : Parse α) : Prop where
  agrees : Agrees T i o p

instance [h : Agrees T i o p] : Suits T i o p := ⟨h⟩

instance [Speaks p] [Rejects p] : Suits T i o p := ⟨of_rejects⟩

instance [h : Suits T i o q] : Suits T i o (if false = true then p else q) := by
  rwa [if_neg Bool.false_ne_true]

instance (priority := low) ite {c : Prop} [Decidable c] [h : Agrees T i o p] [h' : Suits T i o q] :
    Agrees T i o (if c then p else q) := by
  split
  · exact h
  · exact h'.agrees

instance (priority := high) ite_rejects {c : Prop} [Decidable c] [Speaks p] [Rejects p] [h : Agrees T i o q] :
    Agrees T i o (if c then p else q) := by
  split
  · exact of_rejects
  · exact h

instance (priority := high) ite_true [h : Agrees T i o p] : Agrees T i o (if true = true then p else q) := by
  rwa [if_pos rfl]

instance (priority := high) ite_false [h : Agrees T i o q] :
    Agrees T i o (if false = true then p else q) := by
  rwa [if_neg Bool.false_ne_true]

/-- Phrases inside of a bracket do not come to the place where the scripts part. -/
theorem of_inner [h : Agrees T.inner (on n) (past final n) p] :
    Agrees T (on (n + 1)) (past final (n + 1)) p where
  speaks := h.speaks
  agrees done clean stands := by
    refine h.agrees done clean ⟨stands.1, fun n' enclosed => ?_⟩
    exact stands.2 _ (Token.Kind.enclose_succ enclosed)

theorem of_inner_before [h : Agrees T.inner (before final n) (before final n) p] :
    Agrees T (before final (n + 1)) (before final (n + 1)) p :=
  ⟨h.agrees, h.speaks⟩

/-! Tokens. -/

instance current_bind {f : Token → Parse β} [h : ∀ t, Agrees T (meets t n) o (f t)] :
    Agrees T (on n) o (Parse.current >>= f) where
  speaks := .bind (k := fun t => (h t).speaks)
  agrees {s s'} _ _ done clean stands := by
    have same : (Parse.current >>= f) s' = f s.current s' := by
      rw [stands.1.current]
      rfl
    rw [same]
    exact (h s.current).agrees done clean ⟨rfl, stands⟩

instance current_bind_meets {f : Token → Parse β} [h : Agrees T (meets t n) o (f t)]
    [speaks : Speaks (Parse.current >>= f)] : Agrees T (meets t n) o (Parse.current >>= f) where
  speaks := speaks
  agrees {s s'} _ _ done clean stands := by
    have seen {s : State} (same : s.current = t) : (Parse.current >>= f) s = f t s := by
      rw [← same]
      rfl
    rw [seen stands.1] at done
    rw [seen (stands.2.1.current ▸ stands.1)]
    exact h.agrees done clean stands

instance peek_bind {f : Token → Parse β} [inside : Inside T i final n]
    [h : ∀ t, Agrees T (faces final t n) o (f t)] : Agrees T i o (Parse.peek >>= f) where
  speaks := .bind (k := fun t => (h t).speaks)
  agrees {s s'} _ _ done clean stands := by
    obtain ⟨more, last⟩ := inside.inside stands
    have same : (Parse.peek >>= f) s' = f s.peek s' := by
      rw [T.peek more]
      rfl
    rw [same]
    exact (h s.peek).agrees done clean ⟨more, last, rfl⟩

/-- Where the scripts part, what is ahead must make no difference. -/
theorem peek_bind_over {f : Token → Parse β} [h : ∀ t, Agrees T (faces final t n) o (f t)]
    (breaks : ∀ t t' : Token, t.Breaks → t'.Breaks → f t = f t')
    (h' : ∀ t : Token, t.Breaks → Agrees T (past final n) o (f t)) :
    Agrees T (past final n) o (Parse.peek >>= f) where
  speaks := .bind (k := fun t => (h t).speaks)
  agrees {s s'} _ _ done clean stands := by
    obtain more | parted := T.seam stands.1
    · have before : Agrees T (before final n) o (Parse.peek >>= f) := inferInstance
      exact before.agrees done clean ⟨more, stands.2⟩
    · have same : (Parse.peek >>= f) s' = f s.peek s' := congrFun (breaks _ _ parted.right parted.left) s'
      rw [same]
      exact (h' _ parted.left).agrees done clean stands

/-- Behind a token that is no bracket the scripts have one more token in common. Of others it must not
depend on what is ahead. -/
theorem peek_bind_meets {f : Token → Parse β} [inside : Inside T (past false n) false n]
    (h : t.kind.isFlat → ∀ ahead, Agrees T (sees t ahead n) o (f ahead))
    (breaks : ¬t.kind.isFlat → ∀ ahead ahead', f ahead = f ahead')
    (h' : ¬t.kind.isFlat → ∀ ahead, Agrees T (meets t n) o (f ahead)) :
    Agrees T (meets t n) o (Parse.peek >>= f) := by
  by_cases flat : t.kind.isFlat
  · exact {
      speaks := .bind (k := fun ahead => (h flat ahead).speaks)
      agrees := by
        intro s s' _ _ done clean stands
        have here := stands.2.2 n (Token.Kind.enclose_of_isFlat (stands.1 ▸ flat) n)
        have more : T.holds true n s s' := (inside.inside ⟨here, nofun⟩).1
        have same : (Parse.peek >>= f) s' = f s.peek s' := by
          rw [T.peek more]
          rfl
        rw [same]
        exact (h flat s.peek).agrees done clean ⟨more, stands.1, flat, rfl⟩ }
  · exact {
      speaks := .bind (k := fun ahead => (h' flat ahead).speaks)
      agrees := by
        intro s s' _ _ done clean stands
        have same : (Parse.peek >>= f) s' = f s.peek s' := congrFun (breaks flat _ _) s'
        rw [same]
        exact (h' flat s.peek).agrees done clean stands }

/-- Behind a token that is no bracket the scripts have one more token in common, or they part. -/
theorem peek_bind_flat {f : Token → Parse β} (flat : t.kind.isFlat)
    [h : ∀ ahead, Agrees T (sees t ahead n) o (f ahead)] {q : Parse β}
    (breaks : ∀ ahead : Token, ahead.Breaks → f ahead = q) [h' : Agrees T (meets t n) o q] :
    Agrees T (meets t n) o (Parse.peek >>= f) where
  speaks := .bind (k := fun t => (h t).speaks)
  agrees {s s'} _ _ done clean stands := by
    have here := stands.2.2 n (Token.Kind.enclose_of_isFlat (stands.1 ▸ flat) n)
    obtain more | parted := T.seam here
    · have same : (Parse.peek >>= f) s' = f s.peek s' := by
        rw [T.peek more]
        rfl
      rw [same]
      exact (h s.peek).agrees done clean ⟨more, stands.1, flat, rfl⟩
    · have same : (Parse.peek >>= f) s = q s := congrFun (breaks _ parted.left) s
      have same' : (Parse.peek >>= f) s' = q s' := congrFun (breaks _ parted.right) s'
      rw [same] at done
      rw [same']
      exact h'.agrees done clean stands

/-- Where the scripts part, a parser may stop whatever is ahead. -/
theorem peek_bind_stop {f : Token → Parse β} {b : β} [h : ∀ t, Agrees T (faces final t n) o (f t)]
    [w : Weaker T (past final n) o] (breaks : ∀ s : State, s.peek.Breaks → f s.peek s = (some b, s)) :
    Agrees T (past final n) o (Parse.peek >>= f) where
  speaks := .bind (k := fun t => (h t).speaks)
  agrees {s s'} _ _ done clean stands := by
    obtain more | parted := T.seam stands.1
    · have before : Agrees T (before final n) o (Parse.peek >>= f) := inferInstance
      exact before.agrees done clean ⟨more, stands.2⟩
    · cases (breaks s parted.left).symm.trans done
      exact ⟨⟨s', breaks s' parted.right, w.weaker stands⟩, id⟩

instance advance [h : Inside T i final n] : Agrees T i (on n) advance where
  agrees := by
    rintro s s' _ _ ⟨⟩ - stands
    exact ⟨⟨s'.advance, rfl, stands_advance (h.inside stands).1⟩, id⟩

instance (priority := high) advance_faces [h : Facing T i t n] :
    Agrees T i (meets t n) Parse.advance where
  agrees := by
    rintro s s' _ _ ⟨⟩ - stands
    obtain ⟨more, same⟩ := h.facing stands
    exact ⟨⟨s'.advance, rfl, same, stands_advance more⟩, id⟩

instance (priority := high) advance_final : Agrees T (clear true n) (past true n) Parse.advance where
  agrees := by
    rintro s s' _ _ ⟨⟩ - ⟨more, flat, last⟩
    exact ⟨⟨s'.advance, rfl, T.advance more (Token.Kind.enclose_of_isFlat flat n), fun _ => last⟩, id⟩

instance (priority := high) advance_onward :
    Agrees T (clear false n) (before false n) Parse.advance where
  agrees := by
    rintro s s' _ _ ⟨⟩ - ⟨more, flat, onward⟩
    have here := T.advance more (Token.Kind.enclose_of_isFlat flat n)
    refine ⟨⟨s'.advance, rfl, (T.seam here).resolve_right fun parted => ?_, nofun⟩, id⟩
    exact Bool.false_ne_true (onward.symm.trans parted.final)

/-- What is taken behind a place leads on from there. -/
theorem stands_taken [h : Lands T k n m] {s s' : State} (more : T.holds true n s s')
    (kind : s.peek.is k) : T.Stands m s.advance s'.advance :=
  h.leads (eq_of_beq kind) (stands_advance more)

instance skip_bind {f : Bool → Parse β} [inside : Inside T i final n] [Lands T k n m]
    [h : Agrees T m o (f true)] [h' : Suits T i o (f false)] : Agrees T i o (skip k >>= f) where
  speaks := .bind (k := Bool.forall_bool.2 ⟨h'.agrees.speaks, h.speaks⟩)
  agrees {s s'} _ _ done clean stands := by
    have more := (inside.inside stands).1
    by_cases found : s.peek.is k
    · have skipped : skip k s = (some true, s.advance) := by rw [skip, if_pos found]
      have skipped' : skip k s' = (some true, s'.advance) := by rw [skip, ← T.peek more, if_pos found]
      rw [bind_eq skipped] at done
      rw [bind_eq skipped']
      have onward := h.agrees done clean (stands_taken more found)
      exact onward
    · have missed : skip k s = (some false, s) := by rw [skip, if_neg found]
      have missed' : skip k s' = (some false, s') := by rw [skip, ← T.peek more, if_neg found]
      rw [bind_eq missed] at done
      rw [bind_eq missed']
      exact h'.agrees.agrees done clean stands

instance (priority := low) skip_bind_past {f : Bool → Parse β} [inner : IsFalse k.begins] [Lands T k n m]
    [h : Agrees T m o (f true)] [h' : Agrees T (past final n) o (f false)] :
    Agrees T (past final n) o (skip k >>= f) where
  speaks := .bind (k := Bool.forall_bool.2 ⟨h'.speaks, h.speaks⟩)
  agrees {s s'} _ _ done clean stands := by
    obtain more | parted := T.seam stands.1
    · have before : Agrees T (before final n) o (skip k >>= f) := inferInstance
      exact before.agrees done clean ⟨more, stands.2⟩
    · have missed {s : State} (breaks : s.peek.Breaks) : skip k s = (some false, s) := by
        rw [skip, breaks.is_inner inner.is_false, if_neg Bool.false_ne_true]
      rw [bind_eq (missed parted.left)] at done
      rw [bind_eq (missed parted.right)]
      exact h'.agrees done clean stands

instance expect [inside : Inside T i final n] [Lands T k n o] : Agrees T i o (expect k) where
  agrees {s s'} _ _ done clean stands := by
    have more := (inside.inside stands).1
    obtain ⟨kind, -, rfl⟩ := Nests.expect_cases done clean
    have found : s.peek.is k := beq_iff_eq.2 kind
    refine ⟨⟨s'.advance, ?_, stands_taken more found⟩, id⟩
    rw [Parse.expect, ← T.peek more, if_pos found]

/-- A token that is expected is there, so the scripts do not part before it. -/
theorem expect_of (missed : ∀ {s s'}, T.holds false n s s' → s.peek.kind = k → T.holds true n s s')
    [Lands T k n o] : Agrees T (past final n) o (Parse.expect k) where
  agrees {s s'} _ _ done clean stands := by
    have found := (Nests.expect_cases done clean).1
    have before : Agrees T (before final n) o (Parse.expect k) := inferInstance
    exact before.agrees done clean ⟨missed stands.1 found, stands.2⟩

instance (priority := low) expect_past [inner : IsFalse k.begins] [Lands T k n o] :
    Agrees T (past final n) o (Parse.expect k) := by
  refine expect_of fun here kind => (T.seam here).resolve_right fun parted => ?_
  have begins := parted.left.begins
  rw [kind, inner.is_false] at begins
  contradiction

instance (priority := low) expect_strict [strict : T.Strict] [solid : k.Solid] [Lands T k n o] :
    Agrees T (past final n) o (Parse.expect k) :=
  expect_of fun here kind => (strict.strict here).resolve_right fun ended =>
    solid.solid (kind.symm.trans ended.peek)

instance expectAngleClose : Agrees T (past final n) (past true n) Parse.expectAngleClose where
  agrees {s s'} s₁ _ done clean stands := by
    -- A closing angle bracket is ahead, so the scripts do not part here.
    have common {o : Operator} (inner : Token.Kind.begins (.operator o) = false)
        (kind : s.peek.kind = .operator o) : T.holds true n s s' := by
      refine (T.seam stands.1).resolve_right fun parted => ?_
      have begins := parted.left.begins
      rw [kind, inner] at begins
      contradiction
    have each : ∀ o ∈ angled, Token.Kind.begins (.operator o) = false ∧ o ≠ .greater := by decide
    obtain ⟨kind, taken⟩ | ⟨o, known, kind, taken⟩ | missed := expectAngleClose_cases s
    · cases taken.symm.trans done
      have more := common rfl kind
      have found : s.peek.is (.operator .greater) := beq_iff_eq.2 kind
      refine ⟨⟨s'.advance, ?_, stands_taken more found⟩, id⟩
      rw [Together.expectAngleClose_eq, ← T.peek more, if_pos kind]
    · cases taken.symm.trans done
      have more := common (each o known).1 kind
      refine ⟨⟨s'.splitAngle, ?_, T.weaken (T.splitAngle more known kind), fun _ => rfl⟩, id⟩
      have longer : s.peek.kind ≠ .operator .greater := by
        rw [kind]
        exact fun same => (each o known).2 (Token.Kind.operator.inj same)
      rw [Together.expectAngleClose_eq, ← T.peek more, if_neg longer, if_pos ⟨o, known, kind⟩]
    · cases missed.symm.trans done

/-! Choices by what a token is. -/

/-- A token of a known kind leads on from where it is met. -/
theorem of_kind (kind : t.kind = k) [leads : Lands T k n m] [h : Agrees T m o p] :
    Agrees T (meets t n) o p where
  speaks := h.speaks
  agrees done clean stands := h.agrees done clean (leads.leads (stands.1 ▸ kind) stands.2)

theorem of_flat (flat : t.kind.isFlat) [h : Agrees T (past false n) o p] : Agrees T (meets t n) o p where
  speaks := h.speaks
  agrees done clean stands :=
    h.agrees done clean ⟨stands.2.2 n (Token.Kind.enclose_of_isFlat (stands.1 ▸ flat) n), nofun⟩

instance ite_meets {c : Bool} [leads : LandsIf T c t n m] [h : Agrees T m o p]
    [h' : Suits T (meets t n) o q] : Agrees T (meets t n) o (if c = true then p else q) := by
  split
  · exact {
      speaks := h.speaks
      agrees := fun done clean stands => h.agrees done clean (leads.leads ‹_› stands) }
  · exact h'.agrees

theorem of_clear {last : Bool} [facing : Facing T i t n] (told : t.kind.isFlat ∧ t.kind.isFinal = last)
    [h : Agrees T (clear last n) o p] : Agrees T i o p where
  speaks := h.speaks
  agrees done clean stands :=
    have ⟨more, same⟩ := facing.facing stands
    h.agrees done clean ⟨more, same ▸ told.1, same ▸ told.2⟩

instance ite_facing {c : Bool} {last : Bool} [Facing T i t n] [tells : Token.Tells c t last]
    [h : Agrees T (clear last n) o p] [h' : Suits T i o q] :
    Agrees T i o (if c = true then p else q) := by
  split
  · exact of_clear (tells.tells ‹_›)
  · exact h'.agrees

instance ite_facing_or {c d : Bool} {last last' : Bool} [Facing T i t n] [tells : Token.Tells c t last]
    [tells' : Token.Tells d t last'] [h : Agrees T (clear last n) o p] [k : Agrees T (clear last' n) o p]
    [h' : Suits T i o q] : Agrees T i o (if (c || d) = true then p else q) := by
  split
  · obtain one | other := Bool.or_eq_true_iff.1 ‹(c || d) = true›
    · exact of_clear (tells.tells one)
    · exact of_clear (tells'.tells other)
  · exact h'.agrees

instance currentIs_bind {f : Bool → Parse β} [leads : Lands T k n m] [h : Agrees T m o (f true)]
    [h' : Agrees T (on n) o (f false)] : Agrees T (on n) o (Parse.currentIs k >>= f) where
  speaks := .bind (k := Bool.forall_bool.2 ⟨h'.speaks, h.speaks⟩)
  agrees {s s'} _ _ done clean stands := by
    have same : s.current.is k = s'.current.is k := by rw [stands.1.current]
    by_cases found : s.current.is k
    · have seen : Parse.currentIs k s = (some true, s) := by rw [Parse.currentIs, found]
      have seen' : Parse.currentIs k s' = (some true, s') := by rw [Parse.currentIs, ← same, found]
      rw [bind_eq seen] at done
      rw [bind_eq seen']
      exact h.agrees done clean (leads.leads (eq_of_beq found) stands)
    · have found := Bool.eq_false_iff.2 found
      have seen : Parse.currentIs k s = (some false, s) := by rw [Parse.currentIs, found]
      have seen' : Parse.currentIs k s' = (some false, s') := by rw [Parse.currentIs, ← same, found]
      rw [bind_eq seen] at done
      rw [bind_eq seen']
      exact h'.agrees done clean stands

/-- Where the scripts part, a statement may end. -/
instance statementEnds_bind {f : Bool → Parse β} [h : Agrees T (past final n) o (f true)]
    [h' : Agrees T (before final n) o (f false)] :
    Agrees T (past final n) o (statementEnds >>= f) where
  speaks := .bind (k := Bool.forall_bool.2 ⟨h'.speaks, h.speaks⟩)
  agrees {s s'} _ _ done clean stands := by
    obtain more | parted := T.seam stands.1
    · have both (ends : Bool) : Agrees T (before final n) o (f ends) := by
        cases ends with
        | true => exact of_past
        | false => exact h'
      have before : Agrees T (before final n) o (statementEnds >>= f) := by
        unfold statementEnds
        infer_instance
      exact before.agrees done clean ⟨more, stands.2⟩
    · have seen {s : State} (breaks : s.peek.Breaks) : statementEnds s = (some true, s) := by
        have ends : (s.peek.is .eof || s.peek.newlineBefore) = true := by
          obtain ended | apart := breaks.apart
          · rw [Token.is, ended, beq_self_eq_true, Bool.true_or]
          · rw [apart, Bool.or_true]
        have whole : statementEnds s = (some (s.peek.is (.operator .semicolon) ||
          s.peek.is (.operator .braceClose) || s.peek.is .eof || s.peek.newlineBefore), s) := rfl
        rw [whole, Bool.or_assoc, ends, Bool.or_true]
      rw [bind_eq (seen parted.left)] at done
      rw [bind_eq (seen parted.right)]
      exact h.agrees done clean stands

instance finishStatement : Agrees T (past true n) (past true n) finishStatement := by
  unfold Parse.finishStatement
  infer_instance

/-! Operators. -/

/-- Where the scripts part, no operator is ahead. -/
theorem peekLevel_over {s : State} (breaks : s.peek.Breaks) : peekLevel s = (some Level.lowest, s) := by
  have apart : s.peek.kind ≠ .eof → s.peek.newlineBefore := breaks.apart.resolve_left
  have begins := breaks.begins
  unfold peekLevel
  dsimp only
  generalize s.peek.kind = k at begins apart
  unfold Token.Kind.begins at begins
  split at begins
  all_goals first
    | contradiction
    | rfl
    | rw [apart nofun]
      rfl

/-- An operator that goes on from an operand is no bracket but those of calls and indices. -/
theorem isFlat_of_level {k : Token.Kind} (h : Level.lowest < Level.ofKind k)
    (call : k ≠ .operator .parenOpen) (index : k ≠ .operator .bracketOpen) : k.isFlat := by
  unfold Token.Kind.isFlat
  split
  all_goals first
    | contradiction
    | rfl

theorem level_bind {level : Nat} [some : NeZero level] [Speaks p]
    (h : ∀ t, Level.lowest < Level.ofKind t.kind → Agrees T (faces final t n) o p)
    [h' : Agrees T (past final n) o q] :
    Agrees T (past final n) o (peekLevel >>= fun ahead => if level < ahead then p else q) where
  speaks := by
    have := h'.speaks
    infer_instance
  agrees {s s'} _ _ done clean stands := by
    have lowest : Level.lowest ≤ level := Nat.one_le_iff_ne_zero.2 some.ne
    obtain more | parted := T.seam stands.1
    · obtain ⟨barred, seen, seen'⟩ : ∃ barred : Bool,
          peekLevel s = (Option.some (if barred then Level.lowest else Level.ofKind s.peek.kind), s) ∧
          peekLevel s' = (Option.some (if barred then Level.lowest else Level.ofKind s.peek.kind), s') := by
        refine ⟨_, rfl, ?_⟩
        rw [peekLevel, ← T.peek more, (T.agree more).noIn]
      rw [bind_eq seen] at done
      rw [bind_eq seen']
      by_cases goes : level < if barred then Level.lowest else Level.ofKind s.peek.kind
      · rw [if_pos goes] at done ⊢
        have operator : Level.lowest < Level.ofKind s.peek.kind := by
          cases barred with
          | true => exact absurd (lowest.trans_lt goes) (Nat.lt_irrefl _)
          | false => exact lowest.trans_lt goes
        exact (h _ operator).agrees done clean ⟨more, stands.2, rfl⟩
      · rw [if_neg goes] at done ⊢
        exact h'.agrees done clean stands
    · rw [bind_eq (peekLevel_over parted.left), if_neg (Nat.not_lt.2 lowest)] at done
      rw [bind_eq (peekLevel_over parted.right), if_neg (Nat.not_lt.2 lowest)]
      exact h'.agrees done clean stands

/-! Contexts. -/

/-- A parser may run in another context. -/
theorem inContext [h : Agrees T i o p] {s s' s₁ : State} {a : α} {before : Bool} (after : Bool)
    (done : p { s with noIn := before } = (some a, s₁)) (clean : s₁.complaints = [])
    (stands : T.Stands i s s') :
    ∃ s₁', p { s' with noIn := before } = (some a, s₁') ∧
      T.Stands o { s₁ with noIn := after } { s₁' with noIn := after } := by
  obtain ⟨⟨s₁', same, there⟩, -⟩ := h.agrees done clean (stands.context before)
  exact ⟨s₁', same, there.context after⟩

instance allowIn [h : Agrees T i o p] : Agrees T i o (allowIn p) where
  speaks := have := h.speaks; inferInstance
  agrees {s s'} _ _ done clean stands := by
    cases run : p { s with noIn := false } with
    | mk r s₁ =>
        rw [Parse.allowIn, run] at done
        cases done
        obtain ⟨s₁', run', there⟩ := h.inContext s.noIn run clean stands
        refine ⟨⟨_, ?_, there⟩, id⟩
        rw [Parse.allowIn, run', stands.agree.noIn]

instance forbidIn [h : Agrees T i o p] : Agrees T i o (forbidIn p) where
  speaks := have := h.speaks; inferInstance
  agrees {s s'} _ _ done clean stands := by
    cases run : p { s with noIn := true } with
    | mk r s₁ =>
        rw [Parse.forbidIn, run] at done
        cases done
        obtain ⟨s₁', run', there⟩ := h.inContext false run clean stands
        refine ⟨⟨_, ?_, there⟩, nofun⟩
        rw [Parse.forbidIn, run']

/-- What is done about a broken phrase does not matter, because it was complained about. -/
instance watch_bind {f : Option α × Bool → Parse β} [moves : ∀ r, (f (r, true)).Moves]
    [h : Agrees T i m p] [h' : ∀ r, Agrees T m o (f (r, false))] :
    Agrees T i o (watch (attempt p) >>= f) where
  speaks := Speaks.watch_bind (h := h.speaks) moves fun r => (h' r).speaks
  agrees {s s'} s₂ b done clean stands := by
    have watched (s : State) : (watch (attempt p) >>= f) s =
        f ((p s).1, decide (s.complaints.length < (p s).2.complaints.length)) (p s).2 := rfl
    cases run : p s with
    | mk r s₁ =>
        rw [watched, run] at done
        dsimp only at done
        have unharmed : s₁.complaints = [] := by
          cases broken : decide (s.complaints.length < s₁.complaints.length) with
          | true =>
              rw [broken] at done
              have kept := ((moves r).reaches s₁).complaints_grow
              rw [done, clean] at kept
              exact List.prefix_nil.1 kept
          | false =>
              rw [broken] at done
              exact (Speaks.clean (h := (h' r).speaks) done clean).1
        obtain ⟨a, rfl⟩ := Option.isSome_iff_exists.1 (Speaks.clean (h := h.speaks) run unharmed).2
        obtain ⟨⟨s₁', run', between⟩, context⟩ := h.agrees run unharmed stands
        have whole (s : State) {s₁ : State} (none : s₁.complaints = []) :
            decide (s.complaints.length < s₁.complaints.length) = false := by simp [none]
        rw [whole s unharmed] at done
        obtain ⟨⟨s₂', same, after⟩, context'⟩ := (h' _).agrees done clean between
        refine ⟨⟨s₂', ?_, after⟩, context ∘ context'⟩
        rw [watched, run']
        dsimp only
        rw [whole s' between.agree.clean', same]

/-! The end of the input. -/

/-- A parser that fails at the end of the input is not run there. -/
theorem of_idle [strict : T.Strict] [h : Agrees T (before final n) o p] [idle : Idle false true p p] :
    Agrees T (past final n) o p where
  speaks := h.speaks
  agrees {s s'} _ _ done clean stands := by
    obtain more | ended := strict.strict stands.1
    · exact h.agrees done clean ⟨more, stands.2⟩
    · have failed := (idle.same ended nofun).2 rfl
      rw [done] at failed
      contradiction

instance (priority := low) advance_bind_idle [T.Strict] {f : Unit → Parse β}
    [h : Agrees T (on n) o (f ())] [Idle true true (f ()) (f ())] :
    Agrees T (past final n) o (Parse.advance >>= f) :=
  of_idle (h := bind (m := on n) (r := fun _ => h))

instance (priority := low) peek_bind_idle [T.Strict] {f : Token → Parse β}
    [h : ∀ t, Agrees T (faces final t n) o (f t)] [∀ t : EndToken, Idle false true (f t.1) (f t.1)] :
    Agrees T (past final n) o (Parse.peek >>= f) :=
  of_idle

instance (priority := low) skip_bind_idle [T.Strict] {f : Bool → Parse β} [solid : k.Solid]
    [Lands T k n m] [h : Agrees T m o (f true)] [h' : Agrees T (past final n) o (f false)]
    [Idle false true (f false) (f false)] : Agrees T (past final n) o (Parse.skip k >>= f) :=
  of_idle

end Agrees

end Parse

end CoScript
