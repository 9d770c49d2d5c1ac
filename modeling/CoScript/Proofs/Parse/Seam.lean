import CoScript.Proofs.Parse.Tracked

/-!
Where one script is followed by another one on the next line. The brackets of a script that is read without
complaints match, and a statement may end with its last token; so up to the seam the two runs are on a track.
-/
namespace CoScript.Parse

open Track Footing
open Token (enclosing enclosing_cons enclosing_flat afterAngle_isFinal)

/-! Brackets ahead. -/

/-- Taking a token ahead counts it. -/
theorem State.enclosing_advance {s : State} (finished : s.ending.kind = .eof) {n n' : Nat}
    (enclosed : s.peek.kind.enclose n = some n') :
    enclosing n s.upcoming = enclosing n' s.advance.upcoming := by
  rw [State.peek] at enclosed
  rw [State.advance]
  cases ahead : s.upcoming with
  | nil =>
      rw [ahead, List.headD_nil, finished] at enclosed
      cases enclosed
      rfl
  | cons t rest =>
      rw [ahead, List.headD_cons] at enclosed
      rw [enclosing_cons, enclosed]
      rfl

theorem isFlat_of_angled {o : Operator} (known : o ∈ angled) : Token.Kind.isFlat (.operator o) := by
  have all : ∀ o ∈ angled, Token.Kind.isFlat (.operator o) := by decide
  exact all o known

theorem closing?_deepened (depth : Nat) (t : Token) : closing?.deepened depth t =
    if t.kind.opens then depth + 1 else if t.kind.closes then depth - 1 else depth := by
  rw [closing?.deepened]
  cases t.kind with
  | operator o => cases o <;> rfl
  | _ => rfl

/-- A bracket that is closed further on is closed there whatever follows. -/
theorem closing?_append {n depth opened : Nat} {current : Token} {common : List Token}
    (more : current.kind ≠ .eof) (others : ∀ t ∈ common, t.kind ≠ .eof)
    (deepened : closing?.deepened depth current = opened + 1)
    (balanced : enclosing (n + (opened + 1)) common = some 0) :
    ∃ t inside outside, common = inside ++ t :: outside ∧ t.kind.closes ∧
      enclosing n outside = some 0 ∧
      ∀ rest, closing? depth current (common ++ rest) = some (t, outside ++ rest) := by
  induction common generalizing depth opened current with
  | nil => simp at balanced
  | cons t common ih =>
      obtain ⟨more', others⟩ := List.forall_mem_cons.1 others
      have goes (rest : List Token) : closing? depth current (t :: common ++ rest) =
          closing? (opened + 1) t (common ++ rest) := by
        rw [List.cons_append, closing?, deepened, Token.is, beq_false_of_ne more,
          if_neg Bool.false_ne_true, if_neg opened.succ_ne_zero]
      have inner (opened' : Nat) (deepened' : closing?.deepened (opened + 1) t = opened' + 1)
          (balanced' : enclosing (n + (opened' + 1)) common = some 0) :
          ∃ u inside outside, t :: common = inside ++ u :: outside ∧ u.kind.closes ∧
            enclosing n outside = some 0 ∧
            ∀ rest, closing? depth current (t :: common ++ rest) = some (u, outside ++ rest) := by
        obtain ⟨u, inside, outside, rfl, closes, closed, found⟩ := ih more' others deepened' balanced'
        exact ⟨u, t :: inside, outside, rfl, closes, closed, fun rest => (goes rest).trans (found rest)⟩
      rw [enclosing_cons] at balanced
      obtain ⟨m, enclosed, balanced⟩ := Option.bind_eq_some_iff.1 balanced
      by_cases opens : t.kind.opens
      · rw [Token.Kind.enclose_of_opens opens] at enclosed
        cases enclosed
        exact inner (opened + 1) (by rw [closing?_deepened, if_pos opens]) balanced
      by_cases closes : t.kind.closes
      · rw [← Nat.add_assoc, Token.Kind.enclose_of_closes closes] at enclosed
        cases enclosed
        have less : closing?.deepened (opened + 1) t = opened := by
          rw [closing?_deepened, if_neg opens, if_pos closes, Nat.add_sub_cancel]
        cases opened with
        | zero =>
            refine ⟨t, [], common, rfl, closes, balanced, fun rest => (goes rest).trans ?_⟩
            cases common ++ rest with
            | nil => rw [closing?, less, if_pos rfl]
            | cons u us =>
                rw [closing?, less, Token.is, beq_false_of_ne more', if_neg Bool.false_ne_true, if_pos rfl]
        | succ opened => exact inner opened less balanced
      · have flat : t.kind.isFlat := by
          rw [Token.Kind.enclose, if_neg opens, if_neg closes] at enclosed
          split at enclosed
          · assumption
          · contradiction
        rw [Token.Kind.enclose_of_isFlat flat] at enclosed
        cases enclosed
        exact inner opened (by rw [closing?_deepened, if_neg opens, if_neg closes]) balanced

/-! Seams. -/

/-- A script and what follows it on the next line: the end token of the script, the tokens that
stand there instead in the script that goes on, and the end token of that one. -/
structure Seam where
  eof : Token
  first : Token
  later : List Token
  ending : Token
  finished : eof.kind = .eof
  breaks : first.Breaks

namespace Seam

/-- Two runs up to a seam, with some tokens ahead that the scripts have in common. The brackets are
closed by these. -/
structure Shares (σ : Seam) (common : List Token) (opened : Nat) (s s' : State) : Prop
    extends s.Agree s' where
  upcoming : s.upcoming = common ++ [σ.eof]
  upcoming' : s'.upcoming = common ++ σ.first :: σ.later
  finished : s.ending.kind = .eof
  ending' : s'.ending = σ.ending
  closed : enclosing opened common = some 0
  others : ∀ t ∈ common, t.kind ≠ .eof
  spelled : ∀ t ∈ common, ∀ o, t.kind = .operator o → t.literal = txt o.spelling
  final : ((s.current :: common).getLast (List.cons_ne_nil _ _)).kind.isFinal

variable {σ : Seam} {n : Nat} {t : Token} {common : List Token} {s s' : State}

namespace Shares

theorem peek (h : σ.Shares (t :: common) n s s') : s.peek = t ∧ s'.peek = t := by
  rw [State.peek, State.peek, h.upcoming, h.upcoming']
  exact ⟨rfl, rfl⟩

theorem context (h : σ.Shares common n s s') (noIn : Bool) :
    σ.Shares common n { s with noIn := noIn } { s' with noIn := noIn } :=
  { h with noIn := rfl }

theorem advance (h : σ.Shares (t :: common) n s s') {n' : Nat} (enclosed : t.kind.enclose n = some n') :
    σ.Shares common n' s.advance s'.advance := by
  have closed := h.closed
  rw [enclosing_cons, enclosed] at closed
  exact {
    current := h.peek.1.trans h.peek.2.symm
    noIn := h.noIn
    clean := h.clean
    clean' := h.clean'
    upcoming := congrArg List.tail h.upcoming
    upcoming' := congrArg List.tail h.upcoming'
    finished := h.finished
    ending' := h.ending'
    closed := closed
    others := (List.forall_mem_cons.1 h.others).2
    spelled := (List.forall_mem_cons.1 h.spelled).2
    final := by
      have final := h.final
      rw [List.getLast_cons (List.cons_ne_nil _ _)] at final
      have current : s.advance.current = t := h.peek.1
      simpa only [current] using final }

theorem splitAngle (h : σ.Shares (t :: common) n s s') {o : Operator} (known : o ∈ angled)
    (kind : t.kind = .operator o) :
    σ.Shares (Parse.afterAngle t :: common) n s.splitAngle s'.splitAngle := by
  obtain ⟨flat, final, more, spelled⟩ := afterAngle_isFinal known kind
    ((List.forall_mem_cons.1 h.spelled).1 o kind)
  have closed := h.closed
  rw [enclosing_flat (kind ▸ isFlat_of_angled known)] at closed
  exact {
    current := by rw [State.splitAngle, State.splitAngle, h.peek.1, h.peek.2]
    noIn := h.noIn
    clean := h.clean
    clean' := h.clean'
    upcoming := by rw [State.splitAngle, h.peek.1, h.upcoming]; rfl
    upcoming' := by rw [State.splitAngle, h.peek.2, h.upcoming']; rfl
    finished := h.finished
    ending' := h.ending'
    closed := (enclosing_flat flat).trans closed
    others := List.forall_mem_cons.2 ⟨more, (List.forall_mem_cons.1 h.others).2⟩
    spelled := List.forall_mem_cons.2 ⟨spelled, (List.forall_mem_cons.1 h.spelled).2⟩
    final := by
      have final' := h.final
      rw [List.getLast_cons (List.cons_ne_nil _ _)] at final' ⊢
      cases common with
      | nil => exact final.trans final'
      | cons u us =>
          rw [List.getLast_cons (List.cons_ne_nil _ _)] at final' ⊢
          exact final' }

/-- The bracket that closes the current one is among the common tokens. -/
theorem closing (h : σ.Shares common (n + 1) s s') (paren : s.current.kind = .operator .parenOpen) :
    ∃ outside r r', s.closing? = some r ∧ s'.closing? = some r' ∧ σ.Shares outside n r r' := by
  have deepened : closing?.deepened 0 s.current = 0 + 1 := by
    rw [closing?_deepened, paren]
    rfl
  obtain ⟨t, inside, outside, rfl, closes, closed, found⟩ :=
    closing?_append (paren ▸ nofun) h.others deepened h.closed
  refine ⟨outside, { s with current := t, upcoming := outside ++ [σ.eof] },
    { s' with current := t, upcoming := outside ++ σ.first :: σ.later }, ?_, ?_, ?_⟩
  · rw [State.closing?, h.upcoming, found]
    rfl
  · rw [State.closing?, ← h.current, h.upcoming', found]
    rfl
  · exact {
      current := rfl
      noIn := h.noIn
      clean := h.clean
      clean' := h.clean'
      upcoming := rfl
      upcoming' := rfl
      finished := h.finished
      ending' := h.ending'
      closed := closed
      others := fun u hu => h.others u (by simp [hu])
      spelled := fun u hu => h.spelled u (by simp [hu])
      final := by simpa [List.getLast_append] using h.final }

end Shares

/-- Up to a seam two runs are on a track. -/
def track (σ : Seam) : Track where
  holds ahead n s s' := ∃ common, σ.Shares common n s s' ∧ (ahead → common ≠ [])
  weaken := fun ⟨common, shares, _⟩ => ⟨common, shares, nofun⟩
  agree := fun ⟨_, shares, _⟩ => shares.toAgree
  context noIn := fun ⟨common, shares, more⟩ => ⟨common, shares.context noIn, more⟩
  peek := by
    rintro n s s' ⟨_ | ⟨t, common⟩, shares, more⟩
    · exact absurd rfl (more rfl)
    · exact shares.peek.1.trans shares.peek.2.symm
  advance := by
    rintro n n' s s' ⟨_ | ⟨t, common⟩, shares, more⟩ enclosed
    · exact absurd rfl (more rfl)
    · rw [shares.peek.1] at enclosed
      exact ⟨common, shares.advance enclosed, nofun⟩
  splitAngle := by
    rintro n s s' o ⟨_ | ⟨t, common⟩, shares, more⟩ known kind
    · exact absurd rfl (more rfl)
    · rw [shares.peek.1] at kind
      exact ⟨_, shares.splitAngle known kind, fun _ => List.cons_ne_nil _ _⟩
  closing := by
    rintro ahead n s s' ⟨common, shares, -⟩ paren
    obtain ⟨outside, r, r', found, found', there⟩ := shares.closing paren
    exact .inr ⟨r, r', found, found', outside, there, nofun⟩
  seam := by
    rintro n s s' ⟨_ | ⟨t, common⟩, shares, -⟩
    · refine .inr ⟨Option.some.inj shares.closed, shares.final, ?_, ?_⟩
      · rw [State.peek, shares.upcoming]
        exact .of_eof σ.finished
      · rw [State.peek, shares.upcoming']
        exact σ.breaks
    · exact .inl ⟨_, shares, fun _ => List.cons_ne_nil _ _⟩

instance : σ.track.Strict where
  strict := by
    rintro n s s' ⟨_ | ⟨t, common⟩, shares, -⟩
    · refine .inr ⟨shares.finished, ?_⟩
      rw [shares.upcoming]
      exact List.forall_mem_singleton.2 σ.finished
    · exact .inl ⟨_, shares, fun _ => List.cons_ne_nil _ _⟩

end Seam

/-! Scripts alone. -/

/-- Splitting a token leaves the brackets as they are. -/
theorem State.Genuine.splitAngle {s : State} (h : s.Genuine) {o : Operator} (known : o ∈ angled)
    (kind : s.peek.kind = .operator o) :
    s.splitAngle.Genuine ∧ ∀ n, enclosing n s.splitAngle.upcoming = enclosing n s.upcoming := by
  have sound := (h.toSound.splitAngle kind).1
  rw [State.splitAngle] at sound ⊢
  cases ahead : s.upcoming with
  | nil =>
      rw [State.peek, ahead, List.headD_nil, h.ending] at kind
      contradiction
  | cons t rest =>
      have peek : s.peek = t := by rw [State.peek, ahead, List.headD_cons]
      rw [peek] at kind
      rw [peek, ahead, List.tail_cons] at sound
      rw [peek, List.tail_cons]
      have known' := h.spelled
      rw [ahead] at known'
      obtain ⟨first, others⟩ := List.forall_mem_cons.1 known'
      obtain ⟨flat, -, -, spelled⟩ := afterAngle_isFinal known kind (first o kind)
      refine ⟨⟨sound, List.forall_mem_cons.2 ⟨spelled, others⟩⟩, fun n => ?_⟩
      rw [enclosing_flat flat, enclosing_flat (kind ▸ isFlat_of_angled known)]

/-- A run beside itself. The brackets ahead and those open at the end are as many as they were. -/
def alone (left : Option Nat) : Track where
  holds _ n s s' := s = s' ∧ s.Genuine ∧ s.complaints = [] ∧ enclosing n s.upcoming = left
  weaken := id
  agree := by
    rintro _ n s _ ⟨rfl, -, clean, -⟩
    exact ⟨rfl, rfl, clean, clean⟩
  context := by
    rintro _ n s _ noIn ⟨rfl, genuine, clean, same⟩
    exact ⟨rfl, genuine.context noIn, clean, same⟩
  peek := fun ⟨same, _⟩ => same ▸ rfl
  advance := by
    rintro n n' s _ ⟨rfl, genuine, clean, same⟩ enclosed
    exact ⟨rfl, genuine.advance, clean, (State.enclosing_advance genuine.ending enclosed).symm.trans same⟩
  splitAngle := by
    rintro n s _ o ⟨rfl, genuine, clean, same⟩ known kind
    obtain ⟨genuine, enclosed⟩ := genuine.splitAngle known kind
    exact ⟨rfl, genuine, clean, (enclosed n).trans same⟩
  closing := fun ⟨same, _⟩ _ => .inl same
  seam := .inl

instance {left : Option Nat} : (alone left).Deep :=
  ⟨id⟩

theorem alone_stands {s : State} (genuine : s.Genuine) (clean : s.complaints = []) (n : Nat) :
    (alone (enclosing n (s.current :: s.upcoming))).Stands (on n) s s := by
  refine ⟨⟨rfl, rfl, clean, clean⟩, fun n' enclosed => ⟨rfl, genuine, clean, ?_⟩⟩
  rw [enclosing_cons, enclosed]
  rfl

end CoScript.Parse
