import CoScript.Proofs.Parse.Control
import CoScript.Proofs.Parse.Layout
import CoScript.Proofs.Parse.Lists
import CoScript.Proofs.Parse.Seam
import CoScript.Proofs.Token.NextLine

/-!
Statements up to the end of a script, and on into the script that follows on the next line.
-/
namespace CoScript.Parse

open Track Footing
open Token (enclosing enclosing_append enclosing_cons enclosing_flat enclosing_nil)

/-- Without depth nothing is read. -/
theorem run_zero_ne {g : Goal} {s s' : State} {a : g.Result} : run 0 g s ≠ (some a, s') :=
  fun read => Option.some_ne_none a (congrArg Prod.fst read).symm

theorem reject_ne {α : Type} {t : Token} {f : Fault} {s s' : State} {a : α} :
    (reject t f : Parse α) s ≠ (some a, s') :=
  fun rejected => Option.some_ne_none a (congrArg Prod.fst rejected).symm

/-! Lists of statements, one by one. -/

section
variable {depth : Nat} {s s' s₁ : State} {n : Node} {ns : List Node}

theorem programItems_clean (done : run (depth + 1) .programItems s = (some ns, s'))
    (clean : s'.complaints = []) :
    s.current.kind = .eof ∧ ns = [] ∧ s' = s ∨ ∃ n s₁ ns', ns = n :: ns' ∧ s.current.kind ≠ .eof ∧
      s₁.complaints = [] ∧ run depth .statement s = (some n, s₁) ∧
      run depth .programItems s₁.advance = (some ns', s') := by
  change programItems (run depth) s = _ at done
  rw [programItems] at done
  obtain ⟨ended, _, seen, rest⟩ := bind_cases done
  cases seen
  split at rest
  · cases rest
    exact .inl ⟨eq_of_beq ‹_›, rfl, rfl⟩
  · rename_i more
    obtain ⟨first, s₁, read, rest⟩ := bind_cases rest
    obtain ⟨others, _, reads, rest⟩ := bind_cases rest
    cases rest
    have clean₁ := (run_clean reads clean).1
    obtain ⟨n, s₂, statement, found, rfl⟩ := item_clean read clean₁
    cases found
    exact .inr ⟨n, s₂, others, rfl, fun ended => more (beq_of_eq ended), clean₁, statement, reads⟩

/-- No statements are read only at the end token. -/
theorem programItems_nil_iff (done : run depth .programItems s = (some ns, s'))
    (clean : s'.complaints = []) : ns = [] ↔ s.current.kind = .eof := by
  cases depth with
  | zero => exact absurd done run_zero_ne
  | succ depth =>
      obtain ⟨ended, none, -⟩ | ⟨_, _, _, listed, more, -⟩ := programItems_clean done clean
      · exact iff_of_true none ended
      · exact iff_of_false (listed ▸ List.cons_ne_nil _ _) more

theorem currentIs_eof (s : State) : currentIs .eof s = (some (s.current.is .eof), s) :=
  rfl

theorem programItems_read (more : s.current.kind ≠ .eof) (clean : s₁.complaints = [])
    (first : run depth .statement s = (some n, s₁))
    (others : run depth .programItems s₁.advance = (some ns, s')) :
    run (depth + 1) .programItems s = (some (n :: ns), s') := by
  change programItems (run depth) s = _
  rw [programItems, bind_eq (currentIs_eof s), if_neg (by simpa [Token.is] using more),
    bind_eq (item_read first (run_clean first clean).1 clean), bind_eq others]
  rfl

end

/-- Statements are read up to the end token. -/
theorem programItems_ended {depth : Nat} {s s' : State} {ns : List Node}
    (done : run depth .programItems s = (some ns, s')) (clean : s'.complaints = []) :
    s'.current.kind = .eof := by
  induction depth generalizing s ns with
  | zero => exact absurd done run_zero_ne
  | succ depth ih =>
      obtain ⟨ended, -, rfl⟩ | ⟨_, _, _, -, -, -, -, others⟩ := programItems_clean done clean
      · exact ended
      · exact ih others

/-- The brackets of a script that is read without complaints match, and no token is illegal. -/
theorem enclosing_scan {depth : Nat} {source : Text}
    {ns : List Node} {s : State} (done : run depth .programItems (.start source) = (some ns, s))
    (clean : s.complaints = []) : enclosing 0 (Token.scan source) = some 0 := by
  obtain ⟨tokens, ending, scanned, -⟩ := Token.scan_ends source
  obtain ⟨whole, -⟩ := State.start_eq scanned
  have ended := programItems_ended done clean
  have genuine := (run_moves depth .programItems).genuine done (.start source)
  have here := alone_stands (.start source) (State.complaints_start source) 0
  rw [whole, ← scanned] at here
  obtain ⟨⟨s', again, there⟩, -⟩ := Agrees.agrees (o := on 0) done clean here
  obtain ⟨-, -, -, same⟩ := there.2 0 (by rw [show s.current.kind = .eof from ended]; rfl)
  rw [← same, genuine.toSound.upcoming_of_over ended]
  rfl

/-! Depths. -/

/-- A statement takes part of the script. -/
theorem statement_depth (depth : Nat) {s : State} (genuine : s.Genuine) (more : s.current.kind ≠ .eof) :
    Goal.statement.depth s < Goal.programItems.depth s ∧
      Goal.programItems.depth (run depth .statement s).2.advance + 3 ≤ Goal.programItems.depth s := by
  have pos : 0 < s.full := by
    have := Token.weight_pos more
    rw [State.full, Token.load_cons]
    omega
  have start : (remains s.full 2 pos).holds (.fresh 2) s := ⟨genuine.toSound, le_rfl, le_rfl⟩
  have there : (remains s.full 2 pos).holds (.fresh 2) (run depth .statement s).2 :=
    Invariant.reaches (fun _ => trivial) trivial ((run_moves depth .statement).reaches s) start
  have onward : (remains s.full 2 pos).holds .moved (run depth .statement s).2.advance :=
    (remains s.full 2 pos).advance there
  have less : (run depth .statement s).2.advance.full < s.full := onward.2
  simp only [Goal.depth, Goal.size, Goal.rank?, Option.getD_some]
  omega

/-- More depth than a phrase needs makes no difference. -/
theorem run_depth {depth depth' : Nat} {g : Goal} {s : State} (genuine : s.Genuine)
    (enough : g.depth s < depth) (enough' : g.depth s < depth') : run depth g s = run depth' g s := by
  rw [run_eq_answers depth, run_eq_answers depth']
  exact answers_eq (run 0) (run 0) genuine.toSound enough enough'

theorem depthBound_succ (source : Text) : ∃ depth, depthBound source = depth + 1 :=
  Nat.exists_eq_succ_of_ne_zero (by rw [depthBound]; omega)

/-! Last tokens. -/

/-- A statement may end with the last token before the end token. -/
def State.EndsFinal (s : State) : Prop :=
  ∃ (before : List Token) (last eof : Token), s.current :: s.upcoming = before ++ [last, eof] ∧
    last.kind.isFinal ∧ eof.kind = .eof

/-- The end token is the last one. -/
def State.Whole (s : State) : Prop :=
  ((s.current :: s.upcoming).getLast (List.cons_ne_nil _ _)).kind = .eof

theorem State.Whole.advance {s : State} (whole : s.Whole) (genuine : s.Genuine) : s.advance.Whole := by
  rw [State.Whole, State.advance, State.peek]
  rw [State.Whole] at whole
  cases ahead : s.upcoming with
  | nil => exact genuine.ending
  | cons t rest => simpa [ahead] using whole

theorem State.Whole.splitAngle {s : State} {o : Operator} (whole : s.Whole) (genuine : s.Genuine)
    (kind : s.peek.kind = .operator o) : s.splitAngle.Whole := by
  rw [State.Whole, State.splitAngle]
  rw [State.Whole] at whole
  cases ahead : s.upcoming with
  | nil =>
      rw [State.peek, ahead, List.headD_nil, genuine.ending] at kind
      contradiction
  | cons t rest =>
      rw [State.peek, ahead, List.headD_cons] at kind
      cases rest with
      | nil =>
          simp only [ahead, List.getLast_cons_cons, List.getLast_singleton] at whole
          rw [whole] at kind
          contradiction
      | cons u us => simpa [ahead] using whole

theorem Move.whole {s s' : State} (h : Move s s') (genuine : s.Genuine) (whole : s.Whole) :
    s'.Whole := by
  have complained (t : Token) (f : Fault) : (s.complain t f).Whole := by
    obtain ⟨complaints, -, same⟩ := s.complain_eq t f
    rwa [same]
  cases h with
  | advance => exact whole.advance genuine
  | complain t f => exact complained t f
  | context noIn => exact whole
  | angle =>
      obtain ⟨-, taken⟩ | ⟨o, -, kind, taken⟩ | missed := expectAngleClose_cases s
      · exact taken ▸ whole.advance genuine
      · exact taken ▸ whole.splitAngle genuine kind
      · exact missed ▸ complained _ _

theorem State.EndsFinal.of_advance {s : State} (final : s.advance.EndsFinal) : s.EndsFinal := by
  obtain ⟨before, last, eof, same, final⟩ := final
  rw [State.advance, State.peek] at same
  cases ahead : s.upcoming with
  | nil =>
      rw [ahead] at same
      simpa using congrArg List.length same
  | cons t rest =>
      refine ⟨s.current :: before, last, eof, ?_, final⟩
      rw [ahead, List.cons_append, ← same, ahead]
      rfl

/-- What is left of a longer operator may be the last token of a statement just as the operator may. -/
theorem State.EndsFinal.of_splitAngle {s : State} {o : Operator} (final : s.splitAngle.EndsFinal)
    (genuine : s.Genuine) (known : o ∈ angled) (kind : s.peek.kind = .operator o) :
    s.EndsFinal := by
  obtain ⟨before, last, eof, same, final, ended⟩ := final
  rw [State.splitAngle] at same
  cases ahead : s.upcoming with
  | nil =>
      rw [State.peek, ahead, List.headD_nil, genuine.ending] at kind
      contradiction
  | cons t rest =>
      have peek : s.peek = t := by rw [State.peek, ahead, List.headD_cons]
      rw [peek] at kind
      rw [peek, ahead, List.tail_cons] at same
      obtain ⟨-, final', more, -⟩ := Token.afterAngle_isFinal known kind
        (genuine.spelled t (by simp [ahead]) o kind)
      rw [State.EndsFinal, ahead]
      cases before with
      | nil =>
          simp only [List.nil_append, List.cons.injEq] at same
          obtain ⟨-, rfl, -⟩ := same
          exact absurd ended more
      | cons u before =>
          cases before with
          | nil =>
              simp only [List.cons_append, List.nil_append, List.cons.injEq] at same
              obtain ⟨-, rfl, rfl⟩ := same
              exact ⟨[s.current], t, eof, rfl, final' ▸ final, ended⟩
          | cons v before =>
              simp only [List.cons_append, List.cons.injEq] at same
              obtain ⟨-, -, rfl⟩ := same
              exact ⟨s.current :: t :: before, last, eof, rfl, final, ended⟩

/-- Whether a statement may end with the last token is known from the beginning. -/
theorem Move.endsFinal {s s' : State} (h : Move s s') (genuine : s.Genuine) (final : s'.EndsFinal) :
    s.EndsFinal := by
  have complained (t : Token) (f : Fault) (final : (s.complain t f).EndsFinal) : s.EndsFinal := by
    obtain ⟨complaints, -, same⟩ := s.complain_eq t f
    rwa [same] at final
  cases h with
  | advance => exact final.of_advance
  | complain t f => exact complained t f final
  | context noIn => exact final
  | angle =>
      obtain ⟨-, taken⟩ | ⟨o, known, kind, taken⟩ | missed := expectAngleClose_cases s
      · exact (taken ▸ final).of_advance
      · exact (taken ▸ final).of_splitAngle genuine known kind
      · exact complained _ _ (missed ▸ final)

/-- Where statements are read up to the end token, one may end with the token before it. -/
theorem endsFinal_of_read {depth : Nat} {s s' : State} {n : Node} {ns : List Node} (genuine : s.Genuine)
    (whole : s.Whole) (done : run depth .programItems s = (some (n :: ns), s'))
    (clean : s'.complaints = []) : s.EndsFinal := by
  induction depth generalizing s n ns with
  | zero => exact absurd done run_zero_ne
  | succ depth ih =>
      obtain ⟨-, none, -⟩ | ⟨n, s₁, ns, listed, more, clean₁, first, others⟩ := programItems_clean done clean
      · contradiction
      cases listed
      have moves := (run_moves depth .statement).reaches s
      rw [first] at moves
      have invariant : s₁.Genuine ∧ s₁.Whole ∧ (s₁.EndsFinal → s.EndsFinal) :=
        moves.preserves (I := fun r => r.Genuine ∧ r.Whole ∧ (r.EndsFinal → s.EndsFinal))
          (fun _ _ move there => ⟨move.genuine there.1, move.whole there.1 there.2.1,
            fun final => there.2.2 (move.endsFinal there.1 final)⟩)
          ⟨genuine, whole, id⟩
      obtain ⟨genuine₁, whole₁, back⟩ := invariant
      refine back ?_
      cases ns with
      | cons n' ns =>
          exact (ih genuine₁.advance (whole₁.advance genuine₁) others).of_advance
      | nil =>
          have clean₀ := (run_clean first clean₁).1
          obtain ⟨⟨r, again, there⟩, -⟩ := Agrees.agrees (o := past true 0) first clean₁
            (alone_stands genuine clean₀ 0)
          have final := there.2 rfl
          have ended : s₁.peek.kind = .eof := (programItems_nil_iff others clean).1 rfl
          cases ahead : s₁.upcoming with
          | nil =>
              simp only [State.Whole, ahead, List.getLast_singleton] at whole₁
              exact absurd whole₁ (Token.Kind.ne_eof_of_isFinal final)
          | cons eof rest =>
              rw [State.peek, ahead, List.headD_cons] at ended
              have last := genuine₁.last
              rw [ahead] at last
              cases rest with
              | nil => exact ⟨[], s₁.current, eof, by rw [ahead]; rfl, final, ended⟩
              | cons u us => exact absurd ended (last eof (by simp))

/-! Past the seam. -/

/-- Where the script goes on behind a seam. -/
def Seam.sequel (σ : Seam) : State where
  current := σ.first
  upcoming := σ.later
  ending := σ.ending

/-- At a seam the script goes on. -/
theorem Seam.Shares.advance_eq {σ : Seam} {opened : Nat} {s s' : State} (shares : σ.Shares [] opened s s')
    (inside : s.noIn = false) : s'.advance = σ.sequel := by
  have upcoming := shares.upcoming'
  have ending := shares.ending'
  have clean := shares.clean'
  have noIn := shares.noIn.symm.trans inside
  rcases s' with ⟨current, _, _, _, _⟩
  cases upcoming
  cases ending
  cases clean
  cases noIn
  rfl

/-- Statements up to a seam are read, and then those behind it. -/
theorem programItems_seam {σ : Seam} {items : List Node} {r : State}
    (sequel : ∀ depth, Goal.programItems.depth σ.sequel < depth →
      run depth .programItems σ.sequel = (some items, r))
    {depth depth' : Nat} {s s' s₁ : State} {ns : List Node} (genuine : s.Genuine) (genuine' : s'.Genuine)
    (more : s.current.kind ≠ .eof) (inside : s.noIn = false) (stands : σ.track.Stands (on 0) s s')
    (enough : Goal.programItems.depth s < depth) (enough' : Goal.programItems.depth s' < depth')
    (done : run depth .programItems s = (some ns, s₁)) (clean : s₁.complaints = []) :
    run depth' .programItems s' = (some (ns ++ items), r) := by
  induction depth generalizing depth' s s' ns with
  | zero => exact absurd enough (Nat.not_lt_zero _)
  | succ depth ih =>
      obtain ⟨depth', rfl⟩ := Nat.exists_eq_succ_of_ne_zero (Nat.ne_zero_of_lt enough')
      obtain ⟨ended, -⟩ | ⟨n, s₂, others, rfl, -, clean₂, first, rest⟩ := programItems_clean done clean
      · exact absurd ended more
      have more' : s'.current.kind ≠ .eof := stands.agree.current ▸ more
      -- Both runs have depth enough for the statement, and it is read alike in a run that has more.
      obtain ⟨statement, further⟩ := statement_depth depth genuine more
      obtain ⟨statement', further'⟩ := statement_depth depth' genuine' more'
      have deep := Nat.le_max_left depth depth'
      have deep' := Nat.le_max_right depth depth'
      have read : run (max depth depth') .statement s = (some n, s₂) :=
        (run_depth genuine (by omega) (by omega)).trans first
      obtain ⟨⟨s₂', read', there⟩, context⟩ := Agrees.agrees (o := past true 0) read clean₂ stands
      have first' : run depth' .statement s' = (some n, s₂') :=
        (run_depth genuine' (by omega) (by omega)).trans read'
      rw [first] at further
      rw [first'] at further'
      dsimp only at further further'
      have inside₂ : s₂.noIn = false := Bool.eq_false_iff.2 fun noIn =>
        Bool.eq_false_iff.1 inside (context noIn)
      have genuine₂ := (run_moves depth .statement).genuine first genuine
      have genuine₂' := (run_moves depth' .statement).genuine first' genuine'
      refine programItems_read more' there.agree.clean' first' ?_
      obtain ⟨common, shares, -⟩ := there.1
      cases common with
      | cons t common =>
          -- There are more statements before the seam.
          have other : s₂.advance.current.kind ≠ .eof :=
            show s₂.peek.kind ≠ .eof from shares.peek.1 ▸ (List.forall_mem_cons.1 shares.others).1
          exact ih genuine₂.advance genuine₂'.advance other inside₂
            (stands_advance ⟨t :: common, shares, fun _ => List.cons_ne_nil _ _⟩) (by omega) (by omega) rest
      | nil =>
          -- The first script is over.
          have eof : s₂.advance.current.kind = .eof := by
            rw [State.advance, State.peek, shares.upcoming]
            exact σ.finished
          have none : others = [] := (programItems_nil_iff rest clean).2 eof
          have next := shares.advance_eq inside₂
          rw [none, next]
          rw [next] at further'
          exact sequel depth' (by omega)

/-! Scripts. -/

theorem script_clean {source : Text} (clean : (script source).complaints = []) :
    ∃ ns s, run (depthBound source) .programItems (.start source) = (some ns, s) ∧
      s.complaints = [] ∧ (script source).program = .program ns := by
  rw [script] at clean ⊢
  generalize outcome : run (depthBound source) .programItems (.start source) = r at clean ⊢
  obtain ⟨items, s⟩ := r
  obtain ⟨ns, rfl⟩ := Option.isSome_iff_exists.1 (run_clean outcome clean).2
  exact ⟨ns, s, rfl, clean, rfl⟩

theorem script_eq {source : Text} {ns : List Node} {s : State}
    (done : run (depthBound source) .programItems (.start source) = (some ns, s)) :
    script source = ⟨.program ns, s.complaints⟩ := by
  rw [script, done]
  rfl

/-- The tokens from some place on are those of a script, too. -/
theorem State.Genuine.drop {s : State} (h : s.Genuine) {before rest : List Token} {t : Token}
    (split : s.current :: s.upcoming = before ++ t :: rest) :
    State.Genuine { s with current := t, upcoming := rest } := by
  have last := h.last
  rw [split, List.dropLast_append_cons] at last
  refine ⟨⟨h.ending, fun u hu => last u (List.mem_append_right _ hu)⟩, fun u hu => h.spelled u ?_⟩
  cases before with
  | nil =>
      cases split
      exact hu
  | cons c before =>
      obtain ⟨-, same⟩ := List.cons.inj split
      rw [same]
      simp [hu]

/-- A script starts with its tokens, with `in` as an operator and no complaints. -/
theorem State.start_fields {source : Text} {t : Token} {rest : List Token}
    (scanned : Token.scan source = t :: rest) : State.start source =
      { current := t, upcoming := rest, ending := (State.start source).ending } := by
  rw [State.start, scanned]

/-- Two scripts that begin with the same tokens are on a track from the start. -/
theorem Seam.stands_start {σ : Seam} {a whole : Text} {t : Token} {tokens : List Token} {ns : List Node}
    {s : State} (scanned : Token.scan a = t :: (tokens ++ [σ.eof]))
    (scanned' : Token.scan whole = t :: (tokens ++ σ.first :: σ.later))
    (ending : (State.start whole).ending = σ.ending) (others : ∀ u ∈ t :: tokens, u.kind ≠ .eof)
    (done : run (depthBound a) .programItems (.start a) = (some ns, s)) (clean : s.complaints = []) :
    σ.track.Stands (on 0) (.start a) (.start whole) := by
  obtain ⟨more, others⟩ := List.forall_mem_cons.1 others
  have genuine := State.Genuine.start a
  have closed := enclosing_scan done clean
  have final : (State.start a).EndsFinal := by
    have some : ns ≠ [] := by
      rw [Ne, programItems_nil_iff done clean, State.start_fields scanned]
      exact more
    obtain ⟨n, ns, rfl⟩ := List.exists_cons_of_ne_nil some
    refine endsFinal_of_read genuine ?_ done clean
    rw [State.start_fields scanned]
    simp [State.Whole, σ.finished]
  obtain ⟨before, last, eof, same, final, -⟩ := final
  have spelled := genuine.spelled
  have finished := genuine.ending
  rw [State.start_fields scanned] at same spelled ⊢
  rw [State.start_fields scanned']
  refine ⟨⟨rfl, rfl, rfl, rfl⟩, fun n' enclosed => ⟨tokens, ?_, fun more => absurd more Bool.false_ne_true⟩⟩
  exact {
    current := rfl
    noIn := rfl
    clean := rfl
    clean' := rfl
    upcoming := rfl
    upcoming' := rfl
    finished := finished
    ending' := ending
    closed := by
      rw [scanned, enclosing_cons, enclosed, Option.bind_some, enclosing_append] at closed
      obtain ⟨n, closed, rest⟩ := Option.bind_eq_some_iff.1 closed
      rw [enclosing_flat (by rw [σ.finished]), enclosing_nil] at rest
      cases rest
      exact closed
    others := others
    spelled := fun u hu => spelled u (List.mem_append_left _ hu)
    final := by
      have same : (t :: tokens) ++ [σ.eof] = (before ++ [last]) ++ [eof] := by simpa using same
      obtain ⟨same, -⟩ := List.append_inj' same rfl
      simpa [same] using final }

/-- A script is read alike where it goes on behind a seam, with every depth that is enough there. -/
theorem sequel_read {σ : Seam} {b : Text} (genuine : σ.sequel.Genuine)
    (echoes : (State.start b).Echoes σ.sequel) (clean : (script b).complaints = []) :
    ∃ ms ms' r, (script b).program = .program ms ∧ Node.Alike (.program ms) (.program ms') ∧
      r.complaints = [] ∧ ∀ depth, Goal.programItems.depth σ.sequel < depth →
        run depth .programItems σ.sequel = (some ms', r) := by
  obtain ⟨ms, r, done, cleanly, program⟩ := script_clean clean
  let depth := max (depthBound b) (Goal.programItems.depth σ.sequel + 1)
  have together : Together echoing .moved (run depth .programItems) (run depth .programItems) :=
    (run_answer echoing_even depth).goal rfl trivial
  obtain ⟨items, states⟩ := together.run echoes
  rw [run_start (Nat.le_max_left _ _), done] at items states
  generalize sequel : run depth .programItems σ.sequel = r' at items states
  obtain ⟨read, r'⟩ := r'
  have long := Together.length_complaints (C := echoing) states
  rw [cleanly] at long
  have cleanly' : r'.complaints = [] := List.eq_nil_of_length_eq_zero long.symm
  obtain ⟨none, -⟩ | ⟨both, some, some'⟩ := items.option_cases
  · contradiction
  cases some
  cases some'
  have trees : both.left.map (Node.mapTokens written.view) =
      both.right.map (Node.mapTokens written.view) := both.related.eq
  have alike : Related written (Node.program both.left) (Node.program both.right) :=
    .plain (congrArg Node.program (by simpa using trees)) rfl rfl
  refine ⟨both.left, both.right, r', program, Node.alike_of_related (h := alike), cleanly', fun depth' enough => ?_⟩
  exact (run_depth genuine enough (Nat.lt_of_lt_of_le (Nat.lt_succ_self _) (Nat.le_max_right _ _))).trans sequel

/-- A script that goes on behind a seam is read as the script up to there, and then what is behind it. -/
theorem programItems_whole {σ : Seam} {a whole : Text} {tokens : List Token} {ns items : List Node}
    {s r : State} (scanned : Token.scan a = tokens ++ [σ.eof])
    (scanned' : Token.scan whole = tokens ++ σ.first :: σ.later)
    (ending : (State.start whole).ending = σ.ending) (others : ∀ t ∈ tokens, t.kind ≠ .eof)
    (done : run (depthBound a) .programItems (.start a) = (some ns, s)) (clean : s.complaints = [])
    (sequel : ∀ depth, Goal.programItems.depth σ.sequel < depth →
      run depth .programItems σ.sequel = (some items, r)) :
    run (depthBound whole) .programItems (.start whole) = (some (ns ++ items), r) := by
  cases tokens with
  | nil =>
      -- The first script has no tokens.
      have none : ns = [] := by
        rw [programItems_nil_iff done clean, State.start_fields scanned]
        exact σ.finished
      have start : State.start whole = σ.sequel := by
        rw [State.start_fields scanned', ending]
        rfl
      have enough := depth_start whole
      rw [start] at enough
      rw [none, start]
      exact sequel _ enough
  | cons t tokens =>
      have stands : σ.track.Stands (on 0) (State.start a) (State.start whole) :=
        Seam.stands_start scanned scanned' ending others done clean
      have more : (State.start a).current.kind ≠ .eof := by
        rw [State.start_fields scanned]
        exact (List.forall_mem_cons.1 others).1
      have inside : (State.start a).noIn = false := by
        rw [State.start_fields scanned]
      exact programItems_seam sequel (.start a) (.start whole) more inside stands (depth_start a)
        (depth_start whole) done clean

/-- What is read of two scripts on their own is read of them one after the other, if the second one begins
on a line of its own with a token that only begins statements. -/
theorem script_sequel {a b whole : Text} {tokens later : List Token} {eof first : Token}
    (scanned : Token.scan a = tokens ++ [eof]) (scanned' : Token.scan whole = tokens ++ first :: later)
    (breaks : first.Breaks)
    (echoes : (State.start b).Echoes
      { current := first, upcoming := later, ending := (State.start whole).ending })
    (clean : (script a).complaints = []) (clean' : (script b).complaints = []) :
    (script whole).complaints = [] ∧ ∃ ns ms ms', (script a).program = .program ns ∧
      (script b).program = .program ms ∧ (script whole).program = .program (ns ++ ms') ∧
      Node.Alike (.program ms) (.program ms') := by
  obtain ⟨tokens', eof', scanned'', finished, others⟩ := Token.scan_ends a
  obtain ⟨rfl, ends⟩ := List.append_inj' (scanned.symm.trans scanned'') rfl
  cases ends
  let σ : Seam := ⟨eof, first, later, (State.start whole).ending, finished, breaks⟩
  have genuine : σ.sequel.Genuine := by
    obtain ⟨_, _, ends, -⟩ := Token.scan_ends whole
    have there := (State.Genuine.start whole).drop ((State.start_eq ends).1.trans (ends.symm.trans scanned'))
    exact ⟨⟨there.ending, there.last⟩, there.spelled⟩
  obtain ⟨ns, s, done, cleanly, program⟩ := script_clean clean
  obtain ⟨ms, ms', r, program', alike, cleanly', sequel⟩ := sequel_read (σ := σ) genuine echoes clean'
  have outcome := script_eq (programItems_whole (σ := σ) scanned scanned' rfl others done cleanly sequel)
  exact ⟨by rw [outcome]; exact cleanly', ns, ms, ms', program, program', by rw [outcome], alike⟩

/-! Lines. -/

/-- An expression begins with a token that may begin a statement, or go on from the line before. -/
theorem operand_begins {self : Recur} {s s' : State} {n : Node} (done : operand self s = (some n, s')) :
    s.current.kind.begins ∨ s.current.kind.continues := by
  rw [operand] at done
  obtain ⟨t, _, seen, rest⟩ := bind_cases done
  cases seen
  generalize s.current.kind = k at rest ⊢
  cases k with
  | operator o => cases o <;> first | exact .inl rfl | exact .inr rfl | exact (reject_ne rest).elim
  | keyword k => cases k <;> first | exact .inl rfl | exact (reject_ne rest).elim
  | _ => first | exact .inl rfl | exact .inr rfl | exact (reject_ne rest).elim

theorem expressionStatement_begins {depth : Nat} {s s' : State} {n : Node}
    (done : expressionStatement (run depth) s = (some n, s')) :
    s.current.kind.begins ∨ s.current.kind.continues := by
  rw [expressionStatement] at done
  obtain ⟨t, _, seen, rest⟩ := bind_cases done
  cases seen
  obtain ⟨e, s₁, read, -⟩ := bind_cases rest
  cases depth with
  | zero => exact absurd read run_zero_ne
  | succ depth =>
      change expression (run depth) _ s = _ at read
      rw [expression] at read
      obtain ⟨left, s₂, first, -⟩ := bind_cases read
      exact operand_begins first

/-- So does a statement. -/
theorem statement_begins {depth : Nat} {s s' : State} {n : Node}
    (done : run depth .statement s = (some n, s')) :
    s.current.kind.begins ∨ s.current.kind.continues := by
  cases depth with
  | zero => exact absurd done run_zero_ne
  | succ depth =>
      change statement (run depth) s = _ at done
      rw [statement] at done
      obtain ⟨t, _, seen, rest⟩ := bind_cases done
      cases seen
      generalize kind : s.current.kind = k at rest ⊢
      have reads (rest : expressionStatement (run depth) s = (some n, s')) : k.begins ∨ k.continues :=
        kind ▸ expressionStatement_begins rest
      cases k with
      | operator o =>
          cases o <;> first | exact .inl rfl | exact .inr rfl | exact (reject_ne rest).elim | exact reads rest
      | keyword k => cases k <;> first | exact .inl rfl | exact (reject_ne rest).elim | exact reads rest
      | _ => first | exact .inl rfl | exact .inr rfl | exact reads rest

/-- The end token of a script, as it is met again and again. -/
theorem State.start_ending {source : Text} (before : List Token) {rest : List Token} {t : Token}
    (scanned : Token.scan source = before ++ t :: rest) : (State.start source).ending =
      { (t :: rest).getLast (List.cons_ne_nil t rest) with newlineBefore := false } := by
  cases before with
  | nil =>
      rw [State.start, scanned]
      rfl
  | cons c before =>
      rw [State.start, scanned]
      simp

/-- Automatic semicolons: a script is read as it is by itself where another one follows on the next line,
and so is that one, unless it begins with a token that goes on from the line before. -/
theorem script_nextLine {a b : Text} (clean : (script a).complaints = [])
    (clean' : (script b).complaints = [])
    (apart : ∀ t ∈ (Token.scan b).head?, t.kind.continues = false) :
    (script (a ++ b.nextLine)).complaints = [] ∧ ∃ ns ms ms', (script a).program = .program ns ∧
      (script b).program = .program ms ∧ (script (a ++ b.nextLine)).program = .program (ns ++ ms') ∧
      Node.Alike (.program ms) (.program ms') := by
  obtain ⟨ns, s, done, cleanly, -⟩ := script_clean clean
  obtain ⟨ms, r, done', cleanly', -⟩ := script_clean clean'
  have legal := Token.legal_of_enclosing (enclosing_scan done cleanly)
  have legal' := Token.legal_of_enclosing (enclosing_scan done' cleanly')
  have scanned : Token.scan b = (Scanner.next { rest := b }).1 :: (Token.scan b).tail := by
    rw [Token.scan, Scanner.collect]
    dsimp only
    split <;> rfl
  have mem : (Scanner.next { rest := b }).1 ∈ Token.scan b := scanned ▸ List.mem_cons_self
  have goes : (Scanner.next { rest := b }).1.kind.continues = false := apart _ (by rw [scanned]; rfl)
  have begins : (Scanner.next { rest := b }).1.kind.begins := by
    have current : (State.start b).current = (Scanner.next { rest := b }).1 := by
      rw [State.start_fields scanned]
    rw [← current] at goes ⊢
    by_cases ended : (State.start b).current.kind = .eof
    · rw [ended]
    · obtain ⟨depth, found⟩ := depthBound_succ b
      rw [found] at done'
      obtain ⟨finished, -⟩ | ⟨n, _, _, -, -, -, first, -⟩ := programItems_clean done' cleanly'
      · exact absurd finished ended
      · exact (statement_begins first).resolve_right (Bool.eq_false_iff.1 goes)
  have regex : (Scanner.next { rest := b }).1.kind ≠ .regex := by
    intro kind
    rw [kind] at goes
    contradiction
  obtain ⟨tokens, ending, first, later, before, whole, echoes⟩ :=
    Scanner.collect_nextLine (s := { rest := a }) (Nat.lt_succ_self _) (Nat.lt_succ_self _) legal
      (legal' _ mem) regex
  have whole : Token.scan (a ++ b.nextLine) = tokens ++ first :: later := whole
  obtain ⟨⟨kind, literal, raw, line⟩, rest⟩ := List.forall₂_cons.1 echoes
  refine script_sequel before whole ⟨kind ▸ begins, .inr line.symm⟩ ?_ clean clean'
  rw [State.start_fields scanned]
  refine ⟨related_written kind literal raw, rest, ?_, rfl, .nil⟩
  have last := echo_getLast echoes (List.cons_ne_nil _ _) (List.cons_ne_nil _ _)
  rw [State.start_ending [] scanned, State.start_ending tokens whole]
  cases tail : (Token.scan b).tail with
  | nil | cons =>
      rw [tail] at last
      exact ⟨last.kind, last.literal, last.raw, rfl⟩

end CoScript.Parse
