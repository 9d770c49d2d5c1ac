import Mathlib.Algebra.GroupWithZero.Nat
import CoScript.Proofs.Parse.Ending
import CoScript.Proofs.Parse.Invariant
import CoScript.Proofs.Parse.Start
import CoScript.Proofs.Token.Template

/-!
The parser comes to an end. What is left of a script is counted by tokens, and a template counts for as
much as a script of its own. A rule of the grammar asks for other phrases only where less is left, or for
phrases of a lower rank, so the depth of nesting is bounded by what is left when a phrase begins, and
what happens at the bound does not matter.
-/
namespace CoScript

/-! What tokens count for. -/

namespace Token

/-- What a token counts for. The substitutions of a template are scripts of their own, and the end token
may be taken again and again. -/
def weight (t : Token) : Nat :=
  match t.kind with
  | .eof => 0
  | .template => t.literal.length + 1
  | _ => 1

theorem weight_pos {t : Token} (h : t.kind ≠ .eof) : 0 < t.weight := by
  unfold weight
  split <;> simp_all

theorem weight_of_eof {t : Token} (h : t.kind = .eof) : t.weight = 0 := by
  rw [weight, h]

/-- What a list of tokens counts for. -/
def load (ts : List Token) : Nat :=
  (ts.map weight).sum

@[simp] theorem load_nil : load [] = 0 := rfl

@[simp] theorem load_cons (t : Token) (ts : List Token) : load (t :: ts) = t.weight + load ts := by
  simp [load]

theorem load_eq_zero {ts : List Token} (h : load ts = 0) : ∀ t ∈ ts, t.kind = .eof := by
  induction ts with
  | nil => nofun
  | cons u us ih =>
      rw [load_cons, Nat.add_eq_zero_iff] at h
      refine List.forall_mem_cons.2 ⟨?_, ih h.2⟩
      by_contra some
      exact Nat.ne_of_gt (weight_pos some) h.1

end Token

/-- A token counts for no more than the glyphs it takes. -/
theorem Scanner.weight_next (s : Scanner) :
    s.next.1.weight + s.next.2.rest.length ≤ s.rest.length := by
  obtain ⟨broken, trivia, takes⟩ := s.next_takes
  have long := congrArg List.length takes.split
  rw [List.length_append, List.length_append] at long
  rw [Token.weight]
  split
  · omega
  · rename_i kind
    have means := takes.means
    rw [kind] at means
    have closed := congrArg List.length (show s.next.1.raw = _ from means)
    rw [List.length_cons, List.length_append, List.length_singleton] at closed
    omega
  · rename_i some _
    have := s.rest_lt_of_next some
    omega

/-- The tokens of a script count for no more than its glyphs. -/
theorem Token.load_collect (limit : Nat) (s : Scanner) :
    load (Scanner.collect limit s) ≤ s.rest.length := by
  induction limit generalizing s with
  | zero => exact Nat.zero_le _
  | succ limit ih =>
      have le := s.weight_next
      rw [Scanner.collect]
      dsimp only
      split
      · rw [load_cons, load_nil]
        omega
      · have rest := ih s.next.2
        rw [load_cons]
        omega

namespace Parse

/-- What the current token and the tokens ahead count for. -/
def State.full (s : State) : Nat :=
  Token.load (s.current :: s.upcoming)

/-- What the tokens ahead count for. -/
def State.ahead (s : State) : Nat :=
  Token.load s.upcoming

/-- The end token comes last, and again whenever a token is taken after it. -/
structure State.Sound (s : State) : Prop where
  ending : s.ending.kind = .eof
  last : ∀ t ∈ (s.current :: s.upcoming).dropLast, t.kind ≠ .eof

namespace State.Sound

variable {s : State}

theorem upcoming_of_over (h : s.Sound) (finished : s.current.kind = .eof) : s.upcoming = [] := by
  cases ahead : s.upcoming with
  | nil => rfl
  | cons t rest => exact absurd finished (h.last s.current (by simp [ahead]))

theorem ahead_lt (h : s.Sound) {n : Nat} (pos : 0 < n) (le : s.full ≤ n) : s.ahead < n := by
  by_cases finished : s.current.kind = .eof
  · rw [ahead, h.upcoming_of_over finished]
    exact pos
  · have := Token.weight_pos finished
    rw [full, Token.load_cons] at le
    rw [ahead]
    omega

theorem full_advance (h : s.Sound) : s.advance.full = s.ahead := by
  rw [full, ahead, advance, peek]
  cases s.upcoming with
  | nil => simp [Token.weight_of_eof h.ending]
  | cons t rest => simp

theorem advance (h : s.Sound) : s.advance.Sound where
  ending := h.ending
  last := by
    have last := h.last
    rw [State.advance, peek]
    cases ahead : s.upcoming with
    | nil => simp
    | cons t rest =>
        intro u hu
        refine last u ?_
        rw [ahead, List.dropLast_cons_cons]
        exact List.mem_cons_of_mem _ hu

theorem weight_peek (h : s.Sound) : s.peek.weight ≤ s.ahead := by
  rw [peek, ahead]
  cases s.upcoming with
  | nil => simp [Token.weight_of_eof h.ending]
  | cons t rest => simp

theorem complain (h : s.Sound) (t : Token) (f : Fault) : (s.complain t f).Sound := by
  obtain ⟨complaints, -, same⟩ := s.complain_eq t f
  rw [same]
  exact ⟨h.ending, h.last⟩

/-- Splitting a token makes no more of what is left. -/
theorem splitAngle (h : s.Sound) {o : Operator} (kind : s.peek.kind = .operator o) :
    s.splitAngle.Sound ∧ s.splitAngle.full ≤ s.full ∧ s.splitAngle.ahead = s.ahead := by
  have rest : (afterAngle s.peek).kind ≠ .eof ∧ (afterAngle s.peek).weight = 1 := by
    have : (afterAngle s.peek).kind ≠ .eof ∧ (afterAngle s.peek).kind ≠ .template := by
      rw [afterAngle]
      dsimp only
      split <;> exact ⟨by rintro ⟨⟩, by rintro ⟨⟩⟩
    refine ⟨this.1, ?_⟩
    unfold Token.weight
    split <;> simp_all
  cases ahead : s.upcoming with
  | nil =>
      have finished := h.ending
      rw [peek, ahead, List.headD_nil, finished] at kind
      cases kind
  | cons t ts =>
      have first := h.last s.current (by simp [ahead])
      have last := h.last
      have pos := Token.weight_pos first
      have weight : t.weight = 1 := by
        rw [peek, ahead, List.headD_cons] at kind
        rw [Token.weight, kind]
      have weight' : (angle s.peek).weight = 1 := rfl
      refine ⟨⟨h.ending, ?_⟩, ?_, ?_⟩
      · rw [ahead, List.dropLast_cons_cons] at last
        rw [State.splitAngle, ahead, List.tail_cons]
        have first : (angle s.peek).kind ≠ .eof := by rintro ⟨⟩
        cases ts with
        | nil => exact List.forall_mem_singleton.2 first
        | cons u us =>
            simp only [List.dropLast_cons_cons] at last ⊢
            have later := (List.forall_mem_cons.1 (List.forall_mem_cons.1 last).2).2
            exact List.forall_mem_cons.2 ⟨first, List.forall_mem_cons.2 ⟨rest.1, later⟩⟩
      · simp only [full, State.splitAngle, ahead, List.tail_cons, Token.load_cons, rest.2, weight',
          weight]
        omega
      · simp only [State.ahead, State.splitAngle, ahead, List.tail_cons, Token.load_cons, rest.2, weight]

theorem start (source : Text) :
    (State.start source).Sound ∧ (State.start source).full ≤ source.length := by
  obtain ⟨tokens, ending, scanned, finished, others⟩ := Token.scan_ends source
  obtain ⟨whole, same⟩ := State.start_eq scanned
  refine ⟨⟨by rw [same]; exact finished, ?_⟩, ?_⟩
  · rwa [whole, List.dropLast_concat]
  · rw [full, whole, ← scanned]
    exact Token.load_collect _ _

end State.Sound

open Phase (Admits Next)

/-! The bound. -/

/-- What is left of the script when a phrase begins. -/
def Goal.size (g : Goal) (s : State) : Nat :=
  match g.rank? with
  | some _ => s.full
  | none => s.ahead

/-- The depth of nesting that a phrase needs. -/
def Goal.depth (g : Goal) (s : State) : Nat :=
  3 * g.size s + g.rank?.getD 1

/-- No more is left than when a phrase of a certain rank began, and less is left once something was
taken. -/
def remains (n rank : Nat) (pos : 0 < n) : Invariant where
  good t := t.weight ≤ n
  shown _ := True
  shown_of_good _ := trivial
  holds φ s := s.Sound ∧
    match φ with
    | .before => s.ahead ≤ n ∧ 1 ≤ rank
    | .fresh r => s.full ≤ n ∧ r ≤ rank
    | .moved => s.full < n
  current := by
    intro φ s admits ⟨_, left⟩
    have le : s.current.weight ≤ s.full := by simp [State.full]
    cases φ with
    | before => exact admits.admits.elim
    | fresh => exact le.trans left.1
    | moved => exact le.trans (Nat.le_of_lt left)
  peek := by
    intro φ s ⟨sound, left⟩
    have le := sound.weight_peek
    have : s.ahead ≤ s.full := by simp [State.ahead, State.full]
    cases φ with
    | before => exact le.trans left.1
    | fresh => exact le.trans (this.trans left.1)
    | moved => exact le.trans (this.trans (Nat.le_of_lt left))
  context noIn := fun ⟨sound, left⟩ => ⟨⟨sound.ending, sound.last⟩, left⟩
  complain := by
    intro φ s t f ⟨sound, left⟩ _ _
    refine ⟨sound.complain t f, ?_⟩
    obtain ⟨complaints, -, same⟩ := s.complain_eq t f
    rw [same]
    exact left
  advance := by
    intro φ ψ s next ⟨sound, left⟩
    refine ⟨sound.advance, ?_⟩
    have full := sound.full_advance
    have le : s.ahead ≤ s.full := by simp [State.ahead, State.full]
    cases φ with
    | before =>
        obtain rfl : ψ = .fresh 1 := next.next
        exact ⟨full ▸ left.1, left.2⟩
    | fresh r =>
        obtain rfl : ψ = .moved := next.next
        show s.advance.full < n
        rw [full]
        exact sound.ahead_lt pos left.1
    | moved =>
        obtain rfl : ψ = .moved := next.next
        show s.advance.full < n
        rw [full]
        exact Nat.lt_of_le_of_lt le left
  back := by
    intro φ ψ s r next ⟨_, left⟩ ⟨sound, left'⟩
    refine ⟨sound, ?_⟩
    have le : r.ahead ≤ r.full := by simp [State.ahead, State.full]
    cases φ with
    | before =>
        obtain rfl : ψ = .fresh 1 := next.next
        exact ⟨le.trans left'.1, left.2⟩
    | fresh r =>
        obtain rfl : ψ = .moved := next.next
        exact ⟨Nat.le_of_lt left', left.2⟩
    | moved =>
        obtain rfl : ψ = .moved := next.next
        exact left'
  splitAngle := by
    intro φ s admits o ho kind ⟨sound, left⟩
    obtain ⟨sound', full, -⟩ := sound.splitAngle kind
    refine ⟨sound', ?_⟩
    cases φ with
    | before => exact admits.admits.elim
    | fresh => exact ⟨full.trans left.1, left.2⟩
    | moved => exact Nat.lt_of_le_of_lt full left
  start := by
    intro t body source good kind parts mem
    obtain ⟨sound, full⟩ := State.Sound.start source
    refine ⟨sound, Nat.lt_of_le_of_lt full ?_⟩
    have inside := (Template.source_infix parts mem).length_le
    rw [Token.weight, kind] at good
    exact Nat.lt_of_le_of_lt inside good

/-- A phrase that a rule asks for needs less depth than the rule. -/
theorem depth_lt {n rank : Nat} {pos : 0 < n} {g : Goal} {φ : Phase} {s : State} (fits : g.Fits φ)
    (holds : (remains n rank pos).holds φ s) : g.depth s < 3 * n + rank := by
  obtain ⟨sound, left⟩ := holds
  have le : s.ahead ≤ s.full := by simp [State.ahead, State.full]
  have low : g.rank?.getD 1 ≤ 2 := by cases g <;> exact Nat.le_of_ble_eq_true rfl
  have small : g.size s ≤ s.full := by
    rw [Goal.size]
    split
    · exact Nat.le_refl _
    · exact le
  rw [Goal.depth]
  cases φ with
  | before => exact fits.elim
  | moved =>
      have left : s.full < n := left
      omega
  | fresh r =>
      cases ranked : g.rank? with
      | none =>
          have := sound.ahead_lt pos left.1
          simp only [Goal.size, ranked, Option.getD_none]
          omega
      | some rank' =>
          have below : rank' < r := fits rank' ranked
          have := left.1
          have := left.2
          simp only [Goal.size, ranked, Option.getD_some]
          omega

/-- Answers to phrases with a bound on the depth of nesting, and other answers at the bound. -/
def answers (bottom : Recur) : (depth : Nat) → Recur
  | 0 => bottom
  | depth + 1 => step (answers bottom depth)

theorem run_eq_answers (depth : Nat) : run depth = answers (run 0) depth := by
  induction depth with
  | zero => rfl
  | succ depth ih =>
      funext g
      rw [answers, ← ih]
      rfl

/-- Where a phrase begins, what is left is what it is measured by. -/
theorem remains_phase {g : Goal} {s : State} (sound : s.Sound) (pos : 0 < g.size s) :
    (remains (g.size s) (g.rank?.getD 1) pos).holds g.phase s := by
  refine ⟨sound, ?_⟩
  cases ranked : g.rank? with
  | none => simp [Goal.phase, Goal.size, ranked]
  | some rank => simp [Goal.phase, Goal.size, ranked]

/-- At the end of the input every rule does the same whatever is answered to it, if expressions, types
and bindings are missed there. -/
theorem step_idle {self self' : Recur} (g : Goal) (missing : g.rank? ≠ some 0 → Missing self self') :
    Idle g.rank?.isSome false (step self g) (step self' g) := by
  by_cases zero : g.rank? = some 0
  · cases g with
    | expression level => exact inferInstanceAs
        (Idle true false (expression self level) (expression self' level))
    | type level => exact inferInstanceAs 
        (Idle true false (typeExpression self level) (typeExpression self' level))
    | binding => exact inferInstanceAs (Idle true false (binding self) (binding self'))
    | _ => cases zero
  · have := missing zero
    cases g <;> (dsimp only [Goal.rank?, Option.isSome, step]; infer_instance)

theorem atEnd_of_size {g : Goal} {s : State} (sound : s.Sound) (none : g.size s = 0) :
    s.AtEnd ∧ (g.rank?.isSome → s.current.kind = .eof) := by
  rw [Goal.size] at none
  split at none
  · rename_i ranked
    rw [State.full] at none
    have finished := Token.load_eq_zero none
    exact ⟨⟨sound.ending, fun t ht => finished t (List.mem_cons_of_mem _ ht)⟩,
      fun _ => finished _ List.mem_cons_self⟩
  · rename_i ranked
    rw [ranked]
    exact ⟨⟨sound.ending, Token.load_eq_zero none⟩, nofun⟩

/-- With enough depth for a phrase, what is answered at the bound does not matter. -/
theorem answers_eq (bottom bottom' : Recur) {depth depth' : Nat} {g : Goal} {s : State}
    (sound : s.Sound) (enough : g.depth s < depth) (enough' : g.depth s < depth') :
    answers bottom depth g s = answers bottom' depth' g s := by
  induction needed : g.depth s using Nat.strong_induction_on
    generalizing g s depth depth' bottom bottom' with
  | _ needs ih =>
  subst needed
  obtain ⟨d, rfl⟩ := Nat.exists_eq_succ_of_ne_zero (Nat.ne_zero_of_lt enough)
  obtain ⟨d', rfl⟩ := Nat.exists_eq_succ_of_ne_zero (Nat.ne_zero_of_lt enough')
  rw [answers, answers]
  by_cases none : g.size s = 0
  · obtain ⟨ended, finished⟩ := atEnd_of_size sound none
    have missing (ranked : g.rank? ≠ some 0) :
        Missing (answers bottom d) (answers bottom' d') := by
      have high : 0 < g.rank?.getD 1 := by
        cases rank : g.rank? with
        | none => exact Nat.one_pos
        | some r => exact Nat.pos_of_ne_zero fun zero => ranked (rank.trans (congrArg some zero))
      rw [Goal.depth] at enough enough'
      obtain ⟨d, rfl⟩ := Nat.exists_eq_succ_of_ne_zero (show d ≠ 0 by omega)
      obtain ⟨d', rfl⟩ := Nat.exists_eq_succ_of_ne_zero (show d' ≠ 0 by omega)
      exact missing_step
    exact ((step_idle g missing).same ended finished).1
  · have pos := Nat.pos_of_ne_zero none
    have all : ∀ t, (remains (g.size s) (g.rank?.getD 1) pos).shown t := fun _ => trivial
    have below : Below (remains (g.size s) (g.rank?.getD 1) pos).coupling
        (answers bottom d) (answers bottom' d') := by
      refine (Invariant.answer_iff all).2 fun g' φ fits => ⟨?_⟩
      rintro s' _ ⟨rfl, holds⟩
      have less : g'.depth s' < g.depth s := depth_lt fits holds
      have same : answers bottom d g' s' = answers bottom' d' g' s' :=
        ih _ less bottom bottom' holds.1 (by omega) (by omega) rfl
      have moved : Reaches s' (answers bottom d g' s').2 := by
        have : answers bottom d g' s' = answers (run 0) d g' s' :=
          ih _ less bottom (run 0) holds.1 (by omega) (by omega) rfl
        rw [this, ← run_eq_answers]
        exact Moves.reaches s'
      rw [← same]
      refine ⟨OfNodes.related_refl all _, rfl, ?_⟩
      cases φ with
      | before => exact fits.elim
      | fresh => exact Invariant.reaches all trivial moved holds
      | moved => exact Invariant.reaches all trivial moved holds
    have answer : Answer (remains (g.size s) (g.rank?.getD 1) pos).coupling
        (fun g φ => φ = g.phase) (step (answers bottom d)) (step (answers bottom' d')) :=
      step_answer
    have whole := (Invariant.answer_iff all).1 answer g g.phase rfl
    obtain ⟨results, states, -⟩ := whole.run ⟨rfl, remains_phase sound pos⟩
    exact Prod.ext (OfNodes.eq_of_related results) states

theorem depth_start (source : Text) :
    Goal.programItems.depth (State.start source) < depthBound source := by
  have full := (State.Sound.start source).2
  rw [depthBound, Goal.depth]
  show 3 * (State.start source).full + 2 < _
  omega

/-- More depth than the bound makes no difference. -/
theorem run_start {source : Text} {depth : Nat} (h : depthBound source ≤ depth) :
    run depth .programItems (.start source) =
      run (depthBound source) .programItems (.start source) := by
  have enough := depth_start source
  rw [run_eq_answers depth, run_eq_answers (depthBound source)]
  exact answers_eq (run 0) (run 0) (State.Sound.start source).1 (by omega) enough

/-- Reading a script comes to an end. Each call of the scanner takes a part of what is left until none
is, so the limit on their number is not reached; and the bound on the depth of nesting is not reached
either, whatever would be answered there. -/
theorem budget_suffices (source : Text) :
    (∀ s : Scanner, s.next.1.kind = .eof ∨ s.next.2.rest.length < s.rest.length) ∧
    (∀ extra, Scanner.collect (source.length + 1 + extra) { rest := source } = Token.scan source) ∧
    ∀ (bottom : Recur) (extra : Nat),
      answers bottom (depthBound source + extra) .programItems (.start source) =
        run (depthBound source) .programItems (.start source) := by
  refine ⟨fun s => ?_, fun extra => ?_, fun bottom extra => ?_⟩
  · by_cases finished : s.next.1.kind = .eof
    · exact .inl finished
    · exact .inr (s.rest_lt_of_next finished)
  · obtain ⟨n, bound, -, collects⟩ := Scanner.call_eof { rest := source }
    have bound : n ≤ source.length := bound
    rw [Token.scan, collects _ (show n < source.length + 1 + extra by omega),
      collects _ (show n < source.length + 1 by omega)]
  · have enough := depth_start source
    rw [run_eq_answers]
    exact answers_eq bottom (run 0) (State.Sound.start source).1 (by omega) enough

end Parse

end CoScript
