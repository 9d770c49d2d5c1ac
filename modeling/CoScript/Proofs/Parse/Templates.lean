import CoScript.Proofs.Parse.Invariant
import CoScript.Proofs.Parse.Start
import CoScript.Proofs.Token.Splitting

/-!
The parser never meets a template that cannot be split. Scanned templates can be, and what the parser
splits off from an operator is no template.
-/
namespace CoScript

/-- A token that can be split if it is a template. -/
def Token.Splits (t : Token) : Prop :=
  t.kind = .template → (Template.split? t.literal).isSome

theorem Token.splits_of_mem_scan {content : Text} {t : Token} (ht : t ∈ scan content) : t.Splits :=
  Scanner.collect_splits ht

namespace Parse

/-- All templates of a state can be split. -/
structure State.Splits (s : State) : Prop where
  current : s.current.Splits
  upcoming : ∀ t ∈ s.upcoming, t.Splits
  ending : s.ending.Splits

namespace State.Splits

variable {s : State}

theorem peek (h : s.Splits) : s.peek.Splits := by
  rw [State.peek]
  cases ahead : s.upcoming with
  | nil => exact h.ending
  | cons t rest => exact h.upcoming t (by simp [ahead])

theorem advance (h : s.Splits) : s.advance.Splits :=
  { h with current := h.peek, upcoming := fun t ht => h.upcoming t (List.mem_of_mem_tail ht) }

theorem complain (h : s.Splits) (t : Token) (f : Fault) : (s.complain t f).Splits := by
  rw [State.complain]
  split
  · exact h
  · exact { h with }

theorem afterAngle (t : Token) : (afterAngle t).Splits := by
  intro template
  rw [Parse.afterAngle] at template
  dsimp only at template
  split at template <;> cases template

theorem splitAngle (h : s.Splits) : s.splitAngle.Splits where
  current := by rintro ⟨⟩
  upcoming := List.forall_mem_cons.2
    ⟨afterAngle _, fun t ht => h.upcoming t (List.mem_of_mem_tail ht)⟩
  ending := h.ending

theorem start (source : Text) : (State.start source).Splits := by
  obtain ⟨tokens, ending, scanned, -⟩ := Token.scan_ends source
  obtain ⟨whole, same⟩ := State.start_eq scanned
  have splits : ∀ t ∈ Token.scan source, t.Splits := fun t => Token.splits_of_mem_scan
  rw [scanned, ← whole] at splits
  rw [same]
  exact {
    current := splits _ List.mem_cons_self
    upcoming := fun t ht => splits t (List.mem_cons_of_mem _ ht)
    ending := splits ending (by rw [whole]; simp) }

end State.Splits

/-- A fault that was recorded is the one that was found, or says that there are too many. -/
theorem State.mem_complain {s : State} {t : Token} {f : Fault} {c : Complaint}
    (hc : c ∈ (s.complain t f).complaints) :
    c ∈ s.complaints ∨ c.fault = f ∨ c.fault = .tooMany := by
  rw [complain] at hc
  split at hc
  · exact .inl hc
  · obtain before | last := List.mem_append.1 hc
    · exact .inl before
    · obtain rfl := List.mem_singleton.1 last
      dsimp only
      split
      · exact .inr (.inr rfl)
      · exact .inr (.inl rfl)

/-- Templates can be split, and none is reported where that is of account. -/
def splitting (malformed : Prop) : Invariant where
  good := Token.Splits
  shown _ := True
  shown_of_good _ := trivial
  malformed := malformed
  malformed_of_good good kind unsplit := by
    have splits := good kind
    rw [unsplit] at splits
    cases splits
  holds _ s := s.Splits ∧ ∀ c ∈ s.complaints, c.fault.isMalformed → malformed
  current h := h.1.current
  peek h := h.1.peek
  context _ h := ⟨{ h.1 with }, h.2⟩
  complaints h := h.2
  complain f h _ formed := by
    refine ⟨h.1.complain _ f, fun c hc => ?_⟩
    obtain before | same | same := State.mem_complain hc
    · exact h.2 c before
    · rwa [same]
    · rw [same]
      rintro ⟨⟩
  advance h := ⟨h.1.advance, h.2⟩
  back _ h := h
  splitAngle _ _ h := ⟨h.1.splitAngle, h.2⟩
  start _ _ _ _ := ⟨.start _, by simp [State.complaints_start]⟩

/-- A parser that only moves meets no template that cannot be split. -/
theorem Reaches.splits {source : Text} {s : State} (h : Reaches (.start source) s) : s.Splits :=
  (Invariant.reaches (I := splitting True) (φ := .moved) (fun _ => trivial) trivial h
    ⟨.start source, fun _ _ _ => trivial⟩).1

/-- The parser reports no template, and none in a substitution. -/
theorem script_splits {content : Text} {c : Complaint} (hc : c ∈ (script content).complaints) :
    c.fault.isMalformed = false := by
  have after := (splitting False).run (fun _ _ _ h => h) (depthBound content) (g := .programItems) rfl
    (φ := .moved) (s := .start content) ⟨.start content, by simp [State.complaints_start]⟩
  exact Bool.eq_false_iff.2 (after.2 c hc)

end Parse

/-- Scanning and splitting templates agree. Whatever a scanner takes for a template can be split; so the
parser meets no template that cannot be, wherever it moves, and reports none, not in a substitution
either. And a template that is split has one more chunk of text than substitutions, which are written in
turn. -/
theorem Template.scanned_splits :
    (∀ s : Scanner, s.next.1.kind = .template → (split? s.next.1.literal).isSome) ∧
    (∀ content s, Parse.Reaches (.start content) s → s.current.kind = .template →
      (split? s.current.literal).isSome) ∧
    (∀ content, ∀ c ∈ (Parse.script content).complaints, c.fault.isMalformed = false) ∧
    ∀ raw body, split? raw = some body → body.chunks.length = body.sources.length + 1 ∧
      raw = spelling body.chunks body.sources :=
  ⟨Scanner.next_splits, fun _ _ reached => reached.splits.current,
    fun _ _ => Parse.script_splits, fun _ _ => split?_spells⟩

/-- A template with a substitution, and an unfinished one. -/
theorem Template.scanned_splits_name :
    (split? (Scanner.next { rest := txt "`a$\x7bb\x7dc`" }).1.literal).isSome ∧
    (split? (Parse.State.start (txt "`a$\x7bb\x7dc`")).current.literal).isSome ∧
    (∃ c ∈ (Parse.script (txt "`")).complaints, c.fault.isMalformed = false) ∧
    txt "a$\x7bb\x7dc" = spelling [txt "a", txt "c"] [txt "b"] :=
  ⟨scanned_splits.1 _ rfl, scanned_splits.2.1 _ _ (.refl _) rfl,
    ⟨_, .head _, scanned_splits.2.2.1 (txt "`") _ (.head _)⟩,
    (scanned_splits.2.2.2 _ ⟨[txt "a", txt "c"], [txt "b"]⟩ rfl).2⟩

end CoScript
