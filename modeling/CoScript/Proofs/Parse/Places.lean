import Mathlib.Data.List.Infix
import CoScript.Proofs.Parse.Motion
import CoScript.Proofs.Parse.Start
import CoScript.Proofs.Tree.Position

/-!
Where tokens and trees say that they stand. A token that was scanned says so of the text it was scanned
in, and so do the pieces that the parser cuts a run of closing angle brackets into. The parser makes up no
other tokens. A substitution of a template is a text of its own, so what is read in it stands in that text
and not in the script.
-/
namespace CoScript

open Parse (angled angle afterAngle)

/-! Tokens. -/

/-- A token as it was scanned, or a piece of one that starts with closing angle brackets. -/
inductive Token.Cut (u : Token) : Token → Prop
  | whole (newline : Bool) : Cut u { u with newlineBefore := newline }
  | piece {t : Token} {o : Operator} (n : Nat) (known : o ∈ angled) (kind : u.kind = .operator o)
      (raw : t.raw <+: u.raw.drop n) (literal : t.literal = t.raw) (line : t.line = u.line)
      (column : t.column = u.column + n) (start : t.start = u.start + n) : Cut u t

/-- A token stands in a text where it says: its text lies between its start and its stop, and its line
counts the line feeds before it. -/
structure Token.StandsIn (source : Text) (t : Token) : Prop where
  place : ∃ before after, source = before ++ (t.raw ++ after) ∧ t.start = before.byteSize ∧
    t.line = 1 + before.countP (·.is '\n')
  stop : t.stop = t.start + t.raw.byteSize
  spelled : ∀ o, t.kind = .operator o → t.literal = txt o.spelling ∧ t.raw = txt o.spelling

/-- A token comes from the tokens of a text and stands there. Its column is the one that the scanner gave,
moved on by what was cut off in front of it. -/
structure Token.PointsInto (source : Text) (t : Token) : Prop extends t.StandsIn source where
  scanned : ∃ u ∈ scan source, u.Cut t

/-- What the scanner takes stands behind what it has taken. -/
theorem Scanner.standsIn_of_mem_collect {source front : Text} {limit : Nat} {s : Scanner} {t : Token}
    (split : source = front ++ s.rest) (leads : Mark.Leads {} front s.mark) (ht : t ∈ collect limit s) :
    t.StandsIn source := by
  induction limit generalizing front s with
  | zero => cases ht
  | succ limit ih =>
      obtain ⟨broken, trivia, takes⟩ := s.next_takes
      have before := leads.trans takes.start
      have first : s.next.1.StandsIn source := by
        refine ⟨⟨front ++ trivia, s.next.2.rest, ?_, ?_, before.line⟩, ?_, fun o kind => ?_⟩
        · rw [split, takes.split, List.append_assoc]
        · exact before.offset.trans (Nat.zero_add _)
        · rw [← takes.stop_eq, takes.stop.offset]
        · have means := takes.means
          rw [kind] at means
          exact ⟨means.1.trans means.2.1, means.2.1⟩
      have behind : source = (front ++ trivia ++ s.next.1.raw) ++ s.next.2.rest := by
        rw [split, takes.split, List.append_assoc, List.append_assoc]
      rw [collect] at ht
      dsimp only at ht
      split at ht
      · exact List.mem_singleton.1 ht ▸ first
      · obtain rfl | ht := List.mem_cons.1 ht
        · exact first
        · exact ih behind (before.trans takes.stop) ht

namespace Token

variable {source : Text} {t : Token}

theorem pointsInto_of_mem_scan (h : t ∈ scan source) : t.PointsInto source where
  toStandsIn :=
    Scanner.standsIn_of_mem_collect (s := { rest := source }) (List.nil_append source).symm (.nil {}) h
  scanned := ⟨t, h, .whole t.newlineBefore⟩

/-- It does not matter whether a line break separates a token from the one before it. -/
theorem PointsInto.separated (h : t.PointsInto source) (newline : Bool) :
    Token.PointsInto source { t with newlineBefore := newline } where
  place := h.place
  stop := h.stop
  spelled := h.spelled
  scanned := by
    obtain ⟨u, hu, cut⟩ := h.scanned
    refine ⟨u, hu, ?_⟩
    cases cut with
    | whole => exact .whole newline
    | piece n known kind raw literal line column start =>
        exact .piece n known kind raw literal line column start

/-- A token that starts with a closing angle bracket, and what it starts with. -/
theorem spelling_of_angled {o : Operator} (h : o ∈ angled) :
    txt o.spelling = .char '>' :: (txt o.spelling).drop 1 := by
  have all : ∀ o ∈ angled, txt o.spelling = .char '>' :: (txt o.spelling).drop 1 := by decide
  exact all o h

/-- What is cut off in front of a token, and what is left, are pieces of what the token is a piece of. -/
theorem Cut.piece_of {u : Token} (h : u.Cut t) {o : Operator} (known : o ∈ angled)
    (kind : t.kind = .operator o) {t' : Token} (n : Nat) (raw : t'.raw <+: t.raw.drop n)
    (literal : t'.literal = t'.raw) (line : t'.line = t.line) (column : t'.column = t.column + n)
    (start : t'.start = t.start + n) : u.Cut t' := by
  cases h with
  | whole => exact .piece n known kind raw literal line column start
  | @piece _ o' m known' kind' raw' literal' line' column' start' =>
      refine .piece (m + n) known' kind' ?_ literal (line.trans line') ?_ ?_
      · rw [← List.drop_drop]
        exact raw.trans (List.IsPrefix.drop raw' n)
      · rw [column, column', Nat.add_assoc]
      · rw [start, start', Nat.add_assoc]

theorem PointsInto.angle (h : t.PointsInto source) {o : Operator} (known : o ∈ angled)
    (kind : t.kind = .operator o) : (angle t).PointsInto source := by
  have raw : t.raw = .char '>' :: (txt o.spelling).drop 1 :=
    (h.spelled o kind).2.trans (spelling_of_angled known)
  obtain ⟨u, hu, cut⟩ := h.scanned
  obtain ⟨before, after, split, start, line⟩ := h.place
  refine ⟨⟨?_, rfl, ?_⟩, u, hu, cut.piece_of known kind 0 ?_ rfl rfl rfl rfl⟩
  · exact ⟨before, (txt o.spelling).drop 1 ++ after, by rw [split, raw]; rfl, start, line⟩
  · rintro _ ⟨⟩
    exact ⟨rfl, rfl⟩
  · rw [raw]
    exact List.prefix_append [Glyph.char '>'] _

theorem PointsInto.afterAngle (h : t.PointsInto source) {o : Operator} (known : o ∈ angled)
    (kind : t.kind = .operator o) : (afterAngle t).PointsInto source := by
  obtain ⟨literal, spelled⟩ := h.spelled o kind
  have raw : t.raw = .char '>' :: t.literal.drop 1 := by
    rw [literal, spelled]
    exact spelling_of_angled known
  obtain ⟨u, hu, cut⟩ := h.scanned
  obtain ⟨before, after, split, start, line⟩ := h.place
  refine ⟨⟨?_, ?_, ?_⟩, u, hu, cut.piece_of known kind 1 ?_ rfl rfl rfl rfl⟩
  · refine ⟨before ++ [Glyph.char '>'], after, ?_, ?_, ?_⟩
    · rw [split, raw, List.append_assoc]
      rfl
    · rw [Text.byteSize_append, ← start]
      rfl
    · rw [List.countP_append, ← Nat.add_assoc, ← line]
      rfl
  · have size := congrArg Text.byteSize raw
    rw [Text.byteSize_cons, show (Glyph.char '>').size = 1 from rfl] at size
    show t.stop = t.start + 1 + Text.byteSize (t.literal.drop 1)
    rw [h.stop, size, Nat.add_assoc]
  · intro o' kind'
    simp only [Parse.afterAngle] at kind' ⊢
    split at kind'
    · rename_i found
      cases kind'
      have same : txt o'.spelling = t.literal.drop 1 := by simpa using List.find?_some found
      exact ⟨same.symm, same.symm⟩
    · cases kind'
  · rw [raw]
    exact List.prefix_rfl

end Token

/-! Trees. -/

/-- A tree is made of tokens of a text, each of which says where it stands. A substitution of a template
points into the source of that substitution. -/
inductive Node.PointsInto : Text → Node → Prop
  | node {source : Text} {n : Node} (plain : n.isTemplate = false)
      (own : n.token.line = 0 ∨ n.token.PointsInto source)
      (below : ∀ p c, (p, c) ∈ n.positions → PointsInto source c) : PointsInto source n
  | template {source : Text} {t : Token} {body : Template.Body} {substitutions : List Node}
      (own : t.PointsInto source) (split : Template.split? t.literal = some body)
      (below : List.Forall₂ PointsInto body.sources substitutions) :
      PointsInto source (.template t body.chunks substitutions)

/-! States. -/

namespace Parse

/-- The tokens of a state point into a text. -/
structure State.PointsInto (source : Text) (s : State) : Prop where
  current : s.current.PointsInto source
  upcoming : ∀ t ∈ s.upcoming, t.PointsInto source
  ending : s.ending.PointsInto source

namespace State.PointsInto

variable {source : Text} {s s' : State}

theorem start (source : Text) : (State.start source).PointsInto source := by
  obtain ⟨tokens, ending, scanned, -⟩ := Token.scan_ends source
  obtain ⟨whole, same⟩ := State.start_eq scanned
  have points : ∀ t ∈ (State.start source).current :: (State.start source).upcoming,
      t.PointsInto source := by
    rw [whole, ← scanned]
    exact fun t => Token.pointsInto_of_mem_scan
  obtain ⟨current, upcoming⟩ := List.forall_mem_cons.1 points
  refine ⟨current, upcoming, ?_⟩
  have last : ending.PointsInto source :=
    Token.pointsInto_of_mem_scan (scanned ▸ List.mem_append_right _ List.mem_cons_self)
  rw [same]
  exact last.separated false

theorem peek (h : s.PointsInto source) : s.peek.PointsInto source := by
  rw [State.peek]
  cases ahead : s.upcoming with
  | nil => exact h.ending
  | cons t rest => exact h.upcoming t (by simp [ahead])

theorem advance (h : s.PointsInto source) : s.advance.PointsInto source :=
  { h with current := h.peek, upcoming := fun t ht => h.upcoming t (List.mem_of_mem_tail ht) }

theorem complain (h : s.PointsInto source) (t : Token) (f : Fault) :
    (s.complain t f).PointsInto source := by
  obtain ⟨complaints, -, same⟩ := s.complain_eq t f
  rw [same]
  exact { h with }

theorem move (h : s.PointsInto source) (move : Move s s') : s'.PointsInto source := by
  cases move with
  | advance => exact h.advance
  | complain t f => exact h.complain t f
  | context => exact { h with }
  | angle =>
      obtain ⟨-, taken⟩ | ⟨o, known, kind, taken⟩ | missed := expectAngleClose_cases s
      · rw [taken]
        exact h.advance
      · rw [taken]
        refine ⟨h.peek.angle known kind, List.forall_mem_cons.2 ⟨h.peek.afterAngle known kind, ?_⟩, h.ending⟩
        exact fun t ht => h.upcoming t (List.mem_of_mem_tail ht)
      · rw [missed]
        exact h.complain _ _

/-- The parser makes up no other tokens on its way. -/
theorem reaches (h : s.PointsInto source) (reached : Reaches s s') : s'.PointsInto source :=
  reached.preserves (fun _ _ step points => points.move step) h

end State.PointsInto

end Parse

end CoScript
