import CoScript.Proofs.Parse.Invariant
import CoScript.Proofs.Parse.Start
import CoScript.Proofs.Token.Template
import CoScript.Script

/-!
Whatever is wrong with a script can be shown: every complaint stands at a place in the script, and the
script has a line there, whatever its line ends are.
-/
namespace CoScript

/-! Lines. -/

theorem Text.length_splitOn (separator : Char) (t : Text) :
    (t.splitOn separator).length = 1 + t.countP (·.is separator) := by
  induction t with
  | nil => rfl
  | cons g rest ih =>
      rw [splitOn]
      split
      · rename_i none
        rw [none, List.length_nil] at ih
        omega
      · rename_i part parts some
        rw [some, List.length_cons] at ih
        split
        · rename_i separates
          simp only [List.countP_cons, separates, if_true, List.length_cons]
          omega
        · rename_i other
          simp only [List.countP_cons, other, Bool.false_eq_true, if_false, List.length_cons]
          omega

namespace Source

theorem countP_unixLineEnds (t : Text) :
    (unixLineEnds t).countP (·.is '\n') = t.countP (·.is '\n') := by
  fun_induction unixLineEnds t with
  | case1 => rfl
  | case2 rest ih =>
      rw [List.countP_cons_of_pos (by decide), ih, List.countP_cons_of_neg (by decide),
        List.countP_cons_of_pos (by decide)]
  | case3 g rest _ ih => rw [List.countP_cons, List.countP_cons, ih]

/-- A script has one line more than line feeds. -/
theorem length_lines (s : Source) : s.lines.length = 1 + s.content.countP (·.is '\n') := by
  rw [lines, Text.length_splitOn, countP_unixLineEnds]

theorem line?_isSome {s : Source} {n : Nat} (pos : 1 ≤ n) (le : n ≤ s.lines.length) :
    ∃ line, s.line? n = some line := by
  rw [line?, if_neg (by omega)]
  exact ⟨_, List.getElem?_eq_getElem (by omega)⟩

end Source

/-! Tokens. -/

namespace Token

/-- A token that stands at a place in a script. -/
structure Placed (content : Text) (t : Token) : Prop where
  line_pos : 1 ≤ t.line
  line_le : t.line ≤ 1 + content.countP (·.is '\n')
  column : 1 ≤ t.column
  start_le : t.start ≤ t.stop
  stop_le : t.stop ≤ content.byteSize
  /-- An operator can be split. -/
  spelled : ∀ o, t.kind = .operator o →
    t.literal = txt o.spelling ∧ t.stop = t.start + (txt o.spelling).length
  /-- The substitutions of a template are parts of the script. -/
  inside : t.kind = .template → t.literal <:+: content

theorem Placed.mono {part content : Text} {t : Token} (h : t.Placed part) (le : part <:+: content) :
    t.Placed content where
  line_pos := h.line_pos
  line_le := h.line_le.trans (Nat.add_le_add_left le.sublist.countP_le 1)
  column := h.column
  start_le := h.start_le
  stop_le := by
    obtain ⟨a, b, rfl⟩ := le
    have := h.stop_le
    rw [Text.byteSize_append, Text.byteSize_append]
    omega
  spelled := h.spelled
  inside kind := (h.inside kind).trans le

/-- A closing angle bracket and what it is split off from are at places too. -/
theorem Placed.split {content : Text} {t : Token} (h : t.Placed content) {o : Operator}
    (ho : o ∈ Parse.angled) (kind : t.kind = .operator o) :
    (Parse.angle t).Placed content ∧ (Parse.afterAngle t).Placed content := by
  obtain ⟨literal, stop⟩ := h.spelled o kind
  have long : ∀ o ∈ Parse.angled, 2 ≤ (txt o.spelling).length := by decide
  have := long o ho
  have := h.stop_le
  refine ⟨⟨h.line_pos, h.line_le, h.column, Nat.le_succ _, ?_, ?_, nofun⟩,
    ⟨h.line_pos, h.line_le, Nat.le_succ_of_le h.column, ?_, h.stop_le, ?_, ?_⟩⟩
  · show t.start + 1 ≤ content.byteSize
    omega
  · intro o' same
    obtain rfl : Operator.greater = o' := Token.Kind.operator.inj same
    exact ⟨rfl, rfl⟩
  · show t.start + 1 ≤ t.stop
    omega
  · intro o' same
    have known : Operator.ofText? (t.literal.drop 1) = some o' := by
      rw [Parse.afterAngle] at same
      dsimp only at same
      split at same
      · rename_i known
        rw [known, Token.Kind.operator.inj same]
      · cases same
    have written : txt o'.spelling = t.literal.drop 1 := by simpa using List.find?_some known
    refine ⟨written.symm, ?_⟩
    rw [written, List.length_drop, literal]
    show t.stop = t.start + 1 + _
    omega
  · intro same
    rw [Parse.afterAngle] at same
    dsimp only at same
    split at same <;> cases same

end Token

/-- A scanner that has come to a place in a script. -/
def Scanner.Within (content : Text) (s : Scanner) : Prop :=
  ∃ past, content = past ++ s.rest ∧ Mark.Leads {} past s.mark

theorem Operator.byteSize_spelling (o : Operator) :
    (txt o.spelling).byteSize = (txt o.spelling).length := by
  cases o <;> rfl

theorem Scanner.Takes.placed {content : Text} {s s' : Scanner} {t : Token} {broken : Bool}
    {trivia : Text} (h : s.Takes t s' broken trivia) (within : s.Within content) :
    t.Placed content ∧ s'.Within content := by
  obtain ⟨past, whole, leads⟩ := within
  have start := leads.trans h.start
  have stop := start.trans h.stop
  have whole : content = past ++ trivia ++ t.raw ++ s'.rest := by
    rw [whole, h.split]
    simp only [List.append_assoc]
  have offset := stop.offset
  have offset' := h.stop.offset
  rw [h.stop_eq] at offset offset'
  dsimp only at offset offset'
  refine ⟨⟨?_, ?_, start.column (Nat.le_refl 1), ?_, ?_, ?_, ?_⟩, ⟨_, whole, stop⟩⟩
  · have := start.line
    dsimp only at this
    omega
  · have := start.line
    dsimp only at this
    rw [this, whole]
    simp only [List.countP_append]
    omega
  · omega
  · rw [offset, whole, Text.byteSize_append (past ++ trivia ++ t.raw)]
    omega
  · intro o kind
    have means := h.means
    rw [kind] at means
    obtain ⟨literal, spelled, -⟩ := means
    rw [spelled, Operator.byteSize_spelling] at offset'
    exact ⟨literal.trans spelled, offset'⟩
  · intro kind
    have means := h.means
    rw [kind] at means
    refine List.IsInfix.trans ⟨txt "`", txt "`", means.symm⟩ ⟨past ++ trivia, s'.rest, whole.symm⟩

theorem Token.placed_of_mem_collect {content : Text} {limit : Nat} {s : Scanner} {t : Token}
    (within : s.Within content) (h : t ∈ Scanner.collect limit s) : t.Placed content := by
  induction limit generalizing s with
  | zero => cases h
  | succ limit ih =>
      obtain ⟨broken, trivia, takes⟩ := s.next_takes
      obtain ⟨placed, next⟩ := takes.placed within
      rw [Scanner.collect] at h
      dsimp only at h
      split at h
      · obtain rfl := List.mem_singleton.1 h
        exact placed
      · obtain rfl | later := List.mem_cons.1 h
        · exact placed
        · exact ih next later

theorem Token.placed_of_mem_scan {content : Text} {t : Token} (h : t ∈ scan content) :
    t.Placed content :=
  placed_of_mem_collect ⟨[], rfl, .nil _⟩ h

/-! States of the parser. -/

namespace Parse

/-- All tokens of a state stand at places in a script, and not too much was complained about. -/
structure State.Placed (content : Text) (s : State) : Prop where
  current : s.current.Placed content
  upcoming : ∀ t ∈ s.upcoming, t.Placed content
  ending : s.ending.Placed content
  complaints : ∀ c ∈ s.complaints, c.token.Placed content
  few : s.complaints.length ≤ faultLimit + 1

namespace State.Placed

variable {content : Text} {s : State}

theorem peek (h : s.Placed content) : s.peek.Placed content := by
  rw [State.peek]
  cases ahead : s.upcoming with
  | nil => exact h.ending
  | cons t rest => exact h.upcoming t (by simp [ahead])

theorem advance (h : s.Placed content) : s.advance.Placed content :=
  { h with current := h.peek, upcoming := fun t ht => h.upcoming t (List.mem_of_mem_tail ht) }

theorem complain (h : s.Placed content) {t : Token} (f : Fault) (placed : t.Placed content) :
    (s.complain t f).Placed content := by
  rw [State.complain]
  split
  · exact h
  · rename_i few
    refine { h with complaints := fun c hc => ?_, few := ?_ }
    · obtain before | last := List.mem_append.1 hc
      · exact h.complaints c before
      · obtain rfl := List.mem_singleton.1 last
        exact placed
    · rw [List.length_append, List.length_singleton]
      omega

theorem splitAngle (h : s.Placed content) {o : Operator} (ho : o ∈ angled)
    (kind : s.peek.kind = .operator o) : s.splitAngle.Placed content := by
  obtain ⟨first, second⟩ := h.peek.split ho kind
  exact { h with
    current := first
    upcoming := List.forall_mem_cons.2
      ⟨second, fun t ht => h.upcoming t (List.mem_of_mem_tail ht)⟩ }

theorem start {source : Text} (part : source <:+: content) : (State.start source).Placed content := by
  have placed (t : Token) (ht : t ∈ Token.scan source) : t.Placed content :=
    (Token.placed_of_mem_scan ht).mono part
  obtain ⟨tokens, ending, scanned, -⟩ := Token.scan_ends source
  obtain ⟨whole, same⟩ := State.start_eq scanned
  rw [scanned, ← whole] at placed
  have last := placed ending (by rw [whole]; simp)
  rw [same]
  exact {
    current := placed _ List.mem_cons_self
    upcoming := fun t ht => placed t (List.mem_cons_of_mem _ ht)
    ending := { last with }
    complaints := nofun
    few := Nat.zero_le _ }

end State.Placed

/-- Tokens stay at places in a script. -/
def placed (content : Text) : Invariant where
  good := Token.Placed content
  shown := Token.Placed content
  shown_of_good := id
  holds _ := State.Placed content
  current := State.Placed.current
  peek := State.Placed.peek
  context _ h := { h with }
  complain f h placed _ := h.complain f placed
  advance := State.Placed.advance
  back _ h := h
  splitAngle ho kind h := h.splitAngle ho kind
  start good kind parts mem := .start ((Template.source_infix parts mem).trans (good.inside kind))

end Parse

theorem Parse.script_placed (content : Text) :
    (∀ c ∈ (script content).complaints, c.token.Placed content) ∧
      (script content).complaints.length ≤ faultLimit + 1 := by
  have after : State.Placed content (run (depthBound content) .programItems (.start content)).2 :=
    (placed content).run (fun _ _ _ h => h) _ rfl (φ := .moved) (.start List.infix_rfl)
  exact ⟨after.complaints, after.few⟩

namespace Diagnostic

theorem markWidth_pos (p : Position) (content : Text) : 0 < markWidth p content := by
  rw [markWidth]
  split
  · rename_i wide
    simp only [Bool.and_eq_true, decide_eq_true_eq] at wide
    omega
  · exact Nat.one_pos

theorem display_of_line {d : Diagnostic} {s : Source} {line : Text} (stage : d.stage = .reading)
    (pos : 1 ≤ d.position.line) (source : d.position.source = some s)
    (found : s.line? d.position.line = some line) :
    d.display =
      txt "Syntax Error at " ++ s.displayPath ++ txt ":" ++ .integer d.position.line ++ txt ":" ++
        .integer d.position.column ++ txt ": " ++ d.message ++ txt "\n" ++
      (Text.padStart 4 (.integer d.position.line) ++ txt " | " ++ line.dropEndWhile
        (·.holds fun c => c == '\r' || c == '\n' || c == '\t' || c == ' ') ++ txt "\n") ++
      (txt "     | " ++ Text.times (d.position.column - 1).toNat (txt " ") ++
        Text.times (markWidth d.position s.content) (txt "^") ++ txt "\n\n") := by
  have somewhere : d.position.isZero = false := by
    rw [Position.isZero, beq_false_of_ne (by omega), Bool.false_and]
  rw [display]
  dsimp only
  rw [somewhere, source, stage]
  have parts : txt "Syntax Error at " = Stage.reading.title ++ txt " Error" ++ txt " at " ∧
      txt "\n     | " = txt "\n" ++ txt "     | " ∧ txt "\n\n" = txt "\n" ++ txt "\n" :=
    ⟨rfl, rfl, rfl⟩
  simp only [Bool.false_eq_true, if_false, Option.map_some, Option.getD_some, excerpt, found, parts,
    List.append_assoc]

end Diagnostic

/-- Reading a script gives few diagnostics, and each of them can be shown: it stands at a place in the
script, the script has a line there, and the line is shown with marks below it. -/
theorem Script.read_shows (source : Source) :
    (read source).2.length ≤ 101 ∧ ∀ d ∈ (read source).2,
      1 ≤ d.position.line ∧ 1 ≤ d.position.column ∧
      0 ≤ d.position.start ∧ d.position.start ≤ d.position.stop ∧
      d.position.stop ≤ source.content.toBytes.length ∧
      ∃ (line : Text) (marks : Nat), source.line? d.position.line = some line ∧ 0 < marks ∧
        d.display =
          txt "Syntax Error at " ++ source.displayPath ++ txt ":" ++ .integer d.position.line ++
            txt ":" ++ .integer d.position.column ++ txt ": " ++ d.message ++ txt "\n" ++
          (Text.padStart 4 (.integer d.position.line) ++ txt " | " ++ line.dropEndWhile
            (·.holds fun c => c == '\r' || c == '\n' || c == '\t' || c == ' ') ++ txt "\n") ++
          (txt "     | " ++ Text.times (d.position.column - 1).toNat (txt " ") ++
            Text.times marks (txt "^") ++ txt "\n\n") := by
  obtain ⟨placed, few⟩ := Parse.script_placed source.content
  rw [show (read source).2 = (Parse.script source.content).complaints.map (diagnostic source) from rfl]
  refine ⟨by rwa [List.length_map], fun d hd => ?_⟩
  obtain ⟨c, hc, rfl⟩ := List.mem_map.1 hd
  have place := placed c hc
  have lines := source.length_lines
  obtain ⟨line, found⟩ := Source.line?_isSome place.line_pos (lines ▸ place.line_le)
  have pos : (1 : Int) ≤ c.token.line := by exact_mod_cast place.line_pos
  refine ⟨pos, Int.ofNat_le.2 place.column, Int.natCast_nonneg _, Int.ofNat_le.2 place.start_le,
    ?_, line, Diagnostic.markWidth _ source.content, found, Diagnostic.markWidth_pos _ _,
    Diagnostic.display_of_line rfl pos rfl found⟩
  rw [Text.length_toBytes]
  exact Int.ofNat_le.2 place.stop_le

end CoScript
