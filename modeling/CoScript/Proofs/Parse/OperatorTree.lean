import CoScript.Proofs.Parse.Reading

/-!
Operator trees are read back as they are printed.
-/
namespace CoScript

namespace Node

/-- An expression whose operators bind more tightly than a weaker level is read as a whole at that
level: the weakest operator that it goes on with, outside of brackets. -/
def leftLevel : Node → Nat
  | sequence _ _ => Level.comma
  | assignment _ _ _ _ => Level.assignment
  | conditional _ _ _ _ => Level.conditional
  | binary _ _ operator _ => (Level.binary? operator).getD Level.lowest
  | update _ _ _ before => if before then Level.atom else Level.suffix
  | call _ _ _ _ => Level.call
  | member _ whole _ _ _ => if whole.callsOnTheWay then Level.call else Level.member
  | _ => Level.atom

/-- The strongest operator that may follow an expression without being taken into its last operand. -/
def restLevel : Node → Nat
  | sequence _ _ | assignment _ _ _ _ | conditional _ _ _ _ => Level.comma
  | binary _ _ operator _ => min ((Level.binary? operator).getD Level.lowest) Level.product
  | unary _ _ _ | await _ _ => Level.unary
  | update _ _ _ before => if before then Level.unary else Level.atom
  | _ => Level.atom

namespace IsOperatorTree

variable {n : Node}

attribute [local simp] leftLevel restLevel

theorem lt_leftLevel (h : IsOperatorTree n) {level : Nat} (weak : level < n.level)
    (bound : level < Level.call) : level < n.leftLevel := by
  cases h with
  | update =>
      rw [leftLevel]
      split
      · exact bound.trans (by decide)
      · rwa [Node.level, if_neg ‹_›] at weak
  | property | index =>
      rw [leftLevel]
      split
      · exact bound
      · exact bound.trans (by decide)
  | identifier | number | unary | await | new => exact Nat.lt_of_lt_of_le bound (Nat.le_of_ble_eq_true rfl)
  | binary | conditional | assignment | sequence | call => exact weak

theorem unary_lt_leftLevel (h : IsOperatorTree n) (tight : Level.unary ≤ n.level) :
    Level.unary < n.leftLevel := by
  cases h with
  | update =>
      rw [leftLevel]
      split <;> decide
  | property | index =>
      rw [leftLevel]
      split <;> decide
  | binary known =>
      obtain ⟨p, -, top, -, strength⟩ := level_binary known
      rw [strength] at tight
      exact absurd (Nat.le_trans tight top) (by decide)
  | conditional | assignment | sequence =>
      exact absurd tight (Nat.not_le_of_lt (Nat.le_of_ble_eq_true rfl))
  | identifier | number | unary | await | new | call => exact Nat.le_of_ble_eq_true rfl

theorem member_le_leftLevel (h : IsOperatorTree n) (tight : Level.call ≤ n.level)
    (free : n.callsOnTheWay = false) : Level.member ≤ n.leftLevel := by
  cases h with
  | property | index =>
      rw [callsOnTheWay] at free
      rw [leftLevel, if_neg (by simp [free])]
  | call => cases free
  | @update t operator e before =>
      cases before <;> exact absurd tight (Nat.not_le_of_lt (Nat.le_of_ble_eq_true rfl))
  | binary known =>
      obtain ⟨p, -, top, -, strength⟩ := level_binary known
      rw [strength] at tight
      exact absurd (Nat.le_trans tight top) (by decide)
  | unary | await | conditional | assignment | sequence =>
      exact absurd tight (Nat.not_le_of_lt (Nat.le_of_ble_eq_true rfl))
  | identifier | number | new => exact Nat.le_of_ble_eq_true rfl

theorem comma_le_restLevel (h : IsOperatorTree n) : Level.comma ≤ n.restLevel := by
  cases h with
  | update =>
      rw [restLevel]
      split <;> decide
  | binary known =>
      obtain ⟨p, range, known⟩ := binary_level _ known
      rw [restLevel, known, Option.getD_some]
      exact Nat.le_min.2 ⟨Nat.le_trans (by decide) (List.mem_range'_1.1 range).1, by decide⟩
  | _ => exact Nat.le_of_ble_eq_true rfl

/-- For the operands of operators. -/
theorem le_restLevel (h : IsOperatorTree n) {level : Nat} (strong : Level.conditional < level)
    (bound : level ≤ Level.product) (tight : level ≤ n.level) : level ≤ n.restLevel := by
  cases h with
  | update =>
      rw [restLevel]
      split
      · exact bound.trans (by decide)
      · exact bound.trans (by decide)
  | binary => exact Nat.le_min.2 ⟨tight, bound⟩
  | sequence | assignment | conditional =>
      exact absurd (strong.trans_le tight) (Nat.not_lt_of_le (Nat.le_of_ble_eq_true rfl))
  | _ => exact bound.trans (Nat.le_of_ble_eq_true rfl)

theorem unary_le_restLevel (h : IsOperatorTree n) (tight : Level.unary ≤ n.level) :
    Level.unary ≤ n.restLevel := by
  cases h with
  | update =>
      rw [restLevel]
      split <;> decide
  | binary known =>
      obtain ⟨p, -, top, -, strength⟩ := level_binary known
      rw [strength] at tight
      exact absurd (Nat.le_trans tight top) (by decide)
  | conditional | assignment | sequence =>
      exact absurd tight (Nat.not_le_of_lt (Nat.le_of_ble_eq_true rfl))
  | _ => exact Nat.le_of_ble_eq_true rfl

theorem restLevel_of_suffix (h : IsOperatorTree n) (tight : Level.suffix ≤ n.level) :
    n.restLevel = Level.atom := by
  cases h with
  | @update t operator e before =>
      cases before with
      | true => exact absurd tight (Nat.not_le_of_lt (Nat.le_of_ble_eq_true rfl))
      | false => rfl
  | binary known =>
      obtain ⟨p, -, top, -, strength⟩ := level_binary known
      rw [strength] at tight
      exact absurd (Nat.le_trans tight top) (by decide)
  | unary | await | conditional | assignment | sequence =>
      exact absurd tight (Nat.not_le_of_lt (Nat.le_of_ble_eq_true rfl))
  | _ => rfl

theorem isAssignable (h : IsOperatorTree n) (place : n.isPlace) : n.isAssignable := by
  cases h with
  | identifier | property | index => rfl
  | _ => cases place

theorem lowest_lt_level (h : IsOperatorTree n) : Level.lowest < n.level := by
  cases h with
  | @update t operator e before => cases before <;> exact Nat.le_of_ble_eq_true rfl
  | binary known =>
      obtain ⟨p, low, -, -, strength⟩ := level_binary known
      rw [strength]
      exact Nat.le_trans (by decide) low
  | _ => exact Nat.le_of_ble_eq_true rfl

theorem lowest_lt_leftLevel (h : IsOperatorTree n) : Level.lowest < n.leftLevel :=
  h.lt_leftLevel h.lowest_lt_level (by decide)

end IsOperatorTree

end Node

namespace Parse

open Word Node

/-- A node is read from its words wherever it needs no parentheses. -/
structure Readable (n : Node) : Prop where
  tree : IsOperatorTree n
  leads : ∀ {level : Nat} {rest : List Word}, level < n.leftLevel → nextLevel rest ≤ n.restLevel →
    Leads n n.words level rest

namespace Readable

variable {n : Node} (h : Readable n)
include h

theorem grouped {b : Bool} {level : Nat} {rest : List Word}
    (bare : b = false → level < n.leftLevel ∧ nextLevel rest ≤ n.restLevel) :
    Leads n (grouped b n.words) level rest := by
  cases b with
  | false => exact h.leads (bare rfl).1 (bare rfl).2
  | true =>
      have close : nextLevel (sign .parenClose :: rest) = Level.lowest := rfl
      refine leads_parens (Leads.completes ?_ h.tree.words_ne_nil close.le)
      exact h.leads h.tree.lowest_lt_leftLevel
        (close.le.trans (Nat.le_trans (by decide) h.tree.comma_le_restLevel))

theorem completes {b : Bool} {level : Nat} {rest : List Word} (gap : Gap)
    (bare : b = false → level < n.leftLevel ∧ nextLevel rest ≤ n.restLevel)
    (weak : nextLevel rest ≤ level) :
    Completes n (spaced gap (Word.grouped b n.words)) level rest :=
  ((h.grouped bare).completes (h.tree.phrase.grouped b).ne_nil weak).spaced gap

/-- In a place for elements of lists. -/
theorem element (gap : Gap) {rest : List Word} (weak : nextLevel rest ≤ Level.comma) :
    Completes n (spaced gap (Word.grouped (n.level < Level.assignment) n.words)) Level.comma rest := by
  refine h.completes gap (fun bare => ⟨?_, weak.trans h.tree.comma_le_restLevel⟩) weak
  exact h.tree.lt_leftLevel (Nat.not_lt.1 (of_decide_eq_false bare)) (by decide)

theorem readsElement : ReadsElement n := by
  refine ⟨h.tree, fun rest weak => ?_⟩
  have read := h.element .none weak
  rwa [(h.tree.phrase.grouped _).spaced_none] at read

/-- In a place for operands of operators in front of them. -/
theorem operand (gap : Gap) {rest : List Word} (weak : nextLevel rest ≤ Level.unary) :
    Completes n (spaced gap (Word.grouped (n.level < Level.unary) n.words)) Level.unary rest := by
  refine h.completes gap (fun bare => ?_) weak
  have tight := Nat.not_lt.1 (of_decide_eq_false bare)
  exact ⟨h.tree.unary_lt_leftLevel tight, weak.trans (h.tree.unary_le_restLevel tight)⟩

end Readable

theorem nextLevel_le (rest : List Word) : nextLevel rest ≤ Level.atom := by
  have bound (k : Token.Kind) : Level.ofKind k ≤ Level.atom := by
    cases k with
    | operator o => cases o <;> decide
    | keyword k => cases k <;> decide
    | _ => decide
  cases rest with
  | nil => decide
  | cons w rest => exact bound w.kind

/-- The binding strength of operators between two operands, as it is seen when they are read. -/
theorem binary_strength : ∀ s ∈ binaryOperators, ∃ p ∈ List.range' 5 12,
    Level.binary? (txt s) = some p ∧ Level.ofKind (ofText (txt s)).kind = p ∧
    rightLevel (ofText (txt s)).kind = min p Level.product ∧ ((txt s == txt "**") = decide (15 < p)) := by
  decide

section
variable {t : Token}

theorem readable_identifier {name : Text} (word : ReadsAs .identifier name)
    (sync : name ≠ txt "async") : Readable (.identifier t name) :=
  ⟨.identifier word sync, fun _ _ => leads_identifier sync⟩

theorem readable_number {raw : Text} (word : ReadsAs .number raw) : Readable (.number t raw) :=
  ⟨.number word, fun _ _ => leads_number⟩

theorem Readable.unary {operator : String} {e : Node} (known : operator ∈ prefixOperators)
    (h : Readable e) : Readable (.unary t (txt operator) e) :=
  ⟨.unary known h.tree, fun _ right => leads_unary (h.operand _ right) known⟩

theorem Readable.await {e : Node} (h : Readable e) : Readable (.await t e) :=
  ⟨.await h.tree, fun _ right => leads_await (h.operand _ right)⟩

theorem Readable.update {operator : String} {e : Node} {before : Bool}
    (known : operator ∈ updateOperators) (place : e.isPlace) (h : Readable e) :
    Readable (.update t (txt operator) e before) := by
  refine ⟨.update known place h.tree, fun {level rest} left right => ?_⟩
  have assignable := h.tree.isAssignable place
  rw [words]
  cases before with
  | true =>
      have read := h.operand .none (show nextLevel rest ≤ Level.unary from right)
      rw [(h.tree.phrase.grouped _).spaced_none] at read
      exact leads_increment read known assignable
  | false =>
      have left : level < Level.suffix := left
      refine Leads.increment known assignable (h.grouped fun bare => ⟨?_, ?_⟩) left
      · have tight := Nat.not_lt.1 (of_decide_eq_false bare)
        exact h.tree.lt_leftLevel (Nat.lt_of_lt_of_le left tight) (Nat.lt_trans left (by decide))
      · rw [h.tree.restLevel_of_suffix (Nat.not_lt.1 (of_decide_eq_false bare))]
        exact nextLevel_le _

theorem Readable.binary {operator : String} {l r : Node} (known : operator ∈ binaryOperators)
    (hl : Readable l) (hr : Readable r) : Readable (.binary t l (txt operator) r) := by
  obtain ⟨p, range, strength, kind, side, power⟩ := binary_strength operator known
  obtain ⟨low, high⟩ := List.mem_range'_1.1 range
  have top : p ≤ Level.power := Nat.le_of_lt_succ high
  refine ⟨.binary known hl.tree hr.tree, fun {level rest} left right => ?_⟩
  rw [leftLevel, strength, Option.getD_some] at left
  rw [restLevel, strength, Option.getD_some] at right
  rw [words]
  simp only [strength, Option.getD_some]
  refine Leads.binary known (hl.grouped fun bare => ?_) (kind.symm ▸ left)
    (side.symm ▸ hr.completes .blank (fun bare => ?_) right)
  · have tight := Nat.not_lt.1 (of_decide_eq_false (Bool.or_eq_false_iff.1 bare).2)
    rw [power] at tight
    by_cases strong : 15 < p
    · rw [if_pos (decide_eq_true strong)] at tight
      refine ⟨hl.tree.lt_leftLevel (Nat.lt_of_lt_of_le ?_ tight) ?_, ?_⟩
      · exact Nat.lt_of_lt_of_le left (Nat.le_trans top (by decide))
      · exact Nat.lt_of_lt_of_le left (Nat.le_trans top (by decide))
      · rw [hl.tree.restLevel_of_suffix tight]
        exact nextLevel_le _
    · rw [if_neg (by simpa using strong)] at tight
      refine ⟨hl.tree.lt_leftLevel (Nat.lt_of_lt_of_le left tight) ?_, ?_⟩
      · exact Nat.lt_of_lt_of_le left (Nat.le_trans top (by decide))
      · exact kind.le.trans (hl.tree.le_restLevel low (Nat.not_lt.1 strong) tight)
  · have tight := Nat.not_lt.1 (of_decide_eq_false (Bool.or_eq_false_iff.1 bare).2)
    have above : min p Level.product < r.level := by
      rw [power] at tight
      by_cases strong : 15 < p
      · rw [if_pos (decide_eq_true strong)] at tight
        exact Nat.lt_of_le_of_lt (Nat.min_le_right _ _) (Nat.lt_of_lt_of_le strong tight)
      · rw [if_neg (by simpa using strong)] at tight
        exact Nat.lt_of_le_of_lt (Nat.min_le_left _ _) tight
    refine ⟨hr.tree.lt_leftLevel above ?_, right.trans ?_⟩
    · exact Nat.lt_of_le_of_lt (Nat.min_le_right _ _) (by decide)
    · exact hr.tree.le_restLevel (Nat.lt_min.2 ⟨low, by decide⟩) (Nat.min_le_right _ _) above.le

theorem Readable.conditional {c a b : Node} (hc : Readable c) (ha : Readable a) (hb : Readable b) :
    Readable (.conditional t c a b) := by
  refine ⟨.conditional hc.tree ha.tree hb.tree, fun {level rest} left right => ?_⟩
  have left : level < Level.conditional := left
  refine Leads.conditional (hc.grouped fun bare => ?_) left
    (ha.element .blank (Nat.le_of_ble_eq_true rfl)) (hb.element .blank right)
  have tight := Nat.not_lt.1 (of_decide_eq_false bare)
  refine ⟨hc.tree.lt_leftLevel (Nat.lt_of_lt_of_le left (Nat.le_of_succ_le tight)) ?_, ?_⟩
  · exact Nat.lt_trans left (by decide)
  · exact Nat.le_trans (Nat.le_of_ble_eq_true rfl)
      (hc.tree.le_restLevel (Nat.lt_succ_self _) (by decide) tight)

theorem Readable.assignment {operator : String} {target value : Node}
    (known : operator ∈ assignOperators) (place : target.isPlace) (ht : Readable target)
    (hv : Readable value) : Readable (.assignment t (txt operator) target value) := by
  refine ⟨.assignment known place ht.tree hv.tree, fun {level rest} left right => ?_⟩
  have left : level < Level.assignment := left
  refine Leads.assignment known (ht.tree.isAssignable place) (ht.grouped fun bare => ?_) left
    (hv.element .blank right)
  have tight := Nat.not_lt.1 (of_decide_eq_false bare)
  refine ⟨ht.tree.lt_leftLevel (Nat.lt_of_lt_of_le left (Nat.le_trans (by decide) tight)) ?_, ?_⟩
  · exact Nat.lt_trans left (by decide)
  · rw [ht.tree.restLevel_of_suffix tight]
    exact nextLevel_le _

theorem Readable.call {f : Node} {args : List Node} (hf : Readable f)
    (h : ∀ e ∈ args, Readable e) : Readable (.call t f args false) := by
  refine ⟨.call hf.tree fun e he => (h e he).tree, fun {level rest} left right => ?_⟩
  have left : level < Level.call := left
  refine Leads.call (fun e he => (h e he).readsElement) (hf.grouped fun bare => ?_) left
  have tight := Nat.not_lt.1 (of_decide_eq_false bare)
  refine ⟨hf.tree.lt_leftLevel (Nat.lt_of_lt_of_le left tight) left, ?_⟩
  rw [hf.tree.restLevel_of_suffix (Nat.le_trans (by decide) tight)]
  exact nextLevel_le _

theorem Readable.new {f : Node} {args : List Node} (hf : Readable f)
    (h : ∀ e ∈ args, Readable e) : Readable (.new t f args) := by
  refine ⟨.new hf.tree fun e he => (h e he).tree, fun {level rest} left right => ?_⟩
  refine leads_new (hf.tree.phrase.grouped _) (fun rest weak => ?_) fun e he => (h e he).readsElement
  have read := hf.completes (b := f.callsOnTheWay || f.level < Level.member) .none (fun bare => ?_) weak
  · rwa [(hf.tree.phrase.grouped _).spaced_none] at read
  · obtain ⟨free, weak⟩ := Bool.or_eq_false_iff.1 bare
    have tight := Nat.not_lt.1 (of_decide_eq_false weak)
    have tight' : Level.call ≤ f.level := Nat.le_trans (by decide) tight
    refine ⟨hf.tree.member_le_leftLevel tight' free, ?_⟩
    rw [hf.tree.restLevel_of_suffix (Nat.le_trans (by decide) tight)]
    exact nextLevel_le _

/-- The object of a property. -/
theorem Readable.object {o : Node} (h : Readable o) {b : Bool} {level : Nat} {rest : List Word}
    (bare : b = false → Level.call ≤ o.level)
    (left : level < if o.callsOnTheWay then Level.call else Level.member) :
    Leads o (Word.grouped b o.words) level rest := by
  refine h.grouped fun none => ?_
  have tight := bare none
  constructor
  · cases way : o.callsOnTheWay with
    | true =>
        rw [way, if_pos rfl] at left
        exact h.tree.lt_leftLevel (Nat.lt_of_lt_of_le left tight) left
    | false =>
        rw [way, if_neg Bool.false_ne_true] at left
        exact Nat.lt_of_lt_of_le left (h.tree.member_le_leftLevel tight way)
  · rw [h.tree.restLevel_of_suffix (Nat.le_trans (by decide) tight)]
    exact nextLevel_le _

theorem Readable.property {u : Token} {o : Node} {name : Text} (h : Readable o)
    (word : ReadsAs .identifier name) : Readable (.member t o (.identifier u name) false false) := by
  refine ⟨.property h.tree word, fun {level rest} left right => ?_⟩
  rw [words, if_neg Bool.false_ne_true]
  refine Leads.property (h.object (fun bare => ?_) left) (Nat.lt_of_lt_of_le left ?_)
  · exact Nat.not_lt.1 (of_decide_eq_false (Bool.or_eq_false_iff.1 bare).2)
  · rw [leftLevel]
    split <;> decide

theorem Readable.index {o key : Node} (h : Readable o) (hk : Readable key) :
    Readable (.member t o key true false) := by
  refine ⟨.index h.tree hk.tree, fun {level rest} left right => ?_⟩
  rw [words, if_pos rfl]
  have close : nextLevel (sign .bracketClose :: rest) = Level.lowest := rfl
  have inner : Completes key key.words Level.lowest (sign .bracketClose :: rest) :=
    (hk.leads hk.tree.lowest_lt_leftLevel (close.le.trans (Nat.le_trans (by decide)
      hk.tree.comma_le_restLevel))).completes hk.tree.words_ne_nil close.le
  refine Leads.index inner (h.object (fun bare => ?_) left) (Nat.lt_of_lt_of_le left ?_)
  · exact Nat.not_lt.1 (of_decide_eq_false bare)
  · rw [leftLevel]
    split <;> decide

/-- The elements of a sequence after the first two. -/
theorem leads_sequence (es : List Node) {others : List Node} {ws : List Word} {level : Nat}
    (tight : level < Level.comma) (h : ∀ e ∈ others, Readable e)
    (first : ∀ {rest : List Word}, nextLevel rest ≤ Level.comma → Leads (.sequence t es) ws level rest)
    {rest : List Word} (weak : nextLevel rest ≤ Level.comma) :
    Leads (.sequence t (es ++ others))
      (ws ++ (elementWords others).flatMap fun vs => sign .comma :: spaced .blank vs) level rest := by
  induction others generalizing es ws with
  | nil => simpa [elementWords] using first weak
  | cons e others ih =>
      obtain ⟨second, others⟩ := List.forall_mem_cons.1 h
      have more := ih (es ++ [e]) others fun weak =>
        (first (Nat.le_of_ble_eq_true rfl)).extend tight (second.element .blank weak)
      simpa [elementWords] using more

theorem Readable.sequence {first second : Node} {others : List Node}
    (flat : first.isSequence = false) (h : ∀ e ∈ first :: second :: others, Readable e) :
    Readable (.sequence t (first :: second :: others)) := by
  refine ⟨.sequence flat fun e he => (h e he).tree, fun {level rest} left right => ?_⟩
  have left : level < Level.comma := left
  obtain ⟨h₁, rest₁⟩ := List.forall_mem_cons.1 h
  obtain ⟨h₂, rest₂⟩ := List.forall_mem_cons.1 rest₁
  have split : (Node.sequence t (first :: second :: others)).words =
      (Word.grouped (first.level < Level.assignment) first.words ++
        sign .comma :: spaced .blank (Word.grouped (second.level < Level.assignment) second.words)) ++
      (elementWords others).flatMap fun vs => sign .comma :: spaced .blank vs := by
    simp [words, elementWords, separated]
  rw [split]
  refine leads_sequence [first, second] left rest₂ (fun weak => ?_) right
  refine Leads.pair flat (h₁.grouped fun bare => ?_) left (h₂.element .blank weak)
  have tight := Nat.not_lt.1 (of_decide_eq_false bare)
  refine ⟨h₁.tree.lt_leftLevel (Nat.lt_of_lt_of_le left (Nat.le_trans (by decide) tight)) ?_, ?_⟩
  · exact Nat.lt_trans left (by decide)
  · exact Nat.le_trans (Nat.le_of_ble_eq_true rfl) h₁.tree.comma_le_restLevel

end

/-- An operator tree is read from its words. -/
theorem readable {n : Node} (h : IsOperatorTree n) : Readable n := by
  induction h with
  | identifier word sync => exact readable_identifier word sync
  | number word => exact readable_number word
  | unary known _ ih => exact ih.unary known
  | update known place _ ih => exact ih.update known place
  | binary known _ _ ihl ihr => exact ihl.binary known ihr
  | conditional _ _ _ ihc iha ihb => exact ihc.conditional iha ihb
  | assignment known place _ _ iht ihv => exact iht.assignment known place ihv
  | sequence flat _ ih => exact .sequence flat ih
  | await _ ih => exact ih.await
  | call _ _ ihf ih => exact ihf.call ih
  | new _ _ ihf ih => exact ihf.new ih
  | property _ word ih => exact ih.property word
  | index _ _ ih ihk => exact ih.index ihk

theorem noArrow_of_reads {t : Token} {w : Word} (read : t.Reads w) (sound : w.Sound) : NoArrow t := by
  constructor
  · intro arrow
    rw [Sound, ← read.kind, arrow] at sound
    exact sound.2.2 rfl
  · intro o operator
    rw [Sound, ← read.kind, operator] at sound
    exact read.literal.trans sound.1

theorem noArrows_of_reads {ts : List Token} {ws : List Word} (reads : List.Forall₂ Token.Reads ts ws)
    (sound : ∀ w ∈ ws, w.Sound) : ∀ t ∈ ts, NoArrow t := by
  induction reads with
  | nil => exact nofun
  | cons read _ ih =>
      obtain ⟨first, rest⟩ := List.forall_mem_cons.1 sound
      exact List.forall_mem_cons.2 ⟨noArrow_of_reads read first, ih rest⟩

/-- A text made up of words is read from its first one on. -/
theorem start_at {ws : List Word} (run : Run ws) (first : ∀ w ∈ ws.head?, w.divides = false)
    (tail : Gap) : (State.start (spell ws ++ tail.text)).At ws := by
  obtain ⟨ts, e, scanned, reads, ended⟩ := scan_spell run.sound run.chain first tail
  have arrows := noArrows_of_reads reads run.sound
  have noArrow {t : Token} (h : t.kind = .eof) : NoArrow t := by
    simp [NoArrow, h]
  cases reads with
  | nil =>
      rw [List.nil_append] at scanned
      simp only [State.start, scanned]
      exact ⟨ended, rfl⟩
  | @cons t w ts ws here rest =>
      rw [List.cons_append] at scanned
      simp only [State.start, scanned]
      refine ⟨here.kind, here.literal, ⟨ts, e, rfl, rest, ended⟩, ⟨noArrow ?_, ?_⟩, rfl, rfl⟩
      · simpa using ended
      · intro u hu
        obtain hu | hu := List.mem_append.1 hu
        · exact arrows u (List.mem_cons_of_mem t hu)
        · obtain rfl := List.mem_singleton.1 hu
          exact noArrow ended

end Parse

namespace Node

open Word

/-- The parentheses of a printed operator tree are right: its text is read as the same tree, up to the
last token. The bound on nesting is never reached. -/
theorem IsOperatorTree.read_back {n : Node} (h : n.IsOperatorTree) (indent : Text) :
    ∃ text, n.print indent = .ok text ∧ ∀ depth ≥ Parse.depthBound text, ∃ e s,
      Parse.run depth (.expression Level.lowest) (.start text) = (some e, s) ∧
      s.peek.is .eof ∧ s.complaints = [] ∧ e.Alike n := by
  refine ⟨_, h.print indent, fun depth enough => ?_⟩
  have here := Parse.start_at h.phrase.toRun
    (fun w hw => opens_not_divides (h.phrase.first .none (h.phrase.spaced_none.symm ▸ hw)).2.1) .none
  rw [Gap.text, List.append_nil] at here
  have whole : Parse.Completes n n.words Level.lowest [] :=
    ((Parse.readable h).leads h.lowest_lt_leftLevel (Nat.le_trans (by decide)
      h.comma_le_restLevel)).completes h.words_ne_nil (Nat.le_refl _)
  have long := length_le_spell h.phrase.sound
  rw [Parse.depthBound] at enough
  obtain ⟨e, s, read, alike, left⟩ := whole depth _ (by omega) (by rwa [List.append_nil])
  exact ⟨e, s, read, by simp [Token.is, left.peek_nil], left.clean, alike⟩

/-- A power of a negative number, which no script can say without parentheses. -/
theorem IsOperatorTree.read_back_power :
    ∃ n : Node, n = .binary {} (.unary {} (txt "-") (.identifier {} (txt "a"))) (txt "**")
        (.number {} (txt "2")) ∧
      n.IsOperatorTree ∧ n.print = .ok (txt "(-a) ** 2") ∧
      ∃ e s, Parse.run (Parse.depthBound (txt "(-a) ** 2")) (.expression Level.lowest)
          (.start (txt "(-a) ** 2")) = (some e, s) ∧
        s.peek.is .eof ∧ s.complaints = [] ∧ e.Alike n := by
  have a : ReadsAs .identifier (txt "a") :=
    readsAs_identifier (c := 'a') (by decide) nofun (by decide)
  have two : ReadsAs .number (txt "2") := ⟨_, _, rfl, rfl, rfl, rfl⟩
  have tree : IsOperatorTree (.binary {} (.unary {} (txt "-") (.identifier {} (txt "a"))) (txt "**")
      (.number {} (txt "2"))) :=
    .binary (by decide) (.unary (by decide) (.identifier a (by decide))) (.number two)
  obtain ⟨text, printed, read⟩ := tree.read_back Print.defaultIndent
  have shown : text = txt "(-a) ** 2" := (Except.ok.inj printed).symm
  subst shown
  exact ⟨_, rfl, tree, printed, read _ (Nat.le_refl _)⟩

end Node

end CoScript
