import CodeFolding.Proofs.Span
import CodeFolding.Revision

set_option autoImplicit false

namespace CodeFolding

namespace Edit

variable {edit : Edit} {length : Nat}

/-- Offsets are words, so the end of a text that is deleted from a text is never cut off. -/
theorem stop_eq (inside : edit.start + edit.deleted.length ≤ length)
    (addressable : length ≤ maxOffset) : edit.stop = edit.start + edit.deleted.length := by
  unfold stop
  omega

/-- In front of an edit and behind it, an offset goes the same way on either side. -/
theorem exactOffset_cases (edit : Edit) (offset : Nat) :
    offset < edit.start ∧
        edit.exactOffset .before offset = offset ∧ edit.exactOffset .after offset = offset ∨
      edit.start ≤ offset ∧ (edit.stop < offset ∨ offset = edit.stop ∧ edit.start < edit.stop) ∧
        edit.exactOffset .before offset =
          offset + edit.inserted.length - (edit.stop - edit.start) ∧
        edit.exactOffset .after offset =
          offset + edit.inserted.length - (edit.stop - edit.start) ∨
      edit.start ≤ offset ∧ offset ≤ edit.stop ∧ (offset < edit.stop ∨ edit.stop ≤ edit.start) ∧
        edit.exactOffset .before offset = edit.start ∧
        edit.exactOffset .after offset = edit.start + edit.inserted.length := by
  unfold exactOffset
  split
  · omega
  · split
    · omega
    · dsimp only
      omega

theorem exactOffset_le (inside : edit.start + edit.deleted.length ≤ length)
    (addressable : length ≤ maxOffset) (side : Side) {offset : Nat} (within : offset ≤ length) :
    edit.exactOffset side offset ≤ length - edit.deleted.length + edit.inserted.length := by
  have stop := stop_eq inside addressable
  unfold exactOffset
  split
  · omega
  · split
    · omega
    · cases side <;> dsimp only <;> omega

theorem moveOffset_le_exactOffset (edit : Edit) (side : Side) (offset : Nat) :
    edit.moveOffset side offset ≤ edit.exactOffset side offset :=
  Nat.mod_le _ _

/-- Where the edit takes `span` if offsets have no limit. -/
def exactSpan (edit : Edit) (span : Span) : Span :=
  let start := edit.exactOffset .after span.start
  ⟨start, max (edit.exactOffset .before span.stop) start⟩

theorem exactSpan_within (edit : Edit) (inside : edit.start + edit.deleted.length ≤ length)
    (addressable : length ≤ maxOffset) {span : Span} (within : span.Within length) :
    (edit.exactSpan span).Within (length - edit.deleted.length + edit.inserted.length) := by
  obtain ⟨inOrder, stop⟩ := within
  have first := exactOffset_le inside addressable .after (Nat.le_trans inOrder stop)
  have last := exactOffset_le inside addressable .before stop
  exact ⟨Nat.le_max_right _ _, Nat.max_le.2 ⟨last, first⟩⟩

/-- A span goes where it would without a limit, if that is not behind the greatest offset. -/
theorem moveSpan_eq_exactSpan {span : Span} (fits : (edit.exactSpan span).stop ≤ maxOffset) :
    edit.moveSpan span = edit.exactSpan span := by
  have both := Nat.max_le.1 fits
  have start : edit.moveOffset .after span.start = edit.exactOffset .after span.start :=
    Nat.mod_eq_of_lt (Nat.lt_succ_of_le both.2)
  have stop : edit.moveOffset .before span.stop = edit.exactOffset .before span.stop :=
    Nat.mod_eq_of_lt (Nat.lt_succ_of_le both.1)
  rw [moveSpan, start, stop, exactSpan]

theorem moveSpan_within (edit : Edit) (inside : edit.start + edit.deleted.length ≤ length)
    (addressable : length ≤ maxOffset) {span : Span} (within : span.Within length) :
    (edit.moveSpan span).Within (length - edit.deleted.length + edit.inserted.length) := by
  refine ⟨edit.moveSpan_start_le_stop span, Nat.le_trans ?_
    (edit.exactSpan_within inside addressable within).2⟩
  have start := edit.moveOffset_le_exactOffset .after span.start
  have stop := edit.moveOffset_le_exactOffset .before span.stop
  simp only [moveSpan, exactSpan]
  omega

end Edit

namespace Change

/-- The change leaves spans within the text, which goes from one length to the other. -/
def Fits (change : Change) : Prop :=
  change.lengthBefore ≤ maxOffset → ∀ span : Span, span.Within change.lengthBefore →
    (change.moveSpan span).Within change.lengthAfter

/-- Where changes take a span one after the other. -/
def moveAll (changes : List Change) (span : Span) : Span :=
  changes.foldl (fun span change => change.moveSpan span) span

/-- Where those of `changes`, the changes of a text from its beginning, take a span that lie between
two versions. -/
def moveBetween (changes : List Change) (source target : Nat) (span : Span) : Span :=
  moveAll ((changes.take target).drop source) span

/-- Changes that follow one another without a gap, from a version of a text and its length to
a later version and its length. -/
inductive Leads : Nat → Nat → List Change → Nat → Nat → Prop
  | nil (version length : Nat) : Leads version length [] version length
  | cons {version length last lastLength : Nat} {change : Change} {rest : List Change}
      (base : change.baseVersion = version) (before : change.lengthBefore = length)
      (further : Leads (version + 1) change.lengthAfter rest last lastLength) :
      Leads version length (change :: rest) last lastLength

namespace Leads

variable {version length last lastLength : Nat} {changes : List Change}

theorem last_eq (leads : Leads version length changes last lastLength) :
    last = version + changes.length := by
  induction leads with
  | nil => rfl
  | cons _ _ _ ih =>
    rw [ih, List.length_cons]
    omega

theorem split {front back : List Change}
    (leads : Leads version length (front ++ back) last lastLength) :
    ∃ middle middleLength, Leads version length front middle middleLength ∧
      Leads middle middleLength back last lastLength := by
  induction front generalizing version length with
  | nil => exact ⟨version, length, .nil version length, leads⟩
  | cons change rest ih =>
    rcases leads with _ | ⟨base, before, further⟩
    obtain ⟨middle, middleLength, first, second⟩ := ih further
    exact ⟨middle, middleLength, .cons base before first, second⟩

theorem append {front back : List Change} {middle middleLength : Nat}
    (first : Leads version length front middle middleLength)
    (second : Leads middle middleLength back last lastLength) :
    Leads version length (front ++ back) last lastLength := by
  induction first with
  | nil => exact second
  | cons base before _ ih => exact .cons base before (ih second)

theorem unique {other otherLength : Nat}
    (first : Leads version length changes last lastLength)
    (second : Leads version length changes other otherLength) :
    last = other ∧ lastLength = otherLength := by
  induction first with
  | nil =>
    cases second
    exact ⟨rfl, rfl⟩
  | cons _ _ _ ih =>
    rcases second with _ | ⟨_, _, further⟩
    exact ih further

theorem follow (leads : Leads version length changes last lastLength) (span : Span) :
    Revision.follow version span changes = some (last, moveAll changes span) := by
  induction leads generalizing span with
  | nil => rfl
  | @cons version length last lastLength change rest base before further ih =>
    rw [Revision.follow, if_pos base, ih]
    rfl

/-- The changes that come after a version are found by its number. -/
theorem dropWhile_base (leads : Leads version length changes last lastLength) (source : Nat) :
    changes.dropWhile (fun change => change.baseVersion != source) =
      if version ≤ source then changes.drop (source - version) else [] := by
  induction leads with
  | nil => simp only [List.dropWhile_nil, List.drop_nil, ite_self]
  | @cons version length last lastLength change rest base before further ih =>
    rw [List.dropWhile_cons, base]
    by_cases same : version = source
    · simp only [same, bne_self_eq_false, Bool.false_eq_true, ↓reduceIte, Nat.le_refl,
        Nat.sub_self, List.drop_zero]
    · simp only [bne_iff_ne, ne_eq, same, not_false_eq_true, ↓reduceIte, ih]
      by_cases later : version ≤ source
      · rw [if_pos (by omega), if_pos later, show source - version = source - (version + 1) + 1 by
          omega, List.drop_succ_cons]
      · rw [if_neg (by omega), if_neg later]

/-- Changes that leave spans within the text do so one after the other. -/
theorem moveAll_within (leads : Leads version length changes last lastLength)
    (fits : ∀ change ∈ changes, change.Fits)
    (addressable : ∀ change ∈ changes, change.lengthBefore ≤ maxOffset) {span : Span}
    (within : span.Within length) : (moveAll changes span).Within lastLength := by
  induction leads generalizing span with
  | nil => exact within
  | @cons version length last lastLength change rest base before further ih =>
    refine ih (fun other member => fits other (List.mem_cons_of_mem change member))
      (fun other member => addressable other (List.mem_cons_of_mem change member)) ?_
    have moved := fits change List.mem_cons_self (addressable change List.mem_cons_self) span
    rw [before] at moved
    exact moved within

end Leads

end Change

end CodeFolding
