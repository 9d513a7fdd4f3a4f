import CodeFolding.Proofs.Buffer

set_option autoImplicit false

namespace CodeFolding

namespace Span

/-- What a span keeps in front of a range that is taken out. -/
def inFrontOf (span range : Span) : Span :=
  ⟨min span.start range.start, min span.stop range.start⟩

/-- What a span keeps behind a range that is taken out. -/
def behind (span range : Span) : Span :=
  ⟨max span.start range.stop, max span.stop range.stop⟩

/-- Where a character that is not in a range stands after a text of `length` characters has taken
the place of the range. -/
def shift (range : Span) (length offset : Nat) : Nat :=
  if offset < range.start then offset else offset - range.stop + (range.start + length)

/-- The text that takes the place of a range goes into a span that begins in front of the range,
goes on behind its start, and reaches its end. -/
def TakesIn (span range : Span) : Prop :=
  span.start < range.start ∧ range.start < span.stop ∧ range.stop ≤ span.stop

instance (span range : Span) : Decidable (span.TakesIn range) :=
  inferInstanceAs (Decidable (span.start < range.start ∧ range.start < span.stop ∧
    range.stop ≤ span.stop))

theorem inFrontOf_within {span range : Span} {length : Nat} (within : span.Within length) :
    (span.inFrontOf range).Within length := by
  unfold Within at within ⊢
  simp only [inFrontOf]
  omega

theorem behind_within {span range : Span} {length : Nat} (within : span.Within length)
    (inside : range.Within length) : (span.behind range).Within length := by
  unfold Within at within inside ⊢
  simp only [behind]
  omega

theorem inFrontOf_eq_self {span range : Span} (inOrder : span.start ≤ span.stop)
    (before : span.stop ≤ range.start) : span.inFrontOf range = span := by
  unfold inFrontOf
  rw [Nat.min_eq_left before, Nat.min_eq_left (Nat.le_trans inOrder before)]

theorem behind_eq_self {span range : Span} (inOrder : span.start ≤ span.stop)
    (after : range.stop ≤ span.start) : span.behind range = span := by
  unfold behind
  rw [Nat.max_eq_left after, Nat.max_eq_left (Nat.le_trans after inOrder)]

end Span

def Edit.range (edit : Edit) : Span :=
  ⟨edit.start, edit.stop⟩

namespace Document

variable (document : Document) {span range : Span}

def edit (range : Span) (text : String) : Edit :=
  ⟨range.start, document.slice range, text⟩

@[simp] theorem start_edit (range : Span) (text : String) :
    (document.edit range text).start = range.start := rfl

@[simp] theorem inserted_edit (range : Span) (text : String) :
    (document.edit range text).inserted = text := rfl

theorem stop_edit (inside : range.Within document.length)
    (addressable : document.length ≤ maxOffset) (text : String) :
    (document.edit range text).stop = range.stop := by
  have deleted := document.length_slice inside
  obtain ⟨inOrder, stop⟩ := inside
  have whole : (document.edit range text).start + (document.edit range text).deleted.length =
      range.stop := by
    simp only [edit, deleted]
    omega
  rw [Edit.stop_eq (Nat.le_trans (Nat.le_of_eq whole) stop) addressable, whole]

theorem range_edit (inside : range.Within document.length)
    (addressable : document.length ≤ maxOffset) (text : String) :
    (document.edit range text).range = range := by
  rw [Edit.range, stop_edit document inside addressable text]
  rfl

theorem slice_of_within (within : span.Within document.length) :
    document.slice span =
      String.ofList (document.chars.extract span.start span.stop).toList := by
  obtain ⟨inOrder, inside⟩ := within
  simp only [slice, extract, Nat.min_eq_left inside, Nat.min_eq_left inOrder]

end Document

namespace Edit

variable (edit : Edit) {span : Span}

/-- An offset in front of an edit stays, and none gets there. -/
theorem min_exactOffset (side : Side) (offset : Nat) :
    min (edit.exactOffset side offset) edit.start = min offset edit.start := by
  have moved := edit.exactOffset_cases offset
  cases side <;> omega

/-- An offset behind the deleted text moves with the text, and none gets there. -/
theorem exactOffset_sub (reaches : edit.start ≤ edit.stop) (side : Side) (offset : Nat) :
    edit.exactOffset side offset - (edit.start + edit.inserted.length) = offset - edit.stop := by
  have moved := edit.exactOffset_cases offset
  cases side <;> omega

theorem min_exactSpan (inOrder : span.start ≤ span.stop) :
    min (edit.exactSpan span).start edit.start = min span.start edit.start ∧
      min (edit.exactSpan span).stop edit.start = min span.stop edit.start := by
  have first := edit.min_exactOffset .after span.start
  have last := edit.min_exactOffset .before span.stop
  simp only [exactSpan]
  omega

theorem exactSpan_sub (inOrder : span.start ≤ span.stop) (reaches : edit.start ≤ edit.stop) :
    (edit.exactSpan span).start - (edit.start + edit.inserted.length) = span.start - edit.stop ∧
      (edit.exactSpan span).stop - (edit.start + edit.inserted.length) = span.stop - edit.stop := by
  have first := edit.exactOffset_sub reaches .after span.start
  have last := edit.exactOffset_sub reaches .before span.stop
  simp only [exactSpan]
  omega

/-- The inserted text goes into a span as a whole or not at all. -/
theorem exactSpan_inserted (inOrder : span.start ≤ span.stop) (reaches : edit.start ≤ edit.stop) :
    if span.TakesIn edit.range then
      (edit.exactSpan span).start ≤ edit.start ∧
        edit.start + edit.inserted.length ≤ (edit.exactSpan span).stop
    else (edit.exactSpan span).stop ≤ edit.start ∨
      edit.start + edit.inserted.length ≤ (edit.exactSpan span).start := by
  have first := edit.exactOffset_cases span.start
  have last := edit.exactOffset_cases span.stop
  simp only [exactSpan]
  by_cases takes : span.TakesIn edit.range
  · rw [if_pos takes]
    simp only [Span.TakesIn, range] at takes
    omega
  · rw [if_neg takes]
    simp only [Span.TakesIn, range] at takes
    omega

/-- The characters of a span that are not deleted are those of its image that are not inserted. -/
theorem contains_exactSpan (inOrder : span.start ≤ span.stop) (reaches : edit.start ≤ edit.stop)
    {offset : Nat} (kept : edit.range.contains offset = false) :
    (edit.exactSpan span).contains (edit.range.shift edit.inserted.length offset) =
      span.contains offset := by
  rw [← Bool.not_eq_true, Span.contains_iff] at kept
  rw [Bool.eq_iff_iff, Span.contains_iff, Span.contains_iff, Span.shift]
  by_cases before : offset < edit.range.start
  · have same : ∀ moved bound, min moved edit.start = min bound edit.start →
        (moved ≤ offset ↔ bound ≤ offset) := by
      simp only [range] at before
      omega
    have front := edit.min_exactSpan inOrder
    rw [if_pos before, ← Nat.not_le, ← Nat.not_le]
    exact and_congr (same _ _ front.1) (not_congr (same _ _ front.2))
  · have same : ∀ moved bound,
        moved - (edit.start + edit.inserted.length) = bound - edit.stop →
        (moved ≤ offset - edit.range.stop + (edit.range.start + edit.inserted.length) ↔
          bound ≤ offset) := by
      simp only [range] at before kept ⊢
      omega
    have back := edit.exactSpan_sub inOrder reaches
    rw [if_neg before, ← Nat.not_le, ← Nat.not_le]
    exact and_congr (same _ _ back.1) (not_congr (same _ _ back.2))

end Edit

namespace Buffer

variable {document : Document} {range span : Span}

/-- The characters of a part of a text with a replaced range: those in front of the range, those
that have taken its place, and those behind it. -/
theorem extract_splice (inside : range.Within document.length) (inserted : Array Char)
    (start stop : Nat) (reaches : stop ≤ (splice document range inserted).size) :
    (splice document range inserted).extract start stop =
      document.chars.extract (min start range.start) (min stop range.start) ++
      inserted.extract (start - range.start) (stop - range.start) ++
      document.chars.extract (range.stop + (start - (range.start + inserted.size)))
        (range.stop + (stop - (range.start + inserted.size))) := by
  have size := size_splice document inside inserted
  have chars : document.chars.size = document.length := rfl
  obtain ⟨inOrder, stops⟩ := inside
  have front : (document.chars.extract 0 range.start).size = range.start := by
    rw [Array.size_extract, chars]
    omega
  have begins : document.chars.extract start (min stop range.start) =
      document.chars.extract (min start range.start) (min stop range.start) := by
    by_cases before : start ≤ range.start
    · rw [Nat.min_eq_left before]
    · rw [Array.extract_eq_empty_of_le (by omega), Array.extract_eq_empty_of_le (by omega)]
  have ends : min (range.stop + (stop - (range.start + inserted.size))) document.length =
      range.stop + (stop - (range.start + inserted.size)) := by omega
  rw [splice, Array.extract_append, Array.extract_append, Array.extract_extract,
    Array.extract_extract, Array.size_append, front, Nat.zero_add, Nat.zero_add, begins, ends]

/-- The part of a text at `place` between two offsets that are not in it, where it is known whether
the text lies between them. -/
theorem extract_of_covers {text : String} {covered : Prop} [Decidable covered]
    {start stop place : Nat}
    (covers : if covered then start ≤ place ∧ place + text.length ≤ stop
      else stop ≤ place ∨ place + text.length ≤ start) :
    text.toList.toArray.extract (start - place) (stop - place) =
      (if covered then text else "").toList.toArray := by
  have size : text.toList.toArray.size = text.length := by
    rw [List.size_toArray, String.length_toList]
  split at covers
  · rename_i whole
    rw [if_pos whole, Nat.sub_eq_zero_of_le covers.1]
    exact Array.extract_eq_self_of_le (by omega)
  · rename_i none
    rw [if_neg none]
    exact Array.extract_eq_empty_of_le (by omega)

theorem length_splice (text : String) (inside : range.Within document.length) :
    (Document.ofChars (splice document range text.toList.toArray)).length =
      document.length - range.length + text.length := by
  rw [Document.length_ofChars, size_splice document inside, List.size_toArray,
    String.length_toList]
  rfl

theorem within_exactSpan (text : String) (inside : range.Within document.length)
    (addressable : document.length ≤ maxOffset) (within : span.Within document.length) :
    ((document.edit range text).exactSpan span).Within
      (Document.ofChars (splice document range text.toList.toArray)).length := by
  have deleted : (document.edit range text).deleted.length = range.length :=
    document.length_slice inside
  have reached : (document.edit range text).start + (document.edit range text).deleted.length ≤
      document.length := by
    obtain ⟨inOrder, stop⟩ := inside
    rw [deleted, Document.start_edit, Span.length]
    omega
  have image := (document.edit range text).exactSpan_within reached addressable within
  rw [deleted] at image
  rw [length_splice text inside]
  exact image

/-- If there is room for the new text, no span gets behind the greatest offset. -/
theorem moveSpan_edit (text : String) (inside : range.Within document.length)
    (addressable : document.length ≤ maxOffset)
    (room : document.length - range.length + text.length ≤ maxOffset)
    (within : span.Within document.length) :
    (document.edit range text).moveSpan span = (document.edit range text).exactSpan span := by
  have image := (within_exactSpan text inside addressable within).2
  rw [length_splice text inside] at image
  exact Edit.moveSpan_eq_exactSpan (Nat.le_trans image room)

theorem slice_exactSpan (text : String) (inside : range.Within document.length)
    (addressable : document.length ≤ maxOffset) (within : span.Within document.length) :
    (Document.ofChars (splice document range text.toList.toArray)).slice
        ((document.edit range text).exactSpan span) =
      document.slice (span.inFrontOf range) ++ (if span.TakesIn range then text else "") ++
        document.slice (span.behind range) := by
  have image := within_exactSpan text inside addressable within
  have stop := document.stop_edit inside addressable text
  have reaches : (document.edit range text).start ≤ (document.edit range text).stop := by
    rw [stop]
    exact inside.1
  have front := (document.edit range text).min_exactSpan within.1
  have back := (document.edit range text).exactSpan_sub within.1 reaches
  have inserted := (document.edit range text).exactSpan_inserted within.1 reaches
  rw [document.range_edit inside addressable] at inserted
  simp only [stop, Document.start_edit, Document.inserted_edit] at front back inserted
  generalize (document.edit range text).exactSpan span = moved at *
  rw [Document.slice_of_within _ image, Document.chars_ofChars,
    extract_splice inside _ _ _ image.2, extract_of_covers inserted, List.size_toArray,
    String.length_toList, front.1, front.2, back.1, back.2,
    document.slice_of_within (Span.inFrontOf_within within),
    document.slice_of_within (Span.behind_within within inside)]
  simp only [Span.inFrontOf, Span.behind, Nat.add_comm range.stop, Nat.sub_add_eq_max,
    Array.toList_append, String.ofList_append, String.ofList_toList]

/-- What a span that moves along, from `span` to `moved`, holds when `range` is replaced by `text`:
the same characters as before as far as they are left, and besides nothing but the whole new text
where it takes that in. -/
structure KeepsText (before after : Document) (range : Span) (text : String) (span moved : Span) :
    Prop where
  within : moved.Within after.length
  contains_shift : ∀ offset, range.contains offset = false →
    moved.contains (range.shift text.length offset) = span.contains offset
  slice_eq : after.slice moved =
    before.slice (span.inFrontOf range) ++ (if span.TakesIn range then text else "") ++
      before.slice (span.behind range)
  excludes : span.stop ≤ range.start ∨ range.start ≤ span.start →
    after.slice moved = before.slice (span.inFrontOf range) ++ before.slice (span.behind range)
  includes : span.start < range.start → range.stop < span.stop →
    after.slice moved =
      before.slice (span.inFrontOf range) ++ text ++ before.slice (span.behind range)
  untouched : span.stop ≤ range.start ∨ range.stop ≤ span.start →
    after.slice moved = before.slice span

theorem keepsText_exactSpan (text : String) (inside : range.Within document.length)
    (addressable : document.length ≤ maxOffset) (within : span.Within document.length) :
    KeepsText document (Document.ofChars (splice document range text.toList.toArray)) range text
      span ((document.edit range text).exactSpan span) := by
  have slice := slice_exactSpan text inside addressable within
  have contains : ∀ offset, range.contains offset = false →
      ((document.edit range text).exactSpan span).contains (range.shift text.length offset) =
        span.contains offset := by
    intro offset kept
    have same := document.range_edit inside addressable text
    have reaches : (document.edit range text).range.start ≤
        (document.edit range text).range.stop := by
      rw [same]
      exact inside.1
    rw [← same] at kept
    have contained := (document.edit range text).contains_exactSpan within.1 reaches kept
    rw [same] at contained
    exact contained
  have excludes : span.stop ≤ range.start ∨ range.start ≤ span.start →
      (Document.ofChars (splice document range text.toList.toArray)).slice
          ((document.edit range text).exactSpan span) =
        document.slice (span.inFrontOf range) ++ document.slice (span.behind range) := by
    intro apart
    have leaves : ¬ span.TakesIn range := by
      unfold Span.TakesIn
      omega
    rw [slice, if_neg leaves, String.append_empty]
  refine ⟨within_exactSpan text inside addressable within, contains, slice, excludes, ?_, ?_⟩
  · intro before behind
    have takes : span.TakesIn range := ⟨before, Nat.lt_of_le_of_lt inside.1 behind,
      Nat.le_of_lt behind⟩
    rw [slice, if_pos takes]
  · rintro (before | behind)
    · have none : document.slice (span.behind range) = "" := by
        apply document.slice_of_empty
        have inOrder := inside.1
        simp only [Span.behind]
        omega
      rw [excludes (Or.inl before), Span.inFrontOf_eq_self within.1 before, none,
        String.append_empty]
    · have none : document.slice (span.inFrontOf range) = "" := by
        apply document.slice_of_empty
        have inOrder := inside.1
        simp only [Span.inFrontOf]
        omega
      rw [excludes (Or.inr (Nat.le_trans inside.1 behind)), Span.behind_eq_self within.1 behind,
        none, String.empty_append]

/-- For every text, every range of it that is replaced and every span of it, the image of the span
is within the new text and in order. It holds what is left of the old text of the span, in order and
without any other old text. The new text is left out if the span ends in front of the range or
begins behind its start, and is taken in if the span begins before the range and ends after it. A
span that the range does not touch keeps its text. Offsets are words, so that neither text has more
than `maxOffset` characters. -/
theorem replace_keepsText (buffer : Buffer) (text : String)
    (inside : range.Within buffer.current.document.length)
    (within : span.Within buffer.current.document.length)
    (addressable : buffer.current.document.length ≤ maxOffset)
    (room : buffer.current.document.length - range.length + text.length ≤ maxOffset) :
    ∃ after, buffer.replace range text = .ok after ∧
      KeepsText buffer.current.document after.current.document range text span
        ((buffer.current.document.edit range text).moveSpan span) := by
  refine ⟨_, buffer.replace_of_within text inside, ?_⟩
  rw [moveSpan_edit text inside addressable room within]
  exact keepsText_exactSpan text inside addressable within

/-- A span whose last character is replaced together with the one behind it keeps its other
characters. -/
theorem replace_keepsText_lastChar :
    Span.Within 6 ⟨2, 4⟩ ∧ Span.Within 6 ⟨0, 3⟩ ∧ 6 ≤ maxOffset ∧ 6 - 2 + 3 ≤ maxOffset ∧
      ∃ after, (ofDocument (Document.ofString "abcdef")).replace ⟨2, 4⟩ "xyz" = .ok after ∧
        KeepsText (Document.ofString "abcdef") after.current.document ⟨2, 4⟩ "xyz" ⟨0, 3⟩ ⟨0, 2⟩ :=
  ⟨by decide, by decide, by decide, by decide,
    replace_keepsText (ofDocument (Document.ofString "abcdef")) "xyz" (by decide) (by decide)
      (by decide) (by decide)⟩

end Buffer

end CodeFolding
