import CodeFolding.Proofs.Buffer.Replay
import CodeFolding.Proofs.Buffer.Survivors

set_option autoImplicit false

namespace CodeFolding

open Change (Leads moveAll)

/-- The range is the end of the span, but not all of it. -/
def Span.LosesEnd (span range : Span) : Prop :=
  span.start < range.start ∧ range.start < range.stop ∧ span.stop = range.stop

instance (span range : Span) : Decidable (span.LosesEnd range) :=
  inferInstanceAs (Decidable (span.start < range.start ∧ range.start < range.stop ∧
    span.stop = range.stop))

theorem Span.point_eq (offset : Nat) : Span.point offset = ⟨offset, offset⟩ :=
  ordered_of_le offset offset (Nat.le_refl offset)

namespace Edit

variable (edit : Edit) {span : Span}

def deletion : Edit :=
  { edit with inserted := "" }

def insertion : Edit :=
  { edit with deleted := "" }

theorem stop_insertion (reaches : edit.start ≤ edit.stop) :
    edit.insertion.stop = edit.start := by
  simp only [stop, insertion, String.length_empty] at reaches ⊢
  omega

/-- A deletion takes all that it deletes to one place, and makes no difference between the sides of
an offset. -/
theorem exactOffset_deletion (reaches : edit.start ≤ edit.stop) (side : Side) (offset : Nat) :
    offset < edit.start ∧ edit.deletion.exactOffset side offset = offset ∨
      edit.start ≤ offset ∧
        edit.deletion.exactOffset side offset = edit.start + (offset - edit.stop) := by
  have moved := edit.deletion.exactOffset_cases offset
  have start : edit.deletion.start = edit.start := rfl
  have stop : edit.deletion.stop = edit.stop := rfl
  have nothing : edit.deletion.inserted.length = 0 := rfl
  cases side <;> omega

/-- An insertion moves what is behind it, and what is at its place depending on the side. -/
theorem exactOffset_insertion (reaches : edit.start ≤ edit.stop) (offset : Nat) :
    (offset ≤ edit.start ∧ edit.insertion.exactOffset .before offset = offset ∨
      edit.start < offset ∧
        edit.insertion.exactOffset .before offset = offset + edit.inserted.length) ∧
    (offset < edit.start ∧ edit.insertion.exactOffset .after offset = offset ∨
      edit.start ≤ offset ∧
        edit.insertion.exactOffset .after offset = offset + edit.inserted.length) := by
  have moved := edit.insertion.exactOffset_cases offset
  have start : edit.insertion.start = edit.start := rfl
  have stop := edit.stop_insertion reaches
  have inserted : edit.insertion.inserted = edit.inserted := rfl
  rw [inserted] at moved
  omega

/-- The start of a span goes the same way in two steps. -/
theorem exactOffset_halves_after (reaches : edit.start ≤ edit.stop) (side : Side) (offset : Nat) :
    edit.insertion.exactOffset .after (edit.deletion.exactOffset side offset) =
      edit.exactOffset .after offset := by
  have once := edit.exactOffset_cases offset
  have deleted := edit.exactOffset_deletion reaches side offset
  have inserted := (edit.exactOffset_insertion reaches (edit.deletion.exactOffset side offset)).2
  omega

/-- The end of a span goes the same way in two steps, unless it is the end of the replaced range. -/
theorem exactOffset_halves_before (reaches : edit.start ≤ edit.stop) (side : Side)
    (offset : Nat) :
    edit.insertion.exactOffset .before (edit.deletion.exactOffset side offset) =
      if offset = edit.stop then edit.start else edit.exactOffset .before offset := by
  have once := edit.exactOffset_cases offset
  have deleted := edit.exactOffset_deletion reaches side offset
  have inserted := (edit.exactOffset_insertion reaches (edit.deletion.exactOffset side offset)).1
  split <;> omega

theorem exactSpan_deletion (reaches : edit.start ≤ edit.stop) (inOrder : span.start ≤ span.stop) :
    edit.deletion.exactSpan span = ⟨edit.deletion.exactOffset .after span.start,
      edit.deletion.exactOffset .before span.stop⟩ := by
  have first := edit.exactOffset_deletion reaches .after span.start
  have last := edit.exactOffset_deletion reaches .before span.stop
  rw [exactSpan, Nat.max_eq_left]
  omega

theorem exactSpan_of_losesEnd (loses : span.LosesEnd edit.range) :
    edit.exactSpan span = ⟨span.start, edit.start + edit.inserted.length⟩ := by
  obtain ⟨before, filled, same⟩ := loses
  have first := edit.exactOffset_cases span.start
  have last := edit.exactOffset_cases span.stop
  simp only [range] at before filled same
  simp only [exactSpan, Span.mk.injEq]
  omega

theorem exactSpan_halves (reaches : edit.start ≤ edit.stop) (inOrder : span.start ≤ span.stop) :
    edit.insertion.exactSpan (edit.deletion.exactSpan span) =
      if span.LosesEnd edit.range then ⟨span.start, edit.start⟩ else edit.exactSpan span := by
  have first := edit.exactOffset_cases span.start
  have last := edit.exactOffset_cases span.stop
  rw [edit.exactSpan_deletion reaches inOrder, exactSpan, edit.exactOffset_halves_after reaches,
    edit.exactOffset_halves_before reaches]
  by_cases loses : span.LosesEnd edit.range
  · rw [if_pos loses]
    obtain ⟨before, filled, same⟩ := loses
    simp only [range] at before filled same
    rw [if_pos same, Span.mk.injEq]
    omega
  · rw [if_neg loses, exactSpan, Span.mk.injEq]
    simp only [Span.LosesEnd, range] at loses
    refine ⟨rfl, ?_⟩
    split <;> omega

end Edit

/-- A span is carried over by the latest changes if they are remembered, whatever else is. -/
theorem Revision.carry_of_latest (revision : Revision) {older recent : List Change}
    {source length lastLength : Nat} (history : revision.history = older ++ recent)
    (earlier : ∀ change ∈ older, change.baseVersion < source)
    (leads : Leads source length recent revision.version lastLength) (span : Span) :
    revision.carry span source = .ok (moveAll recent span) := by
  have reached := leads.last_eq
  have passed : ∀ change ∈ older, (change.baseVersion != source) = true := by
    intro change member
    exact bne_iff_ne.2 (Nat.ne_of_lt (earlier change member))
  have found := leads.dropWhile_base source
  rw [if_pos (Nat.le_refl source), Nat.sub_self, List.drop_zero] at found
  unfold carry
  rw [history, List.dropWhile_append_of_pos passed, found]
  cases recent with
  | nil =>
    rw [List.length_nil, Nat.add_zero] at reached
    rw [if_pos reached.symm]
    rfl
  | cons change rest =>
    rw [List.length_cons] at reached
    rw [if_neg (by omega), if_neg (by omega)]
    dsimp only
    rw [leads.follow span]
    dsimp only
    rw [if_pos rfl]

namespace Buffer

/-- The buffers that come from a text by edits, and by limits on what they keep. -/
inductive Reachable : Buffer → Prop
  | ofDocument (document : Document) : Reachable (ofDocument document)
  | withLimit {buffer : Buffer} (reachable : Reachable buffer) (limit : Nat) :
      Reachable (buffer.withLimit limit)
  | replace {before after : Buffer} {span : Span} {text : String} (reachable : Reachable before)
      (taken : before.replace span text = .ok after) : Reachable after

/-- The latest changes are kept as far as the limit lets them. -/
theorem exists_latest_append {limit : Nat} (changes recent : List Change)
    (few : recent.length ≤ limit) :
    ∃ older, older ⊆ changes ∧ latest limit (changes ++ recent) = older ++ recent := by
  refine ⟨changes.drop (changes.length + recent.length - limit), List.drop_subset _ _, ?_⟩
  unfold latest
  rw [List.length_append]
  exact List.drop_append_of_le_length (by omega)

theorem latest_subset (limit : Nat) (changes : List Change) : latest limit changes ⊆ changes :=
  List.drop_subset _ _

variable {buffer : Buffer}

namespace Reachable

theorem limit_pos (reachable : buffer.Reachable) : 1 ≤ buffer.limit := by
  induction reachable with
  | ofDocument document => exact Nat.le_of_ble_eq_true rfl
  | withLimit _ limit _ => exact Nat.le_max_right limit 1
  | @replace before after span text _ taken ih =>
    obtain ⟨-, rfl⟩ := (before.replace_eq_ok_iff after span text).1 taken
    exact ih

theorem base_lt (reachable : buffer.Reachable) :
    ∀ change ∈ buffer.history, change.baseVersion < buffer.current.version := by
  induction reachable with
  | ofDocument document => exact fun change member => absurd member List.not_mem_nil
  | withLimit _ limit ih => exact fun change member => ih change (latest_subset _ _ member)
  | @replace before after span text _ taken ih =>
    obtain ⟨-, rfl⟩ := (before.replace_eq_ok_iff after span text).1 taken
    intro change member
    rcases List.mem_append.1 (latest_subset _ _ member) with old | new
    · exact Nat.lt_succ_of_lt (ih change old)
    · rw [List.mem_singleton.1 new]
      exact Nat.lt_succ_self _

theorem carry_replaced (reachable : buffer.Reachable) (range : Span) (text : String)
    (span : Span) :
    (buffer.replaced range text).current.carry span buffer.current.version =
      .ok ((buffer.current.document.edit range text).moveSpan span) := by
  obtain ⟨older, known, history⟩ := exists_latest_append buffer.history
    [buffer.changeOf range text] reachable.limit_pos
  have leads : Leads buffer.current.version buffer.current.document.length
      [buffer.changeOf range text] (buffer.current.version + 1)
      (buffer.changeOf range text).lengthAfter := .cons rfl rfl (.nil _ _)
  exact (buffer.replaced range text).current.carry_of_latest history
    (fun change member => reachable.base_lt change (known member)) leads span

/-- If two changes are kept, the current revision carries spans over from the one before the last.
-/
theorem carry_replaced_replaced (reachable : buffer.Reachable) (roomy : 2 ≤ buffer.limit)
    (first second : Span) (one two : String) (span : Span) :
    ((buffer.replaced first one).replaced second two).current.carry span buffer.current.version =
      .ok (((buffer.replaced first one).current.document.edit second two).moveSpan
        ((buffer.current.document.edit first one).moveSpan span)) := by
  obtain ⟨older, known, history⟩ := exists_latest_append buffer.history
    [buffer.changeOf first one, (buffer.replaced first one).changeOf second two] roomy
  have kept : ((buffer.replaced first one).replaced second two).current.history =
      latest buffer.limit (buffer.history ++
        [buffer.changeOf first one, (buffer.replaced first one).changeOf second two]) := by
    have both := latest_latest_append buffer.limit (buffer.history ++ [buffer.changeOf first one])
      ((buffer.replaced first one).changeOf second two)
    rw [List.append_assoc, List.singleton_append] at both
    exact both
  have leads : Leads buffer.current.version buffer.current.document.length
      [buffer.changeOf first one, (buffer.replaced first one).changeOf second two]
      (buffer.current.version + 2) ((buffer.replaced first one).changeOf second two).lengthAfter :=
    .cons rfl rfl (.cons rfl rfl (.nil _ _))
  exact Revision.carry_of_latest _ (kept.trans history)
    (fun change member => reachable.base_lt change (known member)) leads span

end Reachable

variable {document : Document} {range span : Span}

/-- What has been deleted and what has been put in its place make a replacement. -/
theorem splice_halves (inside : range.Within document.length) (inserted : Array Char) :
    splice (Document.ofChars (splice document range #[])) (Span.point range.start) inserted =
      splice document range inserted := by
  have reached : (document.chars.toList.take range.start).length = range.start := by
    rw [List.length_take, Array.length_toList]
    exact Nat.min_eq_left (Nat.le_trans inside.1 inside.2)
  have halved : (Document.ofChars (splice document range #[])).chars.toList =
      document.chars.toList.take range.start ++ document.chars.toList.drop range.stop := by
    rw [Document.chars_ofChars, splice_toList, Array.toList_empty, List.append_nil]
  apply Array.toList_inj.1
  rw [splice_toList, splice_toList, halved, Span.point_eq]
  dsimp only
  rw [List.take_left' reached, List.drop_left' reached]

theorem edit_point_eq_insertion (document emptied : Document) (range : Span) (text : String) :
    emptied.edit (Span.point range.start) text = (document.edit range text).insertion := by
  rw [Document.edit, emptied.slice_of_empty (Nat.le_refl _), Span.point_eq]
  rfl

/-- How a replacement compares with its two halves: `image` is where the replacement takes `span`,
`left` what the deletion leaves of it, and `moved` where the insertion takes that. -/
structure Halved (buffer : Buffer) (range : Span) (text : String) (span : Span)
    (whole emptied filled : Buffer) (image left moved : Span) : Prop where
  replace : buffer.replace range text = .ok whole
  delete : buffer.delete range = .ok emptied
  insert : emptied.insert range.start text = .ok filled
  sameText : filled.current.document = whole.current.document
  carry_whole : whole.current.carry span buffer.current.version = .ok image
  carry_emptied : emptied.current.carry span buffer.current.version = .ok left
  carry_filled : filled.current.carry left emptied.current.version = .ok moved
  carry_both : 2 ≤ buffer.limit →
    filled.current.carry span buffer.current.version = .ok moved
  agree : ¬ span.LosesEnd range → image = moved
  differ : span.LosesEnd range →
    image = ⟨span.start, range.start + text.length⟩ ∧ moved = ⟨span.start, range.start⟩
  excludes : left.stop ≤ range.start ∨ range.start ≤ left.start →
    filled.current.document.slice moved = emptied.current.document.slice left
  excludes_whole : ¬ span.LosesEnd range →
    left.stop ≤ range.start ∨ range.start ≤ left.start →
    whole.current.document.slice image = emptied.current.document.slice left
  includes : span.LosesEnd range →
    whole.current.document.slice image = emptied.current.document.slice left ++ text

theorem length_emptied_le (inside : range.Within document.length) :
    (Document.ofChars (splice document range #[])).length ≤ document.length := by
  have length := size_splice document inside #[]
  obtain ⟨inOrder, stop⟩ := inside
  rw [Document.length_ofChars, length, Array.size_empty]
  omega

theorem point_within_emptied (inside : range.Within document.length) :
    (Span.point range.start).Within (Document.ofChars (splice document range #[])).length := by
  have length := size_splice document inside #[]
  obtain ⟨inOrder, stop⟩ := inside
  rw [Span.point_eq, Document.length_ofChars, length]
  refine ⟨Nat.le_refl _, ?_⟩
  dsimp only
  omega

/-- Text that is inserted at an edge of a span or outside of it stays outside. -/
theorem slice_exactSpan_of_apart (text : String) {offset : Nat}
    (inside : (Span.point offset).Within document.length)
    (addressable : document.length ≤ maxOffset) (within : span.Within document.length)
    (apart : span.stop ≤ offset ∨ offset ≤ span.start) :
    (Document.ofChars (splice document (Span.point offset) text.toList.toArray)).slice
        ((document.edit (Span.point offset) text).exactSpan span) = document.slice span := by
  refine (keepsText_exactSpan text inside addressable within).untouched ?_
  rw [Span.point_eq]
  exact apart

/-- A span that loses its end takes in what comes in its place. -/
theorem slice_exactSpan_of_losesEnd (text : String) (inside : range.Within document.length)
    (addressable : document.length ≤ maxOffset) (within : span.Within document.length)
    (loses : span.LosesEnd range) :
    (Document.ofChars (splice document range text.toList.toArray)).slice
        ((document.edit range text).exactSpan span) =
      (Document.ofChars (splice document range #[])).slice
        ((document.edit range "").exactSpan span) ++ text := by
  have left := slice_exactSpan "" inside addressable within
  have nothing : document.slice (span.behind range) = "" := by
    apply document.slice_of_empty
    simp only [Span.behind, loses.2.2]
    omega
  have takes : span.TakesIn range := by
    obtain ⟨before, filled, same⟩ := loses
    exact ⟨before, same ▸ filled, Nat.le_of_eq same.symm⟩
  rw [ite_self, nothing, String.append_empty, String.append_empty] at left
  rw [slice_exactSpan text inside addressable within, if_pos takes, nothing, String.append_empty]
  exact congrArg (· ++ text) left.symm

/-- For every buffer, every range and every span of its text, to replace the range leads to the same
text as to delete it and to insert the new text in its place, and takes the span to the same place
in one step and in two, unless the range is the end of the span and not all of it. Then the one step
adds the new text to what is left of the span, and the two steps leave it out. Apart from this case,
text put at an edge of what is left of a span stays outside. Offsets are words, so that neither text
has more than `maxOffset` characters. -/
theorem replace_halved (buffer : Buffer) (text : String) (reachable : buffer.Reachable)
    (inside : range.Within buffer.current.document.length)
    (within : span.Within buffer.current.document.length)
    (addressable : buffer.current.document.length ≤ maxOffset)
    (room : buffer.current.document.length - range.length + text.length ≤ maxOffset) :
    ∃ whole emptied filled image left moved,
      buffer.Halved range text span whole emptied filled image left moved := by
  have point := point_within_emptied inside
  have deletes := buffer.replace_of_within "" inside
  have inserts := (buffer.replaced range "").replace_of_within text point
  have second := edit_point_eq_insertion buffer.current.document
    (buffer.replaced range "").current.document range text
  have range_eq := buffer.current.document.range_edit inside addressable text
  have reaches : (buffer.current.document.edit range text).start ≤
      (buffer.current.document.edit range text).stop := by
    rw [buffer.current.document.stop_edit inside addressable]
    exact inside.1
  -- None of the three edits takes the span behind the greatest offset.
  have left := within_exactSpan "" inside addressable within
  have still : (buffer.replaced range "").current.document.length -
      (Span.point range.start).length + text.length ≤ maxOffset := by
    have less : (buffer.replaced range "").current.document.length =
        buffer.current.document.length - range.length := length_splice "" inside
    have empty : (Span.point range.start).length = 0 := by
      rw [Span.point_eq]
      exact Nat.sub_self _
    rw [less, empty]
    exact room
  have wholeMove := moveSpan_edit text inside addressable room within
  have leftMove := moveSpan_edit "" inside addressable
    (Nat.le_trans (Nat.sub_le _ _) addressable) within
  have movedMove : ((buffer.replaced range "").current.document.edit (Span.point range.start)
      text).moveSpan ((buffer.current.document.edit range "").exactSpan span) = _ :=
    moveSpan_edit text point (Nat.le_trans (length_emptied_le inside) addressable) still left
  have both := (buffer.current.document.edit range text).exactSpan_halves reaches within.1
  rw [range_eq, ← second] at both
  have sameText : Document.ofChars (splice (buffer.replaced range "").current.document
      (Span.point range.start) text.toList.toArray) =
      Document.ofChars (splice buffer.current.document range text.toList.toArray) :=
    congrArg Document.ofChars (splice_halves inside text.toList.toArray)
  have excludes := slice_exactSpan_of_apart text point
    (Nat.le_trans (length_emptied_le inside) addressable) left
  refine ⟨buffer.replaced range text, buffer.replaced range "",
    (buffer.replaced range "").replaced (Span.point range.start) text,
    (buffer.current.document.edit range text).exactSpan span,
    (buffer.current.document.edit range "").exactSpan span,
    ((buffer.replaced range "").current.document.edit (Span.point range.start) text).exactSpan
      ((buffer.current.document.edit range "").exactSpan span),
    buffer.replace_of_within text inside, deletes, inserts, sameText, ?_, ?_, ?_, ?_, ?_, ?_,
    excludes, ?_, slice_exactSpan_of_losesEnd text inside addressable within⟩
  · rw [← wholeMove]
    exact reachable.carry_replaced range text span
  · rw [← leftMove]
    exact reachable.carry_replaced range "" span
  · rw [← movedMove]
    exact (reachable.replace deletes).carry_replaced (Span.point range.start) text _
  · intro roomy
    rw [← movedMove, ← leftMove]
    exact reachable.carry_replaced_replaced roomy range (Span.point range.start) "" text span
  · intro keeps
    exact (both.trans (if_neg keeps)).symm
  · intro loses
    refine ⟨?_, both.trans (if_pos loses)⟩
    rw [← range_eq] at loses
    exact (buffer.current.document.edit range text).exactSpan_of_losesEnd loses
  · intro keeps apart
    have sameSlice := congrArg₂ Document.slice sameText (both.trans (if_neg keeps))
    exact sameSlice.symm.trans (excludes apart)

/-- A span that loses its last two characters to a shorter text. -/
theorem replace_halved_lastChars :
    (ofDocument (Document.ofString "abcde")).Reachable ∧ Span.Within 5 ⟨2, 4⟩ ∧
      Span.Within 5 ⟨1, 4⟩ ∧ 5 ≤ maxOffset ∧ 5 - 2 + 1 ≤ maxOffset ∧
      ∃ whole emptied filled image left moved,
        (ofDocument (Document.ofString "abcde")).Halved ⟨2, 4⟩ "x" ⟨1, 4⟩ whole emptied filled image
          left moved :=
  ⟨.ofDocument _, by decide, by decide, by decide, by decide,
    replace_halved (ofDocument (Document.ofString "abcde")) "x" (.ofDocument _) (by decide)
      (by decide) (by decide) (by decide)⟩

/-- To replace the last character of a span is not to delete it and to insert the new one in its
place: the span takes the new character in, and in two steps it leaves it out. -/
theorem replace_lastChar_ne_halves :
    ∃ whole emptied filled,
      (ofDocument (Document.ofString "abc")).replace ⟨1, 2⟩ "x" = .ok whole ∧
      (ofDocument (Document.ofString "abc")).delete ⟨1, 2⟩ = .ok emptied ∧
      emptied.insert 1 "x" = .ok filled ∧
      whole.current.carry ⟨0, 2⟩ 0 = .ok ⟨0, 2⟩ ∧
      whole.current.document.slice ⟨0, 2⟩ = "ax" ∧
      emptied.current.carry ⟨0, 2⟩ 0 = .ok ⟨0, 1⟩ ∧
      filled.current.carry ⟨0, 1⟩ 1 = .ok ⟨0, 1⟩ ∧
      filled.current.carry ⟨0, 2⟩ 0 = .ok ⟨0, 1⟩ :=
  ⟨_, _, _, rfl, rfl, rfl, rfl, rfl, rfl, rfl, rfl⟩

end Buffer

end CodeFolding
