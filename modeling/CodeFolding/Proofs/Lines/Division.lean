import CodeFolding.Proofs.Blanks

set_option autoImplicit false

namespace CodeFolding

namespace Lines

/-- What can stand between two lines. -/
def separators : List (List Char) :=
  [['\r', '\n'], ['\n'], ['\r'], ['\x0b'], ['\x0c'], ['\u0085'], ['\u2028'], ['\u2029']]

/-- The characters that end a line are those that divide lines alone. -/
theorem singleton_mem_separators (c : Char) :
    [c] ∈ separators ↔ Unicode.isLineBreak c = true := by
  simp only [separators, List.mem_cons, List.cons.injEq, reduceCtorEq, and_false, and_true,
    List.not_mem_nil, or_false, false_or, Unicode.isLineBreak, Bool.or_eq_true, Bool.and_eq_true,
    decide_eq_true_eq, beq_iff_eq, ← Char.toNat_inj, Char.reduceToNat]
  omega

end Lines

namespace Document

variable (document : Document)

/-- What stands behind the end of a line and still belongs to it. -/
def lineBreak (line : Nat) : String :=
  document.slice (Span.ordered (document.lineEnd line) (document.lineEndWithBreak line))

section Slices

variable {first last : Nat} (inOrder : first ≤ last) (inside : last ≤ document.length)
include inOrder inside

theorem toList_slice_ordered :
    (document.slice (Span.ordered first last)).toList =
      (document.chars.toList.take last).drop first := by
  rw [Span.ordered_of_le _ _ inOrder, document.toList_slice inOrder inside, List.drop_take]

/-- A piece of the text goes on where the text in front of it ends. -/
theorem take_append_slice :
    document.chars.toList.take first ++ (document.slice (Span.ordered first last)).toList =
      document.chars.toList.take last := by
  have front : document.chars.toList.take first =
      (document.chars.toList.take last).take first := by
    rw [List.take_take, Nat.min_eq_left inOrder]
  rw [document.toList_slice_ordered inOrder inside, front, List.take_append_drop]

theorem exists_charAt?_of_mem_slice {c : Char}
    (member : c ∈ (document.slice (Span.ordered first last)).toList) :
    ∃ offset, first ≤ offset ∧ offset < last ∧ document.charAt? offset = some c := by
  rw [document.toList_slice_ordered inOrder inside] at member
  obtain ⟨index, found⟩ := List.mem_iff_getElem?.1 member
  rw [List.getElem?_drop, List.getElem?_take] at found
  split at found
  · rename_i before
    refine ⟨first + index, Nat.le_add_right first index, before, ?_⟩
    rwa [Array.getElem?_toList] at found
  · exact nomatch found

end Slices

theorem slice_point (offset : Nat) : document.slice (Span.ordered offset offset) = "" := by
  apply document.slice_of_empty
  simp only [Span.ordered_start, Span.ordered_stop, Nat.min_self, Nat.max_self, Nat.le_refl]

theorem toList_slice_of_charAt? {first last : Nat} {c : Char}
    (here : document.charAt? first = some c) (inOrder : first < last)
    (inside : last ≤ document.length) :
    (document.slice (Span.ordered first last)).toList =
      c :: (document.slice (Span.ordered (first + 1) last)).toList := by
  have found : (document.chars.toList.take last)[first]? = some c := by
    rw [List.getElem?_take_of_lt inOrder, Array.getElem?_toList]
    exact here
  rw [document.toList_slice_ordered (Nat.le_of_lt inOrder) inside,
    document.toList_slice_ordered inOrder inside, List.drop_eq_getElem?_toList_append, found]
  rfl

theorem lineEndWithBreak_le_length {line : Nat} (known : line < document.lineCount) :
    document.lineEndWithBreak line ≤ document.length := by
  by_cases more : line + 1 < document.lineCount
  · rw [document.lineEndWithBreak_of_next more]
    exact document.lineStart_le_length more
  · exact Nat.le_of_eq (document.lineEndWithBreak_of_last (by omega))

theorem lineEnd_le_lineEndWithBreak {line : Nat} (known : line < document.lineCount) :
    document.lineEnd line ≤ document.lineEndWithBreak line := by
  by_cases more : line + 1 < document.lineCount
  · rw [document.lineEndWithBreak_of_next more]
    exact Nat.le_of_lt (document.lineEnd_lt_lineStart more)
  · rw [document.lineEndWithBreak_of_last (by omega)]
    exact document.lineEnd_le_length known

theorem lineStart_lt_lineStart {line other : Nat} (above : line < other)
    (known : other < document.lineCount) :
    document.lineStart line < document.lineStart other := by
  induction other with
  | zero => omega
  | succ other ih =>
    have next := document.lineStart_lt_succ known
    by_cases adjacent : line = other
    · rwa [adjacent]
    · exact Nat.lt_trans (ih (by omega) (by omega)) next

/-- What stands on a line in front of its end is no break. -/
theorem isLineBreak_eq_false_of_lt_lineEnd {offset : Nat} {c : Char}
    (here : document.charAt? offset = some c)
    (before : offset < document.lineEnd (document.lineOf offset)) :
    Unicode.isLineBreak c = false := by
  apply Bool.eq_false_iff.2
  intro breaks
  by_cases pair : c = '\r' ∧ document.charAt? (offset + 1) = some '\n'
  · -- The line ends in front of the whole break, so at the carriage return.
    have splits : document.SplitsBreak (offset + 1) := by
      refine ⟨Nat.succ_pos offset, ?_, pair.2⟩
      rw [Nat.add_sub_cancel, here, pair.1]
    have ends := document.lineEnd_lineOf_of_splitsBreak splits
    have same : document.lineOf offset = document.lineOf (offset + 1) := by
      rw [← document.lineOf_lineEnd (document.lineOf_lt_lineCount (offset + 1))]
      congr 1
      omega
    rw [same] at before
    omega
  · have ends := (document.endsAt_iff offset).2 ⟨c, here, breaks, pair⟩
    have next := document.lineStart_of_endsAt ends
    have stops := document.lineEnd_lt_lineStart next.1
    omega

section Line

variable {line : Nat} (known : line < document.lineCount)
include known

theorem lineText?_eq : document.lineText? line =
    some (document.slice (Span.ordered (document.lineStart line) (document.lineEnd line))) := by
  simp only [lineText?, known, ↓reduceIte, lineSpan]

theorem isLineBreak_eq_false_of_mem_line {c : Char} (member : c ∈ (document.slice
      (Span.ordered (document.lineStart line) (document.lineEnd line))).toList) :
    Unicode.isLineBreak c = false := by
  obtain ⟨offset, begins, before, here⟩ := document.exists_charAt?_of_mem_slice
    (document.lineStart_le_lineEnd known) (document.lineEnd_le_length known) member
  have same : document.lineOf offset = line := by
    apply (document.lineOf_eq_iff known).2
    refine ⟨begins, ?_⟩
    intro more
    exact Nat.lt_trans before (document.lineEnd_lt_lineStart more)
  apply document.isLineBreak_eq_false_of_lt_lineEnd here
  rwa [same]

/-- A line and its break lead from where the line begins to where it ends. -/
theorem take_lineStart_append :
    document.chars.toList.take (document.lineStart line) ++
        (((document.lineText? line).getD "") ++ document.lineBreak line).toList =
      document.chars.toList.take (document.lineEndWithBreak line) := by
  rw [document.lineText?_eq known, Option.getD_some, String.toList_append, ← List.append_assoc,
    document.take_append_slice (document.lineStart_le_lineEnd known)
      (document.lineEnd_le_length known)]
  exact document.take_append_slice (document.lineEnd_le_lineEndWithBreak known)
    (document.lineEndWithBreak_le_length known)

/-- The lines down to one of them, with their breaks, are the text up to where it ends. -/
theorem flatMap_lines :
    (List.range (line + 1)).flatMap
        (fun each => (((document.lineText? each).getD "") ++ document.lineBreak each).toList) =
      document.chars.toList.take (document.lineEndWithBreak line) := by
  induction line with
  | zero =>
    have piece := document.take_lineStart_append known
    rw [lineStart_zero, List.take_zero, List.nil_append] at piece
    rw [List.range_one, List.flatMap_singleton]
    exact piece
  | succ line ih =>
    have above := ih (by omega)
    rw [document.lineEndWithBreak_of_next known] at above
    rw [List.range_succ, List.flatMap_append, List.flatMap_singleton, above]
    exact document.take_lineStart_append known

end Line

theorem lineBreak_mem_separators {line : Nat} (more : line + 1 < document.lineCount) :
    (document.lineBreak line).toList ∈ Lines.separators := by
  have known : line < document.lineCount := by omega
  have inside := document.lineStart_le_length more
  unfold lineBreak
  rw [document.lineEndWithBreak_of_next more]
  rcases (document.lineEnd_of_next more).2 with ⟨next, -⟩ | ⟨next, splits⟩
  · have present : document.lineEnd line < document.chars.size := by
      unfold length at inside
      omega
    have here : document.charAt? (document.lineEnd line) =
        some (document.chars[document.lineEnd line]) := Array.getElem?_eq_getElem present
    have breaks := document.isLineBreak_of_lineEnd_le here
      (Nat.le_of_eq (by rw [document.lineOf_lineEnd known]))
    rw [document.toList_slice_of_charAt? here (by omega) inside, next, slice_point]
    exact (Lines.singleton_mem_separators _).2 breaks
  · have ret := splits.2.1
    rw [Nat.add_sub_cancel] at ret
    rw [document.toList_slice_of_charAt? ret (by omega) inside,
      document.toList_slice_of_charAt? splits.2.2 (by omega) inside, Nat.add_assoc, next,
      slice_point]
    exact List.mem_cons_self

theorem lineBreak_of_last {line : Nat} (last : line + 1 = document.lineCount) :
    document.lineBreak line = "" := by
  rw [lineBreak, document.lineEnd_of_last last, document.lineEndWithBreak_of_last last,
    slice_point]

theorem text_eq_join : document.text = String.join ((List.range document.lineCount).map
    fun line => ((document.lineText? line).getD "") ++ document.lineBreak line) := by
  have last : document.lastLine + 1 = document.lineCount := by
    have bound := document.lineOf_lt_lineCount 0
    unfold lastLine
    omega
  have all := document.flatMap_lines (show document.lastLine < document.lineCount by omega)
  rw [last, document.lineEndWithBreak_of_last last, length, ← Array.length_toList,
    List.take_length] at all
  rw [← String.toList_inj, String.toList_join, List.flatMap_map, all, text, String.toList_ofList]

theorem lineOf_min (offset : Nat) :
    document.lineOf (min offset document.length) = document.lineOf offset := by
  rw [lineOf, lineOf, Nat.min_assoc, Nat.min_self]

/-- The line of an offset is the one that begins no later and whose successor, if there is one,
begins later. -/
theorem lineOf_eq_iff_clamped (offset line : Nat) : document.lineOf offset = line ↔
    line < document.lineCount ∧ document.lineStart line ≤ min offset document.length ∧
      (min offset document.length < document.lineStart (line + 1) ∨
        line + 1 = document.lineCount) := by
  rw [← document.lineOf_min]
  constructor
  · intro on
    have known := document.lineOf_lt_lineCount (min offset document.length)
    rw [on] at known
    have bounds := (document.lineOf_eq_iff known).1 on
    refine ⟨known, bounds.1, ?_⟩
    by_cases more : line + 1 < document.lineCount
    · exact Or.inl (bounds.2 more)
    · exact Or.inr (by omega)
  · intro on
    apply (document.lineOf_eq_iff on.1).2
    refine ⟨on.2.1, ?_⟩
    intro more
    exact on.2.2.resolve_right (by omega)

/-- What the tables of a text say of its lines: where they begin and end, what stands on them and
between them, and which offsets they hold. Offsets past the text count as its end. -/
structure DividesLines : Prop where
  first : document.lineStart 0 = 0
  increasing : ∀ line other, line < other → other < document.lineCount →
    document.lineStart line < document.lineStart other
  nextStart : ∀ line, line + 1 < document.lineCount →
    document.lineEndWithBreak line = document.lineStart (line + 1)
  lastEnd : ∀ line, line + 1 = document.lineCount →
    document.lineEndWithBreak line = document.length
  inOrder : ∀ line, line < document.lineCount →
    document.lineStart line ≤ document.lineEnd line ∧
      document.lineEnd line ≤ document.lineEndWithBreak line
  whole : document.text = String.join ((List.range document.lineCount).map
    fun line => ((document.lineText? line).getD "") ++ document.lineBreak line)
  breakless : ∀ line, line < document.lineCount → ∃ text,
    document.lineText? line = some text ∧ ∀ c ∈ text.toList, [c] ∉ Lines.separators
  separated : ∀ line, line + 1 < document.lineCount →
    (document.lineBreak line).toList ∈ Lines.separators
  unended : ∀ line, line + 1 = document.lineCount → document.lineBreak line = ""
  together : ∀ line, line < document.lineCount →
    ¬ document.SplitsBreak (document.lineStart line)
  lineOf_iff : ∀ offset line, document.lineOf offset = line ↔
    line < document.lineCount ∧ document.lineStart line ≤ min offset document.length ∧
      (min offset document.length < document.lineStart (line + 1) ∨
        line + 1 = document.lineCount)
  monotone : ∀ offset other, offset ≤ other → document.lineOf offset ≤ document.lineOf other
  onOwnLine : ∀ line, line < document.lineCount →
    document.lineOf (document.lineEnd line) = line

/-- Every text is divided into its lines, and every offset is on one of them. -/
theorem dividesLines : document.DividesLines where
  first := document.lineStart_zero
  increasing _ _ := document.lineStart_lt_lineStart
  nextStart _ := document.lineEndWithBreak_of_next
  lastEnd _ := document.lineEndWithBreak_of_last
  inOrder _ known :=
    ⟨document.lineStart_le_lineEnd known, document.lineEnd_le_lineEndWithBreak known⟩
  whole := document.text_eq_join
  breakless line known := by
    refine ⟨_, document.lineText?_eq known, ?_⟩
    intro c member
    rw [Lines.singleton_mem_separators, document.isLineBreak_eq_false_of_mem_line known member]
    exact Bool.false_ne_true
  separated _ := document.lineBreak_mem_separators
  unended _ := document.lineBreak_of_last
  together _ := document.not_splitsBreak_lineStart
  lineOf_iff := document.lineOf_eq_iff_clamped
  monotone _ _ := document.lineOf_mono
  onOwnLine _ := document.lineOf_lineEnd

-- A carriage return alone is a break of its own, also in front of one with a line feed.
example : (List.range 3).map (ofString "a\r\r\nb").lineBreak = ["\r", "\r\n", ""] := by decide

end Document

end CodeFolding
