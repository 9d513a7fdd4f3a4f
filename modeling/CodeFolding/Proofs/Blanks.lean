import CodeFolding.Proofs.Lines

set_option autoImplicit false

namespace CodeFolding

namespace Document

theorem isBlank_iff (document : Document) (span : Span) :
    document.isBlank span = true ↔ ∀ offset c, span.start ≤ offset → offset < span.stop →
      document.charAt? offset = some c → Unicode.isBlank c = true := by
  unfold isBlank extract charAt?
  dsimp only
  rw [Array.all_eq_true]
  constructor
  · intro all offset c above below here
    obtain ⟨known, here⟩ := Array.getElem?_eq_some_iff.1 here
    have inside : offset - min span.start (min span.stop document.length) <
        (document.chars.extract (min span.start (min span.stop document.length))
          (min span.stop document.length)).size := by
      rw [Array.size_extract]
      unfold length
      omega
    have blank := all _ inside
    rw [Array.getElem_extract] at blank
    have same : min span.start (min span.stop document.length) +
        (offset - min span.start (min span.stop document.length)) = offset := by
      unfold length
      omega
    simp only [same] at blank
    rwa [here] at blank
  · intro all index inside
    rw [Array.getElem_extract]
    rw [Array.size_extract] at inside
    unfold length at inside
    have known : min span.start (min span.stop document.length) + index <
        document.chars.size := by
      unfold length
      omega
    refine all _ _ ?_ ?_ (Array.getElem?_eq_getElem known)
    · unfold length
      omega
    · unfold length
      omega

/-- What stands behind the end of a line and still on it is its break. -/
theorem isLineBreak_of_lineEnd_le (document : Document) {offset : Nat} {c : Char}
    (here : document.charAt? offset = some c)
    (behind : document.lineEnd (document.lineOf offset) ≤ offset) :
    Unicode.isLineBreak c = true := by
  have known := (Array.getElem?_eq_some_iff.1 here).1
  have bounded := document.lineOf_lt_lineCount offset
  have more : document.lineOf offset + 1 < document.lineCount := by
    apply Decidable.byContradiction
    intro last
    rw [document.lineEnd_of_last (by omega)] at behind
    unfold length at behind
    omega
  have before := document.lt_lineStart_of_lineOf_lt more (Nat.lt_succ_self _)
  obtain ⟨index, ends, next⟩ := document.endsAt_of_lineStart more
  obtain ⟨last, found, breaks, -⟩ := (document.endsAt_iff index).1 ends
  rcases (document.lineEnd_of_next more).2 with ⟨stop, -⟩ | ⟨stop, splits⟩
  · have same : offset = index := by omega
    rw [same, found] at here
    cases here
    exact breaks
  · by_cases first : offset = document.lineEnd (document.lineOf offset)
    · have ret := splits.2.1
      rw [Nat.add_sub_cancel, ← first, here] at ret
      cases ret
      decide
    · have same : offset = index := by omega
      rw [same, found] at here
      cases here
      exact breaks

theorem isBlank_of_isBlankLine (document : Document) {offset : Nat} {c : Char}
    (here : document.charAt? offset = some c)
    (blank : document.isBlankLine (document.lineOf offset) = true) :
    Unicode.isBlank c = true := by
  have known := document.lineOf_lt_lineCount offset
  by_cases behind : document.lineEnd (document.lineOf offset) ≤ offset
  · exact Unicode.isBlank_of_isLineBreak c (document.isLineBreak_of_lineEnd_le here behind)
  · simp only [isBlankLine, Bool.or_eq_true, decide_eq_true_eq] at blank
    have spanned := blank.resolve_left (by omega)
    have start := document.lineStart_lineOf_le offset
    refine (document.isBlank_iff _).1 spanned offset c ?_ ?_ here
    · simp only [lineSpan, Span.ordered_start]
      omega
    · simp only [lineSpan, Span.ordered_stop]
      omega

/-- From the end of a line to an offset further down all is white space, if the lines between are
blank and so is what stands in front of the offset on its own line. -/
theorem isBlank_from_lineEnd (document : Document) {line offset : Nat}
    (above : line < document.lineOf offset)
    (between : ∀ other, line < other → other < document.lineOf offset →
      document.isBlankLine other = true)
    (leading : document.isBlank ⟨document.lineStart (document.lineOf offset), offset⟩ = true) :
    document.isBlank ⟨document.lineEnd line, offset⟩ = true := by
  rw [isBlank_iff] at leading ⊢
  intro place c behind before here
  have lower : line ≤ document.lineOf place := by
    have known := document.lineOf_lt_lineCount offset
    have same := document.lineOf_lineEnd (Nat.lt_trans above known)
    rw [← same]
    exact document.lineOf_mono behind
  have upper : document.lineOf place ≤ document.lineOf offset :=
    document.lineOf_mono (Nat.le_of_lt before)
  rcases Nat.eq_or_lt_of_le lower with first | inside
  · rw [first] at behind
    exact Unicode.isBlank_of_isLineBreak c (document.isLineBreak_of_lineEnd_le here behind)
  · rcases Nat.eq_or_lt_of_le upper with last | further
    · refine leading place c ?_ before here
      have start := document.lineStart_lineOf_le place
      rw [last] at start
      exact start
    · exact document.isBlank_of_isBlankLine here (between _ inside further)

end Document

end CodeFolding
