import CodeFolding.Proofs.Blanks
import Mathlib.Data.List.Basic

set_option autoImplicit false

namespace CodeFolding

/-- White space that ends with a line feed, so that the text behind it begins on a line of its
own. -/
structure BlankLines (head : List Char) : Prop where
  blank : ∀ c ∈ head, Unicode.isBlank c = true
  feeds : head.getLast? = some '\n'

namespace Lines

/-- How many lines end in a text. -/
def breaks (text : List Char) : Nat :=
  (laterStarts 0 text).length

theorem laterStarts_add (count offset : Nat) (text : List Char) :
    laterStarts (count + offset) text = (laterStarts offset text).map (count + ·) := by
  induction text generalizing offset with
  | nil => rfl
  | cons c rest ih =>
    simp only [laterStarts, Nat.add_assoc, ih (offset + 1)]
    split <;> rfl

theorem length_laterStarts (offset : Nat) (text : List Char) :
    (laterStarts offset text).length = breaks text := by
  have shifted := laterStarts_add offset 0 text
  rw [Nat.add_zero] at shifted
  rw [shifted, List.length_map, breaks]

theorem breaks_cons (c : Char) (rest : List Char) :
    breaks (c :: rest) = if endsLine c rest then breaks rest + 1 else breaks rest := by
  rw [breaks, laterStarts]
  split
  · rw [List.length_cons, length_laterStarts]
  · rw [length_laterStarts]

theorem numbers_add (count line : Nat) (text : List Char) :
    numbers (count + line) text = (numbers line text).map (count + ·) := by
  induction text generalizing line with
  | nil => rfl
  | cons c rest ih =>
    simp only [numbers, List.map_cons, ← ih]
    congr 2
    split <;> rfl

/-- Whether a character ends its line shows in what follows it directly. -/
theorem endsLine_append (c : Char) {rest : List Char} (more : rest ≠ []) (text : List Char) :
    endsLine c (rest ++ text) = endsLine c rest := by
  rw [endsLine, endsLine, List.head?_append, Option.or_of_isSome (List.isSome_head?.2 more)]

theorem endsLine_feed (rest : List Char) : endsLine '\n' rest = true := rfl

section Feeds

variable {head : List Char} (feeds : head.getLast? = some '\n') (text : List Char)
include feeds

/-- The tables of lines behind a line feed are those of the text behind it. -/
theorem laterStarts_append (offset : Nat) : laterStarts offset (head ++ text) =
    (laterStarts offset head) ++ laterStarts (head.length + offset) text := by
  induction head generalizing offset with
  | nil => exact nomatch feeds
  | cons c rest ih =>
    cases rest with
    | nil =>
      obtain rfl : c = '\n' := Option.some.inj feeds
      rw [List.singleton_append, laterStarts, laterStarts, endsLine_feed, endsLine_feed, if_pos rfl,
        if_pos rfl, List.length_singleton, Nat.add_comm 1 offset]
      rfl
    | cons d more =>
      rw [List.getLast?_cons_cons] at feeds
      have moved : (c :: d :: more).length + offset = (d :: more).length + (offset + 1) := by
        rw [List.length_cons]
        omega
      rw [List.cons_append, laterStarts, laterStarts, endsLine_append c (List.cons_ne_nil d more),
        ih feeds (offset + 1), moved]
      split <;> rfl

theorem numbers_append (line : Nat) : numbers line (head ++ text) =
    (numbers line head).dropLast ++ numbers (breaks head + line) text := by
  induction head generalizing line with
  | nil => exact nomatch feeds
  | cons c rest ih =>
    cases rest with
    | nil =>
      obtain rfl : c = '\n' := Option.some.inj feeds
      have one : breaks ['\n'] = 1 := rfl
      rw [List.singleton_append, numbers, numbers, endsLine_feed, endsLine_feed, if_pos rfl, one,
        Nat.add_comm 1 line]
      rfl
    | cons d more =>
      rw [List.getLast?_cons_cons] at feeds
      have inner : ∀ line, numbers line (d :: more) ≠ [] := fun line => List.cons_ne_nil _ _
      rw [List.cons_append, numbers, numbers, endsLine_append c (List.cons_ne_nil d more),
        ih feeds, breaks_cons c, List.dropLast_cons_of_ne_nil (inner _), List.cons_append]
      split
      · rw [Nat.add_assoc, Nat.add_comm 1 line]
      · rfl

/-- The line behind the last line feed begins where the text ends. -/
theorem getLast?_laterStarts (offset : Nat) :
    (laterStarts offset head).getLast? = some (head.length + offset) := by
  induction head generalizing offset with
  | nil => exact nomatch feeds
  | cons c rest ih =>
    cases rest with
    | nil =>
      obtain rfl : c = '\n' := Option.some.inj feeds
      rw [laterStarts, endsLine_feed, if_pos rfl, List.length_singleton, Nat.add_comm 1 offset]
      rfl
    | cons d more =>
      rw [List.getLast?_cons_cons] at feeds
      have later := ih feeds (offset + 1)
      have moved : (c :: d :: more).length + offset = (d :: more).length + (offset + 1) := by
        rw [List.length_cons]
        omega
      rw [laterStarts, moved]
      split
      · rw [List.getLast?_cons, later, Option.getD_some]
      · exact later

theorem starts_append :
    starts (head ++ text) = (starts head).dropLast ++ (starts text).map (head.length + ·) := by
  have last := getLast?_laterStarts feeds 0
  have some : laterStarts 0 head ≠ [] := by
    intro none
    rw [none] at last
    exact nomatch last
  have ends : (laterStarts 0 head).dropLast ++ [head.length + 0] = laterStarts 0 head :=
    List.dropLast_append_getLast? _ last
  rw [starts, starts, starts, laterStarts_append feeds, laterStarts_add,
    List.dropLast_cons_of_ne_nil some, List.map_cons, List.cons_append]
  congr 1
  calc laterStarts 0 head ++ (laterStarts 0 text).map (head.length + ·)
      = ((laterStarts 0 head).dropLast ++ [head.length + 0]) ++
          (laterStarts 0 text).map (head.length + ·) := by rw [ends]
    _ = (laterStarts 0 head).dropLast ++
          ((head.length + 0) :: (laterStarts 0 text).map (head.length + ·)) := by
        rw [List.append_assoc, List.singleton_append]

end Feeds

end Lines

namespace Span

/-- The span with both bounds moved on. -/
def lower (count : Nat) (span : Span) : Span :=
  ⟨count + span.start, count + span.stop⟩

@[simp] theorem lower_start (count : Nat) (span : Span) :
    (span.lower count).start = count + span.start := rfl

@[simp] theorem lower_stop (count : Nat) (span : Span) :
    (span.lower count).stop = count + span.stop := rfl

theorem ordered_add (count a b : Nat) :
    ordered (count + a) (count + b) = (ordered a b).lower count := by
  simp only [ordered, lower, Nat.add_min_add_left, Nat.add_max_add_left]

end Span

namespace Document

/-- The document with `head` in front of its text. -/
def prepend (head : List Char) (document : Document) : Document :=
  ofChars (head.toArray ++ document.chars)

variable (head : List Char) (document : Document)

theorem chars_prepend : (document.prepend head).chars = head.toArray ++ document.chars := rfl

@[simp] theorem length_prepend :
    (document.prepend head).length = head.length + document.length := by
  simp only [length, chars_prepend, Array.size_append, List.size_toArray]

@[simp] theorem charAt?_prepend (offset : Nat) :
    (document.prepend head).charAt? (head.length + offset) = document.charAt? offset := by
  rw [charAt?, chars_prepend, Array.getElem?_append_right (by simp), List.size_toArray,
    Nat.add_sub_cancel_left, charAt?]

theorem charAt?_prepend_of_lt {offset : Nat} (before : offset < head.length) :
    (document.prepend head).charAt? offset = head[offset]? := by
  rw [charAt?, chars_prepend, Array.getElem?_append_left (by simpa using before),
    List.getElem?_toArray]

@[simp] theorem extract_prepend (span : Span) :
    (document.prepend head).extract (span.lower head.length) = document.extract span := by
  have size : head.toArray.size = head.length := List.size_toArray
  simp only [extract, length_prepend, Span.lower_start, Span.lower_stop, Nat.add_min_add_left,
    chars_prepend, Array.extract_append, size, Nat.add_sub_cancel_left]
  rw [Array.extract_eq_empty_of_le (by omega), Array.empty_append]

@[simp] theorem slice_prepend (span : Span) :
    (document.prepend head).slice (span.lower head.length) = document.slice span := by
  rw [slice, slice, extract_prepend]

@[simp] theorem isBlank_prepend (span : Span) :
    (document.prepend head).isBlank (span.lower head.length) = document.isBlank span := by
  rw [isBlank, isBlank, extract_prepend]

variable {head}

theorem lineCount_prepend (lines : BlankLines head) :
    (document.prepend head).lineCount = Lines.breaks head + document.lineCount := by
  rw [lineCount_eq, lineCount_eq, chars_prepend, Array.toList_append, List.toList_toArray,
    Lines.laterStarts_append lines.feeds, List.length_append, Lines.length_laterStarts,
    Lines.length_laterStarts, Lines.length_laterStarts, Nat.add_assoc]

theorem lastLine_prepend (lines : BlankLines head) :
    (document.prepend head).lastLine = Lines.breaks head + document.lastLine := by
  have some : 1 ≤ document.lineCount := by
    rw [lineCount_eq]
    omega
  rw [lastLine, lastLine, lineCount_prepend document lines, Nat.add_sub_assoc some]

theorem lineOf_prepend (lines : BlankLines head) (offset : Nat) :
    (document.prepend head).lineOf (head.length + offset) =
      Lines.breaks head + document.lineOf offset := by
  have whole := (document.prepend head).lineOf_eq_getElem? (head.length + offset)
  have part := document.lineOf_eq_getElem? offset
  have front : (Lines.numbers 0 head).dropLast.length = head.length := by
    rw [List.length_dropLast, Lines.length_numbers, Nat.add_sub_cancel]
  rw [length_prepend, Nat.add_min_add_left, chars_prepend, Array.toList_append,
    List.toList_toArray, Lines.numbers_append lines.feeds, Lines.numbers_add,
    List.getElem?_append_right (by omega), front, Nat.add_sub_cancel_left, List.getElem?_map,
    part] at whole
  exact (Option.some.inj whole).symm

theorem lineStart_prepend (lines : BlankLines head) (line : Nat) :
    (document.prepend head).lineStart (Lines.breaks head + line) =
      head.length + document.lineStart line := by
  have front : (Lines.starts head).dropLast.length = Lines.breaks head := by
    rw [List.length_dropLast, Lines.starts, List.length_cons, Nat.add_sub_cancel, Lines.breaks]
  have known : min line document.lastLine < (Lines.starts document.chars.toList).length := by
    have count := document.lineCount_eq
    rw [Lines.starts, List.length_cons, ← count, lastLine]
    omega
  simp only [lineStart, lastLine_prepend document lines, Nat.add_min_add_left, lineStarts_eq,
    chars_prepend, Array.toList_append, Lines.starts_append lines.feeds,
    Array.getD_eq_getD_getElem?, List.getElem?_toArray]
  rw [List.getElem?_append_right (by omega), front, Nat.add_sub_cancel_left, List.getElem?_map,
    List.getElem?_eq_getElem known]
  rfl

theorem lineEndWithBreak_prepend (lines : BlankLines head) (line : Nat) :
    (document.prepend head).lineEndWithBreak (Lines.breaks head + line) =
      head.length + document.lineEndWithBreak line := by
  simp only [lineEndWithBreak, lastLine_prepend document lines, lineCount_prepend document lines,
    Nat.add_min_add_left, length_prepend, Nat.add_assoc, Nat.add_lt_add_iff_left,
    lineStart_prepend document lines]
  split <;> rfl

theorem lineEnd_prepend (lines : BlankLines head) (line : Nat) :
    (document.prepend head).lineEnd (Lines.breaks head + line) =
      head.length + document.lineEnd line := by
  simp only [lineEnd, lineStart_prepend document lines, lineEndWithBreak_prepend document lines]
  generalize document.lineStart line = start
  generalize document.lineEndWithBreak line = stop
  -- The last characters of the line are looked up behind its start, so they are old ones.
  have last : ∀ back, (if head.length + start < head.length + stop - back then
      (document.prepend head).charAt? (head.length + stop - back - 1) else none) =
        if start < stop - back then document.charAt? (stop - back - 1) else none := by
    intro back
    by_cases inside : start < stop - back
    · rw [if_pos inside, if_pos (by omega), show head.length + stop - back - 1 =
        head.length + (stop - back - 1) by omega, charAt?_prepend]
    · rw [if_neg inside, if_neg (by omega)]
  have one := last 0
  have two := last 1
  simp only [Nat.sub_zero] at one
  rw [one, two]
  by_cases filled : start < stop
  · rw [if_pos filled]
    cases document.charAt? (stop - 1) with
    | none => rfl
    | some c =>
      dsimp only
      by_cases feed : c = '\n'
      · rw [if_pos feed, if_pos feed]
        by_cases ret : (if start < stop - 1 then document.charAt? (stop - 1 - 1) else none) =
            some '\r'
        · rw [if_pos ret, if_pos ret]
          have room : start < stop - 1 := by
            apply Decidable.byContradiction
            intro short
            rw [if_neg short] at ret
            cases ret
          omega
        · rw [if_neg ret, if_neg ret]
          omega
      · rw [if_neg feed, if_neg feed]
        split <;> omega
  · rw [if_neg filled]

theorem lineSpan_prepend (lines : BlankLines head) (line : Nat) :
    (document.prepend head).lineSpan (Lines.breaks head + line) =
      (document.lineSpan line).lower head.length := by
  rw [lineSpan, lineSpan, lineStart_prepend document lines, lineEnd_prepend document lines,
    Span.ordered_add]

theorem isBlankLine_prepend (lines : BlankLines head) (line : Nat) :
    (document.prepend head).isBlankLine (Lines.breaks head + line) =
      document.isBlankLine line := by
  simp only [isBlankLine, lineCount_prepend document lines, lineSpan_prepend document lines,
    isBlank_prepend, Nat.add_le_add_iff_left]

theorem isBlankLine_of_lt_breaks (lines : BlankLines head) {line : Nat}
    (above : line < Lines.breaks head) : (document.prepend head).isBlankLine line = true := by
  have first := lineOf_prepend document lines 0
  have ends : (document.prepend head).lineEnd line < head.length :=
    (document.prepend head).lineEnd_lt_of_lt_lineOf (by
      rw [← Nat.add_zero head.length, first]
      omega)
  have known : line < (document.prepend head).lineCount := by
    rw [lineCount_prepend document lines]
    omega
  have starts := (document.prepend head).lineStart_le_lineEnd known
  rw [isBlankLine, Bool.or_eq_true]
  right
  rw [isBlank_iff, lineSpan, Span.ordered_of_le _ _ starts]
  intro offset c _ before here
  rw [charAt?_prepend_of_lt head document (Nat.lt_trans before ends)] at here
  exact lines.blank c (List.mem_of_getElem? here)

end Document

end CodeFolding
