import CodeFolding.Document

set_option autoImplicit false

namespace CodeFolding

namespace Lines

/-- Whether the character at `index` is the last one of its line. -/
def endsAt : List Char → Nat → Bool
  | [], _ => false
  | c :: rest, 0 => endsLine c rest
  | _ :: rest, index + 1 => endsAt rest index

theorem endsAt_iff (text : List Char) (index : Nat) :
    endsAt text index = true ↔ ∃ c, text[index]? = some c ∧ Unicode.isLineBreak c = true ∧
      ¬ (c = '\r' ∧ text[index + 1]? = some '\n') := by
  induction text generalizing index with
  | nil => simp only [endsAt, List.getElem?_nil, reduceCtorEq, false_and, exists_false]
  | cons c rest ih =>
    cases index with
    | zero =>
      simp only [endsAt, endsLine, Bool.and_eq_true, Bool.not_eq_true', Bool.and_eq_false_iff,
        beq_eq_false_iff_ne, List.getElem?_cons_zero, Option.some.injEq, exists_eq_left',
        List.getElem?_cons_succ, List.head?_eq_getElem?, Decidable.not_and_iff_not_or_not, ne_eq]
    | succ index => simpa only [endsAt, List.getElem?_cons_succ] using ih index

theorem mem_laterStarts (offset start : Nat) (text : List Char) :
    start ∈ laterStarts offset text ↔
      ∃ index, endsAt text index = true ∧ start = offset + index + 1 := by
  induction text generalizing offset with
  | nil => simp only [laterStarts, endsAt, List.not_mem_nil, Bool.false_eq_true, false_and,
      exists_false]
  | cons c rest ih =>
    have shifted : (∃ index, endsAt rest index = true ∧ start = offset + 1 + index + 1) ↔
        ∃ index, endsAt (c :: rest) (index + 1) = true ∧ start = offset + (index + 1) + 1 := by
      simp only [endsAt, Nat.add_right_comm offset 1, Nat.add_assoc]
    unfold laterStarts
    split
    · rename_i ends
      rw [List.mem_cons, ih, shifted]
      constructor
      · rintro (first | ⟨index, later⟩)
        · exact ⟨0, ends, first⟩
        · exact ⟨index + 1, later⟩
      · rintro ⟨index, here, same⟩
        cases index with
        | zero => exact Or.inl same
        | succ index => exact Or.inr ⟨index, here, same⟩
    · rename_i goesOn
      rw [ih, shifted]
      constructor
      · rintro ⟨index, later⟩
        exact ⟨index + 1, later⟩
      · rintro ⟨index, here, same⟩
        cases index with
        | zero => exact absurd here goesOn
        | succ index => exact ⟨index, here, same⟩

theorem lt_of_mem_laterStarts {offset start : Nat} {text : List Char}
    (later : start ∈ laterStarts offset text) : offset < start := by
  obtain ⟨index, -, same⟩ := (mem_laterStarts offset start text).1 later
  omega

theorem endsAt_lt_length {text : List Char} {index : Nat} (ends : endsAt text index = true) :
    index < text.length := by
  obtain ⟨c, here, -⟩ := (endsAt_iff text index).1 ends
  exact (List.getElem?_eq_some_iff.1 here).1

theorem laterStarts_increasing (offset : Nat) (text : List Char) :
    (laterStarts offset text).Pairwise (· < ·) := by
  induction text generalizing offset with
  | nil => exact List.Pairwise.nil
  | cons c rest ih =>
    unfold laterStarts
    split
    · refine List.Pairwise.cons ?_ (ih (offset + 1))
      intro start later
      exact lt_of_mem_laterStarts later
    · exact ih (offset + 1)

@[simp] theorem length_numbers (line : Nat) (text : List Char) :
    (numbers line text).length = text.length + 1 := by
  induction text generalizing line with
  | nil => rfl
  | cons c rest ih => simp only [numbers, List.length_cons, ih]

theorem le_of_mem_numbers {line number : Nat} {text : List Char}
    (present : number ∈ numbers line text) : line ≤ number := by
  induction text generalizing line with
  | nil => exact Nat.le_of_eq (List.mem_singleton.1 present).symm
  | cons c rest ih =>
    rcases List.mem_cons.1 present with here | later
    · exact Nat.le_of_eq here.symm
    · have above := ih later
      split at above <;> omega

theorem number_le_length_laterStarts {line number : Nat} (offset : Nat) {text : List Char}
    (present : number ∈ numbers line text) :
    number ≤ line + (laterStarts offset text).length := by
  induction text generalizing line offset with
  | nil => exact Nat.le_of_eq (List.mem_singleton.1 present)
  | cons c rest ih =>
    rcases List.mem_cons.1 present with here | later
    · omega
    · have below := ih (offset + 1) later
      unfold laterStarts
      split
      · rename_i ends
        rw [if_pos ends] at below
        rw [List.length_cons]
        omega
      · rename_i goesOn
        rw [if_neg goesOn] at below
        exact below

theorem laterStart_le_iff {line offset index position start number : Nat} {text : List Char}
    (begins : (laterStarts offset text)[index]? = some start)
    (on : (numbers line text)[position]? = some number) :
    start ≤ offset + position ↔ line + index < number := by
  induction text generalizing line offset index position with
  | nil => simp only [laterStarts, List.getElem?_nil, reduceCtorEq] at begins
  | cons c rest ih =>
    have behind := lt_of_mem_laterStarts (List.mem_of_getElem? begins)
    cases position with
    | zero =>
      simp only [numbers, List.getElem?_cons_zero, Option.some.injEq] at on
      omega
    | succ position =>
      simp only [numbers, List.getElem?_cons_succ] at on
      have above := le_of_mem_numbers (List.mem_of_getElem? on)
      by_cases ends : endsLine c rest = true
      · simp only [laterStarts, ends, ↓reduceIte] at begins on above
        cases index with
        | zero =>
          simp only [List.getElem?_cons_zero, Option.some.injEq] at begins
          omega
        | succ index =>
          rw [List.getElem?_cons_succ] at begins
          have shifted := ih begins on
          omega
      · simp only [laterStarts, ends, Bool.false_eq_true, ↓reduceIte] at begins on
        have shifted := ih begins on
        omega

end Lines

namespace Document

theorem lineCount_eq (document : Document) :
    document.lineCount = (Lines.laterStarts 0 document.chars.toList).length + 1 := by
  simp only [lineCount, document.lineStarts_eq, Lines.starts, List.size_toArray, List.length_cons]

theorem lineOf_eq_getElem? (document : Document) (offset : Nat) :
    (Lines.numbers 0 document.chars.toList)[min offset document.length]? =
      some (document.lineOf offset) := by
  have inside : min offset document.length <
      (Lines.numbers 0 document.chars.toList).length := by
    rw [Lines.length_numbers, Array.length_toList]
    unfold length
    omega
  rw [List.getElem?_eq_getElem inside]
  simp only [lineOf, document.lineNumbers_eq, Array.getD_eq_getD_getElem?, List.getElem?_toArray,
    List.getElem?_eq_getElem inside, Option.getD_some]

@[simp] theorem lineStart_zero (document : Document) : document.lineStart 0 = 0 := by
  simp only [lineStart, document.lineStarts_eq, Lines.starts, Nat.zero_min,
    Array.getD_eq_getD_getElem?, List.getElem?_toArray, List.getElem?_cons_zero,
    Option.getD_some]

/-- The line behind line `line` begins at one of the later starts. -/
theorem lineStart_succ_eq_getElem? (document : Document) (line : Nat)
    (known : line + 1 < document.lineCount) :
    (Lines.laterStarts 0 document.chars.toList)[line]? = some (document.lineStart (line + 1)) := by
  have inside : line < (Lines.laterStarts 0 document.chars.toList).length := by
    rw [lineCount_eq] at known
    omega
  have same : min (line + 1) document.lastLine = line + 1 := by
    unfold lastLine
    omega
  simp only [lineStart, same, document.lineStarts_eq, Lines.starts, Array.getD_eq_getD_getElem?,
    List.getElem?_toArray, List.getElem?_cons_succ, List.getElem?_eq_getElem inside,
    Option.getD_some]

theorem lineOf_lt_lineCount (document : Document) (offset : Nat) :
    document.lineOf offset < document.lineCount := by
  have present := List.mem_of_getElem? (document.lineOf_eq_getElem? offset)
  have below := Lines.number_le_length_laterStarts 0 present
  rw [lineCount_eq]
  omega

/-- A line begins no later than an offset exactly if the offset is on that line or below. Offsets
past the text count as its end on both sides. -/
theorem lineStart_le_iff (document : Document) {line : Nat} (offset : Nat)
    (known : line < document.lineCount) :
    document.lineStart line ≤ offset ↔ line ≤ document.lineOf offset := by
  cases line with
  | zero => simp only [lineStart_zero, Nat.zero_le]
  | succ line =>
    have begins := document.lineStart_succ_eq_getElem? line known
    have law := Lines.laterStart_le_iff begins (document.lineOf_eq_getElem? offset)
    obtain ⟨index, ends, start⟩ :=
      (Lines.mem_laterStarts _ _ _).1 (List.mem_of_getElem? begins)
    have inside := Lines.endsAt_lt_length ends
    rw [Array.length_toList] at inside
    unfold length at law
    omega

theorem lineOf_mono (document : Document) {first second : Nat} (inOrder : first ≤ second) :
    document.lineOf first ≤ document.lineOf second := by
  have known := document.lineOf_lt_lineCount first
  apply (document.lineStart_le_iff second known).1
  exact Nat.le_trans ((document.lineStart_le_iff first known).2 (Nat.le_refl _)) inOrder

theorem lineStart_lt_succ (document : Document) {line : Nat}
    (known : line + 1 < document.lineCount) :
    document.lineStart line < document.lineStart (line + 1) := by
  have next := document.lineStart_succ_eq_getElem? line known
  cases line with
  | zero =>
    rw [lineStart_zero]
    exact Lines.lt_of_mem_laterStarts (List.mem_of_getElem? next)
  | succ line =>
    have here := document.lineStart_succ_eq_getElem? line (by omega)
    obtain ⟨hereInside, hereEq⟩ := List.getElem?_eq_some_iff.1 here
    obtain ⟨nextInside, nextEq⟩ := List.getElem?_eq_some_iff.1 next
    rw [← hereEq, ← nextEq]
    exact List.pairwise_iff_getElem.1 (Lines.laterStarts_increasing 0 _) _ _ _ _
      (Nat.lt_succ_self line)

theorem lineStart_lineOf_le (document : Document) (offset : Nat) :
    document.lineStart (document.lineOf offset) ≤ offset :=
  (document.lineStart_le_iff offset (document.lineOf_lt_lineCount offset)).2 (Nat.le_refl _)

theorem lt_lineStart_of_lineOf_lt (document : Document) {line offset : Nat}
    (known : line < document.lineCount) (above : document.lineOf offset < line) :
    offset < document.lineStart line := by
  have law := document.lineStart_le_iff offset known
  omega

theorem lineOf_eq_iff (document : Document) {line offset : Nat}
    (known : line < document.lineCount) :
    document.lineOf offset = line ↔ document.lineStart line ≤ offset ∧
      (line + 1 < document.lineCount → offset < document.lineStart (line + 1)) := by
  have lower := document.lineStart_le_iff offset known
  have bound := document.lineOf_lt_lineCount offset
  constructor
  · intro same
    refine ⟨lower.2 (by omega), ?_⟩
    intro more
    exact document.lt_lineStart_of_lineOf_lt more (by omega)
  · rintro ⟨begins, ends⟩
    by_cases more : line + 1 < document.lineCount
    · have upper := document.lineStart_le_iff offset more
      have before := ends more
      omega
    · omega

theorem endsAt_iff (document : Document) (index : Nat) :
    Lines.endsAt document.chars.toList index = true ↔
      ∃ c, document.charAt? index = some c ∧ Unicode.isLineBreak c = true ∧
        ¬ (c = '\r' ∧ document.charAt? (index + 1) = some '\n') := by
  simp only [Lines.endsAt_iff, charAt?, Array.getElem?_toList]

theorem endsAt_of_lineStart (document : Document) {line : Nat}
    (known : line + 1 < document.lineCount) :
    ∃ index, Lines.endsAt document.chars.toList index = true ∧
      document.lineStart (line + 1) = index + 1 := by
  have begins := document.lineStart_succ_eq_getElem? line known
  obtain ⟨index, ends, start⟩ := (Lines.mem_laterStarts _ _ _).1 (List.mem_of_getElem? begins)
  exact ⟨index, ends, by omega⟩

theorem lineStart_of_endsAt (document : Document) {index : Nat}
    (ends : Lines.endsAt document.chars.toList index = true) :
    document.lineOf index + 1 < document.lineCount ∧
      document.lineStart (document.lineOf index + 1) = index + 1 := by
  have later : index + 1 ∈ Lines.laterStarts 0 document.chars.toList :=
    (Lines.mem_laterStarts _ _ _).2 ⟨index, ends, by omega⟩
  obtain ⟨line, here⟩ := List.getElem?_of_mem later
  have known : line + 1 < document.lineCount := by
    have inside := (List.getElem?_eq_some_iff.1 here).1
    rw [lineCount_eq]
    omega
  have start : document.lineStart (line + 1) = index + 1 := by
    have begins := document.lineStart_succ_eq_getElem? line known
    rw [here] at begins
    exact (Option.some.inj begins).symm
  -- The line found is the one below: it begins behind `index`, and the line above it does not.
  have same : document.lineOf index = line := by
    apply (document.lineOf_eq_iff (by omega)).2
    have above := document.lineStart_lt_succ known
    exact ⟨by omega, fun _ => by omega⟩
  rw [same]
  exact ⟨known, start⟩

/-- The offset lies between a carriage return and the line feed that makes one break with it. -/
def SplitsBreak (document : Document) (offset : Nat) : Prop :=
  0 < offset ∧ document.charAt? (offset - 1) = some '\r' ∧ document.charAt? offset = some '\n'

instance (document : Document) (offset : Nat) : Decidable (document.SplitsBreak offset) :=
  inferInstanceAs (Decidable (_ ∧ _ ∧ _))

theorem endsAt_of_splitsBreak (document : Document) {offset : Nat}
    (splits : document.SplitsBreak offset) :
    Lines.endsAt document.chars.toList offset = true :=
  (document.endsAt_iff offset).2
    ⟨'\n', splits.2.2, by decide, fun both => absurd both.1 (by decide)⟩

theorem not_splitsBreak_lineStart (document : Document) {line : Nat}
    (known : line < document.lineCount) : ¬ document.SplitsBreak (document.lineStart line) := by
  rintro ⟨positive, ret, feed⟩
  cases line with
  | zero =>
    rw [lineStart_zero] at positive
    omega
  | succ line =>
    obtain ⟨index, ends, start⟩ := document.endsAt_of_lineStart known
    obtain ⟨c, here, -, whole⟩ := (document.endsAt_iff index).1 ends
    rw [start] at ret feed
    rw [Nat.add_sub_cancel, here] at ret
    exact whole ⟨Option.some.inj ret, feed⟩

theorem lineEndWithBreak_of_next (document : Document) {line : Nat}
    (more : line + 1 < document.lineCount) :
    document.lineEndWithBreak line = document.lineStart (line + 1) := by
  have same : min line document.lastLine = line := by
    unfold lastLine
    omega
  simp only [lineEndWithBreak, same, more, ↓reduceIte]

theorem lineEndWithBreak_of_last (document : Document) {line : Nat}
    (last : line + 1 = document.lineCount) :
    document.lineEndWithBreak line = document.length := by
  have same : min line document.lastLine = line := by
    unfold lastLine
    omega
  have noMore : ¬ line + 1 < document.lineCount := by omega
  simp only [lineEndWithBreak, same, noMore, ↓reduceIte]

/-- A line that is not the last ends one character in front of the next, or two where its break is
a carriage return and a line feed. -/
theorem lineEnd_of_next (document : Document) {line : Nat}
    (more : line + 1 < document.lineCount) :
    document.lineStart line ≤ document.lineEnd line ∧
      (document.lineEnd line + 1 = document.lineStart (line + 1) ∧
          ¬ document.SplitsBreak (document.lineEnd line) ∨
        document.lineEnd line + 2 = document.lineStart (line + 1) ∧
          document.SplitsBreak (document.lineEnd line + 1)) := by
  have grows := document.lineStart_lt_succ more
  have known : line < document.lineCount := by omega
  have notInside := document.not_splitsBreak_lineStart known
  obtain ⟨index, ends, next⟩ := document.endsAt_of_lineStart more
  obtain ⟨c, here, breaks, -⟩ := (document.endsAt_iff index).1 ends
  simp only [lineEnd, document.lineEndWithBreak_of_next more, next, Nat.add_sub_cancel]
  rw [next] at grows
  simp only [grows, ↓reduceIte, here, breaks]
  by_cases feed : c = '\n'
  · subst feed
    by_cases before : document.lineStart line < index
    · by_cases ret : document.charAt? (index - 1) = some '\r'
      · simp only [before, ret, ↓reduceIte]
        refine ⟨by omega, Or.inr ⟨by omega, by omega, ?_, ?_⟩⟩
        · rwa [show index + 1 - 2 + 1 - 1 = index - 1 by omega]
        · rwa [show index + 1 - 2 + 1 = index by omega]
      · simp only [before, ret, ↓reduceIte]
        exact ⟨by omega, Or.inl ⟨trivial, fun splits => ret splits.2.1⟩⟩
    · have first : document.lineStart line = index := by omega
      rw [first] at notInside
      simp only [before, ↓reduceIte, reduceCtorEq]
      exact ⟨by omega, Or.inl ⟨trivial, notInside⟩⟩
  · simp only [feed, ↓reduceIte]
    refine ⟨by omega, Or.inl ⟨trivial, fun splits => feed ?_⟩⟩
    have found := splits.2.2
    rw [here] at found
    exact Option.some.inj found

theorem lineEnd_of_last (document : Document) {line : Nat}
    (last : line + 1 = document.lineCount) : document.lineEnd line = document.length := by
  simp only [lineEnd, document.lineEndWithBreak_of_last last]
  by_cases some : document.lineStart line < document.length
  · simp only [some, ↓reduceIte]
    split
    · rfl
    · rename_i c here
      -- A break at the very end of the text would have another line behind it.
      have plain : Unicode.isLineBreak c = false := by
        apply Bool.eq_false_iff.2
        intro breaks
        have outside : document.charAt? (document.length - 1 + 1) = none := by
          apply Array.getElem?_eq_none
          unfold length
          omega
        have ends := (document.endsAt_iff (document.length - 1)).2
          ⟨c, here, breaks, fun both => by rw [outside] at both; exact nomatch both.2⟩
        have below := document.lineStart_of_endsAt ends
        have onLast := (document.lineStart_le_iff (document.length - 1) (by omega)).1
          (show document.lineStart line ≤ document.length - 1 by omega)
        omega
      have noFeed : c ≠ '\n' := by
        rintro rfl
        exact absurd plain (by decide)
      simp only [noFeed, plain, ↓reduceIte, Bool.false_eq_true]
  · simp only [some, ↓reduceIte]

theorem lineStart_le_length (document : Document) {line : Nat}
    (known : line < document.lineCount) : document.lineStart line ≤ document.length := by
  cases line with
  | zero =>
    rw [lineStart_zero]
    exact Nat.zero_le _
  | succ line =>
    obtain ⟨index, ends, start⟩ := document.endsAt_of_lineStart known
    have inside := Lines.endsAt_lt_length ends
    rw [Array.length_toList] at inside
    unfold length
    omega

theorem lineStart_le_lineEnd (document : Document) {line : Nat}
    (known : line < document.lineCount) : document.lineStart line ≤ document.lineEnd line := by
  by_cases more : line + 1 < document.lineCount
  · exact (document.lineEnd_of_next more).1
  · rw [document.lineEnd_of_last (by omega)]
    exact document.lineStart_le_length known

theorem lineEnd_lt_lineStart (document : Document) {line : Nat}
    (more : line + 1 < document.lineCount) :
    document.lineEnd line < document.lineStart (line + 1) := by
  rcases (document.lineEnd_of_next more).2 with ⟨next, -⟩ | ⟨next, -⟩ <;> omega

theorem lineEnd_le_length (document : Document) {line : Nat}
    (known : line < document.lineCount) : document.lineEnd line ≤ document.length := by
  by_cases more : line + 1 < document.lineCount
  · have before := document.lineEnd_lt_lineStart more
    have inside := document.lineStart_le_length more
    omega
  · exact Nat.le_of_eq (document.lineEnd_of_last (by omega))

theorem lineOf_lineEnd (document : Document) {line : Nat} (known : line < document.lineCount) :
    document.lineOf (document.lineEnd line) = line :=
  (document.lineOf_eq_iff known).2
    ⟨document.lineStart_le_lineEnd known, fun more => document.lineEnd_lt_lineStart more⟩

theorem lineEnd_lt_of_lt_lineOf (document : Document) {line offset : Nat}
    (above : line < document.lineOf offset) : document.lineEnd line < offset := by
  have known := document.lineOf_lt_lineCount offset
  have more : line + 1 < document.lineCount := by omega
  have begins := (document.lineStart_le_iff offset more).2 above
  have ends := document.lineEnd_lt_lineStart more
  omega

/-- The end of the line of an offset lies one character in front of it if the offset splits the
break of that line. -/
theorem lineEnd_lineOf_of_splitsBreak (document : Document) {offset : Nat}
    (splits : document.SplitsBreak offset) :
    document.lineEnd (document.lineOf offset) + 1 = offset := by
  obtain ⟨more, start⟩ := document.lineStart_of_endsAt (document.endsAt_of_splitsBreak splits)
  rcases (document.lineEnd_of_next more).2 with ⟨next, whole⟩ | ⟨next, -⟩
  · have same : document.lineEnd (document.lineOf offset) = offset := by omega
    rw [same] at whole
    exact absurd splits whole
  · omega

/-- An offset that splits a break is the last one of its line. -/
theorem le_of_splitsBreak (document : Document) {offset other : Nat}
    (splits : document.SplitsBreak offset) (same : document.lineOf other = document.lineOf offset) :
    other ≤ offset := by
  obtain ⟨more, start⟩ := document.lineStart_of_endsAt (document.endsAt_of_splitsBreak splits)
  have before : other < document.lineStart (document.lineOf offset + 1) :=
    document.lt_lineStart_of_lineOf_lt more (by omega)
  omega

/-- An offset that splits no break lies at or in front of the end of its line. -/
theorem le_lineEnd_lineOf (document : Document) {offset : Nat} (inside : offset ≤ document.length)
    (whole : ¬ document.SplitsBreak offset) :
    offset ≤ document.lineEnd (document.lineOf offset) := by
  by_cases more : document.lineOf offset + 1 < document.lineCount
  · have before := document.lt_lineStart_of_lineOf_lt more (Nat.lt_succ_self _)
    rcases (document.lineEnd_of_next more).2 with ⟨next, -⟩ | ⟨next, splits⟩
    · omega
    · apply Decidable.byContradiction
      intro behind
      rw [show document.lineEnd (document.lineOf offset) + 1 = offset by omega] at splits
      exact whole splits
  · have known := document.lineOf_lt_lineCount offset
    rw [document.lineEnd_of_last (by omega)]
    exact inside

end Document

end CodeFolding
