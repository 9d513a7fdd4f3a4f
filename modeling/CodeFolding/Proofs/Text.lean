import CodeFolding.Text

set_option autoImplicit false

namespace CodeFolding

namespace Text

/-- The lines of a text as its breaks divide it. A carriage return counts as a part of a break only
in front of a line feed. -/
def divided : List Char → List (List Char)
  | [] => [[]]
  | c :: rest =>
    if c = '\n' then [] :: divided rest
    else if c = '\r' ∧ rest.head? = some '\n' then divided rest
    else match divided rest with
      | [] => [[c]]
      | line :: later => (c :: line) :: later

theorem isBlank_append (front back : List Char) :
    isBlank (front ++ back) = (isBlank front && isBlank back) :=
  List.all_append

theorem isBlank_concat_return (line : List Char) : isBlank (line ++ ['\r']) = isBlank line := by
  rw [isBlank_append]
  exact Bool.and_true _

theorem isBlank_of_subset {part text : List Char} (within : part ⊆ text)
    (blank : isBlank text = true) : isBlank part = true :=
  List.all_eq_true.2 fun c member => List.all_eq_true.1 blank c (within member)

theorem exists_splitFeeds (text : List Char) :
    ∃ line later, splitFeeds text = line :: later := by
  cases text with
  | nil => exact ⟨[], [], rfl⟩
  | cons c rest =>
    unfold splitFeeds
    split
    · exact ⟨[], splitFeeds rest, rfl⟩
    · split
      · exact ⟨[c], [], rfl⟩
      · exact ⟨c :: _, _, rfl⟩

theorem splitFeeds_cons {c : Char} {rest line : List Char} {later : List (List Char)}
    (other : c ≠ '\n') (split : splitFeeds rest = line :: later) :
    splitFeeds (c :: rest) = (c :: line) :: later := by
  simp only [splitFeeds, other, ↓reduceIte, split]

theorem splitFeeds_head_eq_nil_iff {rest line : List Char} {later : List (List Char)}
    (split : splitFeeds rest = line :: later) (more : rest ≠ []) :
    line = [] ↔ rest.head? = some '\n' := by
  cases rest with
  | nil => exact absurd rfl more
  | cons c rest =>
    by_cases feed : c = '\n'
    · simp only [splitFeeds, feed, ↓reduceIte, List.cons.injEq] at split
      simp only [← split.1, feed, List.head?_cons]
    · obtain ⟨first, others, known⟩ := exists_splitFeeds rest
      rw [splitFeeds_cons feed known, List.cons.injEq] at split
      simp only [← split.1, List.head?_cons, Option.some.injEq, feed, reduceCtorEq]

theorem not_mem_of_mem_splitFeeds {text line : List Char} (member : line ∈ splitFeeds text) :
    '\n' ∉ line := by
  induction text generalizing line with
  | nil =>
    rw [List.mem_singleton.1 member]
    exact List.not_mem_nil
  | cons c rest ih =>
    by_cases feed : c = '\n'
    · simp only [splitFeeds, feed, ↓reduceIte, List.mem_cons] at member
      cases member with
      | inl empty =>
        rw [empty]
        exact List.not_mem_nil
      | inr later => exact ih later
    · obtain ⟨first, others, split⟩ := exists_splitFeeds rest
      rw [splitFeeds_cons feed split] at member
      rw [split] at ih
      cases List.mem_cons.1 member with
      | inl same =>
        rw [same, List.mem_cons]
        exact not_or.2 ⟨Ne.symm feed, ih List.mem_cons_self⟩
      | inr later => exact ih (List.mem_cons_of_mem first later)

theorem exists_mem_splitFeeds {text : List Char} {c : Char} (member : c ∈ text)
    (other : c ≠ '\n') : ∃ line ∈ splitFeeds text, c ∈ line := by
  induction text with
  | nil => exact absurd member List.not_mem_nil
  | cons d rest ih =>
    by_cases feed : d = '\n'
    · have behind : c ∈ rest := by
        apply (List.mem_cons.1 member).resolve_left
        intro same
        exact other (same.trans feed)
      obtain ⟨line, found, on⟩ := ih behind
      refine ⟨line, ?_, on⟩
      simp only [splitFeeds, feed, ↓reduceIte]
      exact List.mem_cons_of_mem [] found
    · obtain ⟨first, others, split⟩ := exists_splitFeeds rest
      rw [splitFeeds_cons feed split]
      rw [split] at ih
      cases List.mem_cons.1 member with
      | inl same =>
        rw [same]
        exact ⟨d :: first, List.mem_cons_self, List.mem_cons_self⟩
      | inr behind =>
        obtain ⟨line, found, on⟩ := ih behind
        cases List.mem_cons.1 found with
        | inl isFirst =>
          rw [isFirst] at on
          exact ⟨d :: first, List.mem_cons_self, List.mem_cons_of_mem d on⟩
        | inr later => exact ⟨line, List.mem_cons_of_mem (d :: first) later, on⟩

theorem splitFeeds_of_not_mem {line : List Char} (feedless : '\n' ∉ line) :
    splitFeeds line = [line] := by
  induction line with
  | nil => rfl
  | cons c rest ih =>
    have both := not_or.1 (mt List.mem_cons.2 feedless)
    exact splitFeeds_cons (Ne.symm both.1) (ih both.2)

theorem splitFeeds_append {line : List Char} (feedless : '\n' ∉ line) (rest : List Char) :
    splitFeeds (line ++ '\n' :: rest) = line :: splitFeeds rest := by
  induction line with
  | nil => rfl
  | cons c more ih =>
    have both := not_or.1 (mt List.mem_cons.2 feedless)
    exact splitFeeds_cons (Ne.symm both.1) (ih both.2)

/-- Lines that are joined by line feeds are read back. -/
theorem splitFeeds_intercalate {lines : List String} (nonempty : lines ≠ [])
    (feedless : ∀ line ∈ lines, '\n' ∉ line.toList) :
    splitFeeds ("\n".intercalate lines).toList = lines.map String.toList := by
  induction lines with
  | nil => exact absurd rfl nonempty
  | cons line rest ih =>
    have here := feedless line List.mem_cons_self
    cases rest with
    | nil => exact splitFeeds_of_not_mem here
    | cons next later =>
      have behind := ih (List.cons_ne_nil next later)
        fun other member => feedless other (List.mem_cons_of_mem line member)
      rw [String.intercalate_cons_cons, String.toList_append, String.toList_append,
        List.append_assoc, List.map_cons, ← behind]
      exact splitFeeds_append here _

theorem dropReturn_cons {c : Char} {line : List Char} (goesOn : ¬ (line = [] ∧ c = '\r')) :
    dropReturn (c :: line) = c :: dropReturn line := by
  cases line with
  | nil =>
    have other : c ≠ '\r' := fun ret => goesOn ⟨rfl, ret⟩
    simp only [dropReturn, List.getLast?_singleton, Option.some.injEq, other, ↓reduceIte]
    rfl
  | cons d rest =>
    unfold dropReturn
    rw [List.getLast?_cons_cons]
    split <;> rfl

theorem dropReturn_subset (line : List Char) : dropReturn line ⊆ line := by
  unfold dropReturn
  split
  · exact List.dropLast_subset line
  · exact List.Subset.refl line

theorem dropReturn_concat {line : List Char} (ends : line.getLast? = some '\r') :
    dropReturn line ++ ['\r'] = line := by
  obtain ⟨front, whole⟩ := List.getLast?_eq_some_iff.1 ends
  rw [dropReturn, if_pos ends, whole, List.dropLast_concat]

theorem dropReturn_of_getLast? {line : List Char} (other : line.getLast? ≠ some '\r') :
    dropReturn line = line := by
  rw [dropReturn, if_neg other]

theorem head?_dropReturn (line : List Char) :
    (dropReturn line).head? = some '\n' ↔ line.head? = some '\n' := by
  cases line with
  | nil => rfl
  | cons c rest =>
    by_cases last : rest = [] ∧ c = '\r'
    · rw [last.1, last.2]
      decide
    · rw [dropReturn_cons last, List.head?_cons, List.head?_cons]

/-- Without a carriage return at its end a text has one and the same lines both ways. -/
theorem lines_eq_divided (text : List Char) : lines text = divided (dropReturn text) := by
  induction text with
  | nil => rfl
  | cons c rest ih =>
    by_cases last : rest = [] ∧ c = '\r'
    · rw [last.1, last.2]
      rfl
    · obtain ⟨line, later, split⟩ := exists_splitFeeds rest
      simp only [dropReturn_cons last, divided, head?_dropReturn, ← ih, lines]
      by_cases feed : c = '\n'
      · rw [if_pos feed, splitFeeds, if_pos feed]
        rfl
      · rw [if_neg feed, splitFeeds_cons feed split, split]
        by_cases pair : c = '\r' ∧ rest.head? = some '\n'
        · have more : rest ≠ [] := fun empty => last ⟨empty, pair.1⟩
          rw [if_pos pair, (splitFeeds_head_eq_nil_iff split more).2 pair.2, pair.1]
          rfl
        · have goesOn : ¬ (line = [] ∧ c = '\r') := by
            rintro ⟨empty, ret⟩
            have more : rest ≠ [] := fun none => last ⟨none, ret⟩
            exact pair ⟨ret, (splitFeeds_head_eq_nil_iff split more).1 empty⟩
          rw [if_neg pair, List.map_cons, List.map_cons, dropReturn_cons goesOn]

/-- A carriage return at the end of the text is on the last line. -/
theorem divided_concat_return (text : List Char) : ∃ front last,
    divided text = front ++ [last] ∧ divided (text ++ ['\r']) = front ++ [last ++ ['\r']] := by
  induction text with
  | nil => exact ⟨[], [], rfl, rfl⟩
  | cons c rest ih =>
    obtain ⟨front, last, without, within⟩ := ih
    have pair : (c = '\r' ∧ (rest ++ ['\r']).head? = some '\n') ↔
        (c = '\r' ∧ rest.head? = some '\n') := by
      cases rest with
      | nil => simp
      | cons d more => rfl
    simp only [List.cons_append, divided, without, within, pair]
    by_cases feed : c = '\n'
    · simp only [feed, ↓reduceIte]
      exact ⟨[] :: front, last, rfl, rfl⟩
    · simp only [feed, ↓reduceIte]
      split
      · exact ⟨front, last, rfl, rfl⟩
      · cases front with
        | nil => exact ⟨[], c :: last, rfl, rfl⟩
        | cons line more => exact ⟨(c :: line) :: more, last, rfl, rfl⟩

end Text

end CodeFolding
