import CodeFolding.Outline.Preview
import CodeFolding.Proofs.Text
import Mathlib.Data.List.TakeWhile

set_option autoImplicit false

namespace CodeFolding

namespace Preview

/-- What is left of the lines of a text without the blank ones at its top. -/
def remaining (text : List Char) : List (List Char) :=
  (Text.divided text).dropWhile Text.isBlank

/-- The first of these lines, as many as a preview shows, with blanks for their tabs. -/
def kept (tabSize : Nat) (text : List Char) : List (List Char) :=
  ((remaining text).take maxLines).map (expandTabs tabSize)

/-- The lines without their first `shift` characters, or without all where there are fewer. -/
def unindented (shift : Nat) (lines : List (List Char)) : List (List Char) :=
  lines.map (List.drop shift)

/-- `hint` consists of the first lines of `text` without `shift` characters of indentation, and a
mark if there are more. -/
structure UnindentsBy (tabSize : Nat) (text : List Char) (hint : String) (shift : Nat) :
    Prop where
  empty : kept tabSize text = [] → hint = ""
  lines : kept tabSize text ≠ [] → Text.splitFeeds hint.toList =
    unindented shift (kept tabSize text) ++
      if maxLines < (remaining text).length then [ellipsis.toList] else []
  blank : ∀ line ∈ kept tabSize text, Text.isBlank (line.take shift) = true
  flush : kept tabSize text ≠ [] → ∃ line ∈ unindented shift (kept tabSize text),
    ∃ c, line.head? = some c ∧ Unicode.isBlank c = false
  visible : ∀ line, (unindented shift (kept tabSize text)).head? = some line →
    Text.isBlank line = false
  tabless : '\t' ∉ hint.toList

/-- `hint` shows the lines of `text` without the indentation they share, and nothing else is
missing. -/
def Unindents (tabSize : Nat) (text : List Char) (hint : String) : Prop :=
  ∃ shift, UnindentsBy tabSize text hint shift

/-- The text ends in a carriage return, on a line that is shown and behind the indentation that is
taken from it. -/
def LosesReturn (tabSize : Nat) (text : List Char) : Prop :=
  text.getLast? = some '\r' ∧ (remaining text).length ≤ maxLines ∧
    commonIndentation (shown tabSize text) < ((kept tabSize text).getLast?.getD []).length

instance (tabSize : Nat) (text : List Char) : Decidable (LosesReturn tabSize text) :=
  inferInstanceAs (Decidable (_ ∧ _ ∧ _))

section Tabs

variable {tabSize : Nat} {line : List Char} {c : Char}

theorem mem_expandTabs (member : c ∈ expandTabs tabSize line) : c = ' ' ∨ c ∈ line ∧ c ≠ '\t' := by
  obtain ⟨source, on, found⟩ := List.mem_flatMap.1 member
  split at found
  · exact Or.inl (List.eq_of_mem_replicate found)
  · rename_i other
    rw [List.mem_singleton.1 found]
    exact Or.inr ⟨on, other⟩

theorem mem_expandTabs_of_ne (on : c ∈ line) (other : c ≠ '\t') :
    c ∈ expandTabs tabSize line := by
  apply List.mem_flatMap.2
  refine ⟨c, on, ?_⟩
  rw [if_neg other]
  exact List.mem_singleton_self c

theorem tab_not_mem_expandTabs : '\t' ∉ expandTabs tabSize line := by
  intro member
  cases mem_expandTabs member with
  | inl space => exact absurd space (by decide)
  | inr same => exact same.2 rfl

theorem feed_not_mem_expandTabs (feedless : '\n' ∉ line) : '\n' ∉ expandTabs tabSize line := by
  intro member
  cases mem_expandTabs member with
  | inl space => exact absurd space (by decide)
  | inr same => exact feedless same.1

theorem isBlank_expandTabs (solid : Text.isBlank line = false) :
    Text.isBlank (expandTabs tabSize line) = false := by
  apply Bool.eq_false_iff.2
  intro blank
  apply Bool.eq_false_iff.1 solid
  apply List.all_eq_true.2
  intro c on
  by_cases tab : c = '\t'
  · rw [tab]
    decide
  · exact List.all_eq_true.1 blank c (mem_expandTabs_of_ne on tab)

end Tabs

section Indentation

variable {line : List Char} {width : Nat}

theorem indentation?_of_solid (solid : Text.isBlank line = false) :
    indentation? line = some (line.takeWhile Unicode.isBlank).length := by
  simp only [indentation?, solid, Bool.false_eq_true, ↓reduceIte]

theorem solid_of_indentation? (indented : indentation? line = some width) :
    Text.isBlank line = false ∧ width = (line.takeWhile Unicode.isBlank).length := by
  unfold indentation? at indented
  split at indented
  · exact nomatch indented
  · rename_i solid
    exact ⟨Bool.eq_false_iff.2 solid, (Option.some.inj indented).symm⟩

theorem isBlank_take_of_le (line : List Char) {count : Nat}
    (within : count ≤ (line.takeWhile Unicode.isBlank).length) :
    Text.isBlank (line.take count) = true := by
  have front : line.take count = (line.takeWhile Unicode.isBlank).take count := by
    rw [← List.take_append_of_le_length within, List.takeWhile_append_dropWhile]
  rw [front]
  exact Text.isBlank_of_subset (List.take_subset count _) List.all_takeWhile

/-- Behind its indentation a line goes on with something else than white space. -/
theorem head?_drop_indentation (indented : indentation? line = some width) :
    ∃ c, (line.drop width).head? = some c ∧ Unicode.isBlank c = false := by
  obtain ⟨solid, same⟩ := solid_of_indentation? indented
  have behind : line.drop width = line.dropWhile Unicode.isBlank := by
    calc line.drop width
        = (line.takeWhile Unicode.isBlank ++ line.dropWhile Unicode.isBlank).drop width := by
          rw [List.takeWhile_append_dropWhile]
      _ = line.dropWhile Unicode.isBlank := by rw [same, List.drop_left]
  have first := List.head?_dropWhile_not Unicode.isBlank line
  rw [behind]
  cases found : (line.dropWhile Unicode.isBlank).head? with
  | none =>
    have blank := List.dropWhile_eq_nil_iff.1 (List.head?_eq_none_iff.1 found)
    exact absurd (List.all_eq_true.2 blank) (Bool.eq_false_iff.1 solid)
  | some c =>
    rw [found] at first
    exact ⟨c, rfl, first⟩

variable {lines : List (List Char)}

/-- The shared indentation is the least of the indentations there are. -/
theorem commonIndentation_least (member : line ∈ lines) (solid : Text.isBlank line = false) :
    (∃ flush ∈ lines, indentation? flush = some (commonIndentation lines)) ∧
      commonIndentation lines ≤ (line.takeWhile Unicode.isBlank).length := by
  have among : (line.takeWhile Unicode.isBlank).length ∈ lines.filterMap indentation? :=
    List.mem_filterMap.2 ⟨line, member, indentation?_of_solid solid⟩
  obtain ⟨least, found⟩ := Option.isSome_iff_exists.1
    (List.isSome_min?_iff.2 (List.ne_nil_of_mem among))
  have common : commonIndentation lines = least := by
    rw [commonIndentation, found, Option.getD_some]
  have bounds := List.min?_eq_some_iff.1 found
  rw [common]
  exact ⟨List.mem_filterMap.1 bounds.1, bounds.2 _ among⟩

theorem isBlank_take_commonIndentation (member : line ∈ lines) :
    Text.isBlank (line.take (commonIndentation lines)) = true := by
  cases kind : Text.isBlank line with
  | true => exact Text.isBlank_of_subset (List.take_subset _ line) kind
  | false => exact isBlank_take_of_le line (commonIndentation_least member kind).2

/-- Without the shared indentation a line that was not blank is not blank either. -/
theorem isBlank_drop_commonIndentation (member : line ∈ lines)
    (solid : Text.isBlank line = false) :
    Text.isBlank (line.drop (commonIndentation lines)) = false := by
  apply Bool.eq_false_iff.2
  intro blank
  have whole := Text.isBlank_append (line.take (commonIndentation lines))
    (line.drop (commonIndentation lines))
  rw [List.take_append_drop, solid, blank, isBlank_take_commonIndentation member] at whole
  exact nomatch whole

end Indentation

theorem remaining_dropReturn (text : List Char) :
    remaining (Text.dropReturn text) = body text := by
  rw [remaining, ← Text.lines_eq_divided, body]

theorem kept_dropReturn (tabSize : Nat) (text : List Char) :
    kept tabSize (Text.dropReturn text) = shown tabSize text := by
  rw [kept, remaining_dropReturn, shown]

section Shown

variable {tabSize : Nat} {text line : List Char}

theorem feed_not_mem_shown (member : line ∈ shown tabSize text) : '\n' ∉ line := by
  obtain ⟨source, among, expanded⟩ := List.mem_map.1 member
  have on : source ∈ Text.lines text :=
    (List.dropWhile_sublist _).subset (List.mem_of_mem_take among)
  obtain ⟨piece, split, stripped⟩ := List.mem_map.1 on
  rw [← expanded, ← stripped]
  apply feed_not_mem_expandTabs
  intro feed
  exact Text.not_mem_of_mem_splitFeeds split (Text.dropReturn_subset piece feed)

theorem tab_not_mem_shown (member : line ∈ shown tabSize text) : '\t' ∉ line := by
  obtain ⟨source, -, expanded⟩ := List.mem_map.1 member
  rw [← expanded]
  exact tab_not_mem_expandTabs

/-- The first line that is shown is not blank. -/
theorem solid_of_head?_shown (first : (shown tabSize text).head? = some line) :
    Text.isBlank line = false := by
  have solid := List.head?_dropWhile_not Text.isBlank (Text.lines text)
  rw [show (Text.lines text).dropWhile Text.isBlank = body text from rfl] at solid
  cases found : body text with
  | nil =>
    rw [shown, found] at first
    exact nomatch first
  | cons source later =>
    rw [found] at solid
    rw [shown, found] at first
    rw [← Option.some.inj first]
    exact isBlank_expandTabs solid

theorem body_eq_nil (nothing : shown tabSize text = []) : body text = [] := by
  cases found : body text with
  | nil => rfl
  | cons source later =>
    rw [shown, found] at nothing
    exact nomatch nothing

theorem splitFeeds_format (nonempty : shown tabSize text ≠ []) :
    Text.splitFeeds (format tabSize text).toList =
      unindented (commonIndentation (shown tabSize text)) (shown tabSize text) ++
        if maxLines < (body text).length then [ellipsis.toList] else [] := by
  unfold format
  dsimp only
  generalize commonIndentation (shown tabSize text) = shift
  have filled : (shown tabSize text).map (fun line => String.ofList (line.drop shift)) ≠ [] :=
    mt List.map_eq_nil_iff.1 nonempty
  have feedless : ∀ line ∈ (shown tabSize text).map
      (fun line => String.ofList (line.drop shift)), '\n' ∉ line.toList := by
    intro line member
    obtain ⟨source, among, cut⟩ := List.mem_map.1 member
    rw [← cut, String.toList_ofList]
    intro feed
    exact feed_not_mem_shown among (List.mem_of_mem_drop feed)
  have undone : ((shown tabSize text).map fun line => String.ofList (line.drop shift)).map
      String.toList = unindented shift (shown tabSize text) := by
    simp only [unindented, List.map_map, Function.comp_def, String.toList_ofList]
  split
  · rw [Text.splitFeeds_intercalate (List.append_ne_nil_of_left_ne_nil filled _),
      List.map_append, undone]
    · rfl
    · intro line member
      cases List.mem_append.1 member with
      | inl own => exact feedless line own
      | inr mark =>
        rw [List.mem_singleton.1 mark]
        decide
  · rw [Text.splitFeeds_intercalate filled feedless, undone, List.append_nil]

theorem format_of_shown (nothing : shown tabSize text = []) : format tabSize text = "" := by
  unfold format
  rw [nothing, body_eq_nil nothing]
  rfl

theorem tab_not_mem_format : '\t' ∉ (format tabSize text).toList := by
  intro tab
  by_cases nothing : shown tabSize text = []
  · rw [format_of_shown nothing] at tab
    exact nomatch tab
  · obtain ⟨line, among, on⟩ := Text.exists_mem_splitFeeds tab (by decide)
    rw [splitFeeds_format nothing] at among
    cases List.mem_append.1 among with
    | inl own =>
      obtain ⟨source, member, cut⟩ := List.mem_map.1 own
      rw [← cut] at on
      exact tab_not_mem_shown member (List.mem_of_mem_drop on)
    | inr mark =>
      split at mark
      · rw [List.mem_singleton.1 mark] at on
        exact absurd on (by decide)
      · exact absurd mark List.not_mem_nil

theorem exists_flush (nonempty : shown tabSize text ≠ []) :
    ∃ flush ∈ shown tabSize text,
      indentation? flush = some (commonIndentation (shown tabSize text)) := by
  obtain ⟨first, later, found⟩ := List.exists_cons_of_ne_nil nonempty
  have leads : (shown tabSize text).head? = some first := by rw [found, List.head?_cons]
  exact (commonIndentation_least (List.mem_of_mem_head? leads) (solid_of_head?_shown leads)).1

end Shown

/-- A preview shows the lines of its text without the indentation they share, and without a carriage
return at the end of the text. -/
theorem unindentsBy_format (tabSize : Nat) (text : List Char) :
    UnindentsBy tabSize (Text.dropReturn text) (format tabSize text)
      (commonIndentation (shown tabSize text)) where
  empty := by
    rw [kept_dropReturn]
    exact format_of_shown
  lines := by
    rw [kept_dropReturn, remaining_dropReturn]
    exact splitFeeds_format
  blank := by
    rw [kept_dropReturn]
    intro line member
    exact isBlank_take_commonIndentation member
  flush := by
    rw [kept_dropReturn]
    intro nonempty
    obtain ⟨flush, among, indented⟩ := exists_flush nonempty
    exact ⟨_, List.mem_map_of_mem among, head?_drop_indentation indented⟩
  visible := by
    rw [kept_dropReturn]
    intro line first
    rw [unindented, List.head?_map, Option.map_eq_some_iff] at first
    obtain ⟨source, found, cut⟩ := first
    rw [← cut]
    exact isBlank_drop_commonIndentation (List.mem_of_mem_head? found)
      (solid_of_head?_shown found)
  tabless := tab_not_mem_format

section Return

variable {tabSize shift : Nat} {text other : List Char} {hint : String}

/-- What shows one text shows another of which the same is left. -/
theorem UnindentsBy.transfer (shows : UnindentsBy tabSize text hint shift)
    (count : (remaining other).length = (remaining text).length)
    (same : unindented shift (kept tabSize other) = unindented shift (kept tabSize text))
    (blank : ∀ line ∈ kept tabSize other, Text.isBlank (line.take shift) = true) :
    UnindentsBy tabSize other hint shift := by
  have empty : kept tabSize other = [] ↔ kept tabSize text = [] := by
    rw [← List.map_eq_nil_iff, ← unindented, same, unindented, List.map_eq_nil_iff]
  refine ⟨?_, ?_, blank, ?_, ?_, shows.tabless⟩
  · intro nothing
    exact shows.empty (empty.1 nothing)
  · rw [same, count, Ne, empty]
    exact shows.lines
  · rw [same, Ne, empty]
    exact shows.flush
  · rw [same]
    exact shows.visible

/-- A carriage return at the end of a text is at the end of the last line that is left. -/
theorem remaining_concat_return (text : List Char) :
    remaining text = [] ∧ remaining (text ++ ['\r']) = [] ∨
      ∃ front last, remaining text = front ++ [last] ∧
        remaining (text ++ ['\r']) = front ++ [last ++ ['\r']] := by
  obtain ⟨front, last, without, within⟩ := Text.divided_concat_return text
  have same := Text.isBlank_concat_return last
  rw [remaining, remaining, without, within, List.dropWhile_append, List.dropWhile_append]
  split
  · cases kind : Text.isBlank last with
    | true =>
      rw [kind] at same
      exact Or.inl ⟨List.dropWhile_cons_of_pos kind, List.dropWhile_cons_of_pos same⟩
    | false =>
      rw [kind] at same
      refine Or.inr ⟨[], last, ?_, ?_⟩
      · exact List.dropWhile_cons_of_neg (Bool.eq_false_iff.1 kind)
      · exact List.dropWhile_cons_of_neg (Bool.eq_false_iff.1 same)
  · exact Or.inr ⟨front.dropWhile Text.isBlank, last, rfl, rfl⟩

theorem length_remaining_concat_return (text : List Char) :
    (remaining (text ++ ['\r'])).length = (remaining text).length := by
  rcases remaining_concat_return text with ⟨without, within⟩ | ⟨front, last, without, within⟩
  · rw [without, within]
  · simp only [without, within, List.length_append, List.length_singleton]

/-- So it is kept with that line, unless nothing is left or the line is one too many. -/
theorem kept_concat_return (tabSize : Nat) (text : List Char) :
    kept tabSize (text ++ ['\r']) = kept tabSize text ∧
        (kept tabSize text = [] ∨ maxLines < (remaining text).length) ∨
      (remaining text).length ≤ maxLines ∧ ∃ front last, kept tabSize text = front ++ [last] ∧
        kept tabSize (text ++ ['\r']) = front ++ [last ++ ['\r']] := by
  have count := length_remaining_concat_return text
  rcases remaining_concat_return text with ⟨without, within⟩ | ⟨front, last, without, within⟩
  · left
    rw [kept, kept, without, within]
    exact ⟨rfl, Or.inl rfl⟩
  · by_cases few : (remaining text).length ≤ maxLines
    · right
      have expanded : expandTabs tabSize (last ++ ['\r']) = expandTabs tabSize last ++ ['\r'] := by
        rw [expandTabs, List.flatMap_append]
        rfl
      refine ⟨few, front.map (expandTabs tabSize), expandTabs tabSize last, ?_, ?_⟩
      · rw [kept, List.take_of_length_le few, without, List.map_append, List.map_singleton]
      · rw [kept, List.take_of_length_le (count ▸ few), within, List.map_append,
          List.map_singleton, expanded]
    · left
      refine ⟨?_, Or.inr (by omega)⟩
      have long : maxLines ≤ front.length := by
        rw [without, List.length_append, List.length_singleton] at few
        omega
      rw [kept, kept, without, within, List.take_append_of_le_length long,
        List.take_append_of_le_length long]

variable {front : List (List Char)} {last : List Char}

/-- A carriage return within the indentation makes no difference. -/
theorem UnindentsBy.of_short (shows : UnindentsBy tabSize text hint shift)
    (without : kept tabSize text = front ++ [last])
    (within : kept tabSize (text ++ ['\r']) = front ++ [last ++ ['\r']])
    (short : last.length < shift) : UnindentsBy tabSize (text ++ ['\r']) hint shift := by
  have whole : (last ++ ['\r']).length ≤ shift := by
    rw [List.length_append]
    exact short
  apply shows.transfer (length_remaining_concat_return text)
  · rw [without, within, unindented, unindented, List.map_append, List.map_append,
      List.map_singleton, List.map_singleton, List.drop_eq_nil_of_le whole,
      List.drop_eq_nil_of_le (Nat.le_of_lt short)]
  · rw [within]
    intro line member
    have blank := shows.blank
    rw [without] at blank
    cases List.mem_append.1 member with
    | inl inFront => exact blank line (List.mem_append_left [last] inFront)
    | inr isLast =>
      have rest := blank last List.mem_concat_self
      rw [List.take_of_length_le (Nat.le_of_lt short)] at rest
      rw [List.mem_singleton.1 isLast, List.take_of_length_le whole, Text.isBlank_concat_return,
        rest]

/-- A carriage return behind the indentation is missed: no other shift makes up for it. -/
theorem UnindentsBy.not_of_long (shows : UnindentsBy tabSize text hint shift)
    (without : kept tabSize text = front ++ [last])
    (within : kept tabSize (text ++ ['\r']) = front ++ [last ++ ['\r']])
    (long : shift ≤ last.length) : ¬ Unindents tabSize (text ++ ['\r']) hint := by
  rintro ⟨further, alike⟩
  have nonempty : kept tabSize text ≠ [] := by
    rw [without]
    exact List.concat_ne_nil last front
  have lines := alike.lines (by rw [within]; exact List.concat_ne_nil _ front)
  rw [shows.lines nonempty, length_remaining_concat_return] at lines
  have same := List.append_cancel_right lines
  rw [without, within, unindented, unindented, List.map_append, List.map_append,
    List.map_singleton, List.map_singleton, List.append_singleton_inj] at same
  have lengths := congrArg List.length same.2
  simp only [List.length_drop, List.length_append, List.length_singleton] at lengths
  have beyond : shift < further := by omega
  -- The flush line has its first solid character within the longer indentation.
  obtain ⟨cut, among, c, first, solid⟩ := shows.flush nonempty
  obtain ⟨source, member, cutFrom⟩ := List.mem_map.1 among
  rw [← cutFrom, List.head?_drop] at first
  have longer : ∃ whole ∈ kept tabSize (text ++ ['\r']), whole[shift]? = some c := by
    rw [without] at member
    rw [within]
    cases List.mem_append.1 member with
    | inl inFront => exact ⟨source, List.mem_append_left _ inFront, first⟩
    | inr isLast =>
      rw [List.mem_singleton.1 isLast] at first
      refine ⟨last ++ ['\r'], List.mem_concat_self, ?_⟩
      rw [List.getElem?_append_left (List.getElem?_eq_some_iff.1 first).1, first]
  obtain ⟨whole, inKept, here⟩ := longer
  have removed : c ∈ whole.take further := by
    apply List.mem_of_getElem?
    rw [List.getElem?_take_of_lt beyond, here]
  have blank := List.all_eq_true.1 (alike.blank whole inKept) c removed
  rw [solid] at blank
  exact nomatch blank

/-- A preview leaves out nothing but shared indentation, unless the text ends in a carriage return
that would be shown. -/
theorem unindents_format_iff (tabSize : Nat) (text : List Char) :
    Unindents tabSize text (format tabSize text) ↔ ¬ LosesReturn tabSize text := by
  have shows := unindentsBy_format tabSize text
  by_cases ends : text.getLast? = some '\r'
  · have whole := Text.dropReturn_concat ends
    have count := length_remaining_concat_return (Text.dropReturn text)
    rcases kept_concat_return tabSize (Text.dropReturn text) with
      ⟨same, hidden⟩ | ⟨few, front, last, without, within⟩
    · rw [whole] at count same
      have unlost : ¬ LosesReturn tabSize text := by
        rintro ⟨-, few, behind⟩
        rw [same] at behind
        cases hidden with
        | inl nothing =>
          rw [nothing] at behind
          exact absurd behind (Nat.not_lt_zero _)
        | inr many => omega
      have still := shows.transfer count (by rw [same]) (by rw [same]; exact shows.blank)
      exact iff_of_true ⟨_, still⟩ unlost
    · have lost : LosesReturn tabSize text ↔
          commonIndentation (shown tabSize text) ≤ last.length := by
        rw [whole] at count within
        rw [LosesReturn, within, List.getLast?_concat, Option.getD_some, List.length_append,
          List.length_singleton, count, Nat.lt_succ_iff]
        exact ⟨fun all => all.2.2, fun long => ⟨ends, few, long⟩⟩
      rw [lost]
      constructor
      · intro alike long
        have missed := shows.not_of_long without within long
        rw [whole] at missed
        exact missed alike
      · intro short
        have still := shows.of_short without within (Nat.lt_of_not_le short)
        rw [whole] at still
        exact ⟨_, still⟩
  · rw [Text.dropReturn_of_getLast? ends] at shows
    exact iff_of_true ⟨_, shows⟩ fun loses => ends loses.1

end Return

end Preview

/-- The preview of a region shows the first lines of its text, from the first that is not blank,
without the indentation they share; the text in front of the region on its line counts as
indentation where it is blank. What is missing otherwise is one carriage return at the end. -/
theorem Outline.preview_unindents (outline : Outline) (tabSize id : Nat) :
    Preview.Unindents tabSize (Text.dropReturn (outline.previewSource id))
        (outline.preview tabSize id) ∧
      (Preview.Unindents tabSize (outline.previewSource id) (outline.preview tabSize id) ↔
        ¬ Preview.LosesReturn tabSize (outline.previewSource id)) :=
  ⟨⟨_, Preview.unindentsBy_format tabSize _⟩, Preview.unindents_format_iff tabSize _⟩

-- The carriage return behind the second comment divides no lines, but it is missing.
example : Preview.LosesReturn 4 "//a\n//b\r".toList ∧
    Preview.format 4 "//a\n//b\r".toList = "//a\n//b" := by decide

end CodeFolding
