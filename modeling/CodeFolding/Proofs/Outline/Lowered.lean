import CodeFolding.Proofs.Outline.Prepend
import CodeFolding.Proofs.Outline.Preorder
import CodeFolding.Proofs.Buffer.Survivors
import CodeFolding.Proofs.Text

set_option autoImplicit false

namespace CodeFolding

namespace Preview

/-- White space that ends with a line feed is blank lines in front of the first line of the text
behind it. -/
theorem splitFeeds_append {head : List Char} (lines : BlankLines head) (text : List Char) :
    ∃ first blanks, Text.isBlank first = true ∧ (∀ line ∈ blanks, Text.isBlank line = true) ∧
      Text.splitFeeds (head ++ text) = first :: blanks ++ Text.splitFeeds text := by
  induction head with
  | nil => exact nomatch lines.feeds
  | cons c rest ih =>
    have blank := lines.blank c List.mem_cons_self
    cases rest with
    | nil =>
      cases Option.some.inj lines.feeds
      exact ⟨[], [], rfl, fun _ member => absurd member List.not_mem_nil, rfl⟩
    | cons d more =>
      have later : BlankLines (d :: more) :=
        ⟨fun e member => lines.blank e (List.mem_cons_of_mem c member), lines.feeds⟩
      obtain ⟨first, blanks, empty, allEmpty, split⟩ := ih later
      rw [List.cons_append, Text.splitFeeds, split]
      by_cases feed : c = '\n'
      · rw [if_pos feed]
        exact ⟨[], first :: blanks, rfl, List.forall_mem_cons.2 ⟨empty, allEmpty⟩, rfl⟩
      · rw [if_neg feed]
        refine ⟨c :: first, blanks, ?_, allEmpty, rfl⟩
        exact List.all_cons.trans (Bool.and_eq_true_iff.2 ⟨blank, empty⟩)

/-- A preview shows nothing of the blank lines in front of a text. -/
theorem format_append {head : List Char} (lines : BlankLines head) (tabSize : Nat)
    (text : List Char) : format tabSize (head ++ text) = format tabSize text := by
  obtain ⟨first, blanks, empty, allEmpty, split⟩ := splitFeeds_append lines text
  have same : body (head ++ text) = body text := by
    rw [body, body, Text.lines, Text.lines, split, List.map_append, List.dropWhile_append_of_pos]
    intro line member
    obtain ⟨source, found, rfl⟩ := List.mem_map.1 member
    rcases List.mem_cons.1 found with rfl | later
    · exact Text.isBlank_of_subset (Text.dropReturn_subset _) empty
    · exact Text.isBlank_of_subset (Text.dropReturn_subset _) (allEmpty source later)
  simp only [format, shown, same]

end Preview

namespace Outline

variable {head : List Char} {outline : Outline} {id : Nat}

/-- What is known of a number that belongs to no region other than the root: it stands for the
whole text. -/
structure Whole (outline : Outline) (id : Nat) : Prop where
  kind : (outline.region id).kind = .document
  start : (outline.region id).start = 0
  unended : (outline.region id).stop? = none

namespace Whole

theorem of_size_le (unknown : outline.size ≤ id) : outline.Whole id := by
  have none : outline.region id = Region.root := by
    rw [region, Array.getD_eq_getD_getElem?, Array.getElem?_eq_none unknown, Option.getD_none]
  refine ⟨?_, ?_, ?_⟩ <;> rw [none] <;> rfl

variable (whole : outline.Whole id)
include whole

theorem isMultiLine_eq : outline.isMultiLine id = false := by
  rw [isMultiLine, stopLine?, whole.unended]
  rfl

theorem placeholder_eq : outline.placeholder id = Preview.ellipsis := by
  unfold placeholder
  dsimp only
  rw [whole.kind]

theorem previewSource_eq : outline.previewSource id = outline.document.chars.toList := by
  have nothing : outline.leadingText id = "" := by
    have first := outline.document.lineStart_lineOf_le 0
    unfold leadingText
    dsimp only
    apply Document.slice_of_empty
    rw [startLine, whole.start, Span.ordered_start, Span.ordered_stop]
    omega
  have all : outline.bodyText id = String.ofList outline.document.chars.toList := by
    unfold bodyText Document.slice Document.extract
    dsimp only
    rw [whole.start, whole.unended, Option.getD_none, Span.ordered_of_le _ _ (Nat.zero_le _),
      Nat.min_self, Nat.zero_min, Document.length, Array.extract_size]
  rw [previewSource, nothing, all]
  simp

theorem prepend (outside : ¬ outline.Inner id) : (outline.prepend head).Whole id := by
  by_cases root : id = rootId
  · subst root
    refine ⟨?_, ?_, ?_⟩ <;> rw [region_prepend_root]
    exacts [whole.kind, whole.start, whole.unended]
  · apply of_size_le
    rw [size_prepend]
    exact Nat.le_of_not_lt fun known => outside ⟨Nat.pos_of_ne_zero root, known⟩

end Whole

/-- The order in which the regions are met does not depend on where they are. -/
theorem walk_prepend (bound : Nat) (pending : List Nat) :
    (outline.prepend head).walk bound pending = outline.walk bound pending := by
  induction bound generalizing pending with
  | zero => rfl
  | succ bound ih =>
    cases pending with
    | nil => rfl
    | cons id pending => rw [walk, walk, children_prepend, ih]

theorem descendants_prepend : (outline.prepend head).descendants = outline.descendants := by
  rw [descendants, descendants, size_prepend, children_prepend, walk_prepend]

/-- `lowered` is `outline` further down by `count` characters: the bounds of all regions but the
root have moved, and nothing else has changed, neither in the regions nor in how they are shown. -/
structure Lowered (count : Nat) (outline lowered : Outline) : Prop where
  size : lowered.size = outline.size
  root : lowered.region rootId = outline.region rootId
  region : ∀ id, outline.Inner id → lowered.region id = (outline.region id).lower count
  descendants : lowered.descendants = outline.descendants
  isMultiLine : ∀ id, lowered.isMultiLine id = outline.isMultiLine id
  placeholder : ∀ id, lowered.placeholder id = outline.placeholder id
  preview : ∀ tabSize id, lowered.preview tabSize id = outline.preview tabSize id

theorem lowered_prepend (lines : BlankLines head)
    (whole : ∀ id, ¬ outline.Inner id → outline.Whole id) :
    Lowered head.length outline (outline.prepend head) := by
  refine ⟨size_prepend, region_prepend_root, fun id => region_prepend, descendants_prepend,
    ?_, ?_, ?_⟩
  · intro id
    by_cases inner : outline.Inner id
    · exact isMultiLine_prepend lines inner
    · rw [(whole id inner).isMultiLine_eq, ((whole id inner).prepend inner).isMultiLine_eq]
  · intro id
    by_cases inner : outline.Inner id
    · exact placeholder_prepend lines inner
    · rw [(whole id inner).placeholder_eq, ((whole id inner).prepend inner).placeholder_eq]
  · intro tabSize id
    by_cases inner : outline.Inner id
    · exact preview_prepend lines inner tabSize
    · rw [preview, preview, (whole id inner).previewSource_eq,
        ((whole id inner).prepend inner).previewSource_eq, document_prepend,
        Document.chars_prepend, Array.toList_append, List.toList_toArray,
        Preview.format_append lines]

end Outline

theorem Scan.run_unended_root (rules : BraceRules) (announced : Bool) (document : Document)
    (tokens : List Token) :
    ((braceRun rules announced document tokens).outline.region Outline.rootId).stop? = none := by
  refine (braceRun_reached rules announced document tokens
    (fun scan => (scan.outline.region Outline.rootId).stop? = none) rfl ?_).2
  intro scan next after reached moved act further unended
  obtain ⟨merged, numbered⟩ := reached.accounted.numbered
  have kind : (scan.outline.region Outline.rootId).kind ≠ .comment := by
    rw [reached.recalls.root]
    decide
  have added : ∀ draft, (scan.outline.add draft scan.parent).region Outline.rootId =
      scan.outline.region Outline.rootId := by
    intro draft
    exact Outline.region_add_other _ _ _ (Nat.ne_of_lt numbered.positive)
  cases act with
  | pass => exact unended
  | start draft role =>
    dsimp only
    rw [added]
    exact unended
  | comment draft role starts =>
    have finishes := reached.finishes_comment moved starts role
    dsimp only
    rw [finishes.stop?_of_ne_comment (by rw [added]; exact kind), added]
    exact unended
  | close id outer stop innermost =>
    have finishes := reached.finishes_close innermost stop
    rw [innermost] at numbered
    have apart : Outline.rootId ≠ id := Nat.ne_of_lt (Nat.zero_lt_of_lt numbered.head_lt)
    dsimp only
    rw [finishes.stop?_of_ne_comment (by rw [Outline.kind_close]; exact kind),
      Outline.region_close_other _ _ apart]
    exact unended

theorem Dialect.outline_whole (rules : BraceRules) (announced : Bool) (document : Document)
    (tokens : List Token) (id : Nat)
    (outside : ¬ ((brace rules).outline announced document tokens).2.Inner id) :
    ((brace rules).outline announced document tokens).2.Whole id := by
  have reached := Scan.run_reached rules announced document tokens
  have unended := Scan.run_unended_root rules announced document tokens
  rw [Dialect.outline_brace] at outside ⊢
  by_cases root : id = Outline.rootId
  · subst root
    obtain ⟨merged, numbered⟩ := reached.accounted.numbered
    have start := reached.recalls.unmoved Outline.rootId Region.root.toDraft numbered.positive rfl
      (Or.inl (by rw [reached.recalls.root]; exact nofun))
    refine ⟨?_, ?_, ?_⟩ <;> rw [reached.draft_finishAll]
    exacts [reached.recalls.root, start, unended]
  · apply Outline.Whole.of_size_le
    exact Nat.le_of_not_lt fun known => outside ⟨Nat.pos_of_ne_zero root, known⟩

/-- Blank lines on top lower the outline of a text in a language with braces. -/
theorem Dialect.outline_lowered {head : List Char} (lines : BlankLines head) (rules : BraceRules)
    (announced : Bool) (document : Document) (tokens : List Token) :
    Outline.Lowered head.length ((brace rules).outline announced document tokens).2
      ((brace rules).outline announced (document.prepend head)
        (tokens.map (Token.lower head.length))).2 := by
  rw [Dialect.outline_prepend lines]
  exact Outline.lowered_prepend lines (outline_whole rules announced document tokens)

end CodeFolding
