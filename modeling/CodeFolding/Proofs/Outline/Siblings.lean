import CodeFolding.Proofs.Outline.Bounds

set_option autoImplicit false

namespace CodeFolding

namespace Outline

/-- `first` and `second` stand next to each other in the list of `outer`. -/
def Neighbours (outline : Outline) (outer first second : Nat) : Prop :=
  ∃ index, (outline.region outer).children[index]? = some first ∧
    (outline.region outer).children[index + 1]? = some second

section Finished

variable {outline : Outline} {position : Nat} {opened : List Nat}

theorem Nested.follows_of_neighbours (nested : Nested outline position opened)
    {outer first second : Nat} (neighbours : outline.Neighbours outer first second) :
    Follows outline first second := by
  obtain ⟨index, atIndex, behind⟩ := neighbours
  obtain ⟨_, atIndex⟩ := Array.getElem?_eq_some_iff.1 atIndex
  obtain ⟨known, behind⟩ := Array.getElem?_eq_some_iff.1 behind
  have follows := List.isChain_iff_getElem.1 (nested.inOrder outer) index
    (by rw [Array.length_toList]; exact known)
  rw [Array.getElem_toList, Array.getElem_toList, atIndex, behind] at follows
  exact follows

theorem Opened.neighbours_of_finishAll (valid : Opened outline position opened)
    {outer first second stop : Nat}
    (neighbours : (outline.finishAll opened).Neighbours outer first second)
    (ended : (outline.region second).stop? = some stop) :
    outline.Neighbours outer first second := by
  obtain ⟨index, atIndex, behind⟩ := neighbours
  rw [valid.region_finishAll] at atIndex behind
  have known : index + 1 < (outline.region outer).children.size := by
    apply Decidable.byContradiction
    intro past
    have isOpen : second ∈ (outline.openInside opened outer).toArray := by
      rw [Array.getElem?_append_right (Nat.le_of_not_lt past)] at behind
      exact Array.mem_of_getElem? behind
    rw [List.mem_toArray, mem_openInside] at isOpen
    obtain ⟨_, waiting⟩ := valid.waiting_of_mem second isOpen.1
    exact nomatch waiting.unended.symm.trans ended
  refine ⟨index, ?_, ?_⟩
  · rwa [Array.getElem?_append_left (by omega)] at atIndex
  · rwa [Array.getElem?_append_left known] at behind

end Finished

/-- An offset at which a region may end: it leaves breaks whole, unless a comment or a directive
ends there. -/
def Leaves (document : Document) (tokens : List Token) (stop : Nat) : Prop :=
  document.SplitsBreak stop → ∃ token ∈ tokens,
    (token.kind = .comment ∨ token.kind = .directive) ∧ token.stop = stop

end Outline

namespace Scan

open Outline (Leaves Nested)

/-- Brackets end behind a bracket, which is no carriage return. -/
theorem Tracks.leaves_of_ends {tokens : List Token} {document : Document} {scan : Scan Bool}
    (tracks : Tracks tokens document scan) {kind : Region.Kind} {stop : Nat}
    (ends : BraceRules.Ends scan.cursor kind stop) : Leaves document tokens stop := by
  intro splits
  cases ends with
  | bracket token _ _ _ closer behind =>
    have before := splits.2.1
    rw [behind, Nat.add_sub_cancel, ← tracks.text] at before
    change scan.cursor.char? = some '\r' at before
    rw [before] at closer
    exact absurd closer (by decide)
  | named token current class_eq _ behind =>
    exact ⟨token, (tracks.sound.current token current).member, class_eq, behind.symm⟩

/-- A region whose end splits a break ends with a comment or a directive. -/
theorem run_leaves (rules : BraceRules) (announced : Bool) (document : Document)
    {tokens : List Token} (ordered : Token.Ordered tokens) :
    (braceRun rules announced document tokens).outline.AllEnd (Leaves document tokens) := by
  refine (braceRun_induction rules announced document tokens
    (fun scan => Nested scan.outline scan.cursor.position scan.opened ∧
      scan.outline.AllEnd (Leaves document tokens)) ⟨?_, ?_⟩ ?_).2.2
  · exact start_nested rules announced document tokens
  · exact Outline.AllEnd.blank document _
  · rintro scan next after tracks moved turn ⟨nested, all⟩
    refine ⟨turn.nested tracks ordered moved nested, turn.allEnd all ?_ ?_⟩
    · intro token current comment _
      exact ⟨token, (tracks.sound.current token current).member, Or.inl comment, rfl⟩
    · intro id outer stop innermost ends
      obtain ⟨_, waiting⟩ := nested.opened.waiting_of_mem id (innermost ▸ List.mem_cons_self)
      have started := waiting.started
      have forward := tracks.sound.position_lt_of_advance? ordered moved
      have reached := ends.stop_eq_position moved
      rw [Nat.max_eq_left (by omega)]
      exact tracks.leaves_of_ends ends

end Scan

/-- For every text and all tokens with bounds in order, of two neighbours with ends the second
begins in front of the end of the first exactly if that end splits a break and the second is a
bracket on the same line. The two then share the carriage return and nothing else, and a comment
or a directive ends there. -/
theorem Dialect.brace_neighbours_overlap_iff (rules : BraceRules) (announced : Bool)
    (document : Document) {tokens : List Token} (ordered : Token.Ordered tokens)
    {outline : Outline} (made : ((brace rules).outline announced document tokens).2 = outline)
    {outer first second stop last : Nat} (neighbours : outline.Neighbours outer first second)
    (firstEnds : (outline.region first).stop? = some stop)
    (secondEnds : (outline.region second).stop? = some last) :
    ((outline.region second).start < stop ↔ document.SplitsBreak stop ∧
      document.lineOf (outline.region second).start = document.lineOf stop ∧
      (outline.region second).kind.IsBracket) ∧
    stop ≤ (outline.region second).start + 1 ∧
    (document.SplitsBreak stop → ∃ token ∈ tokens,
      (token.kind = .comment ∨ token.kind = .directive) ∧ token.stop = stop) := by
  have nested := Scan.run_nested rules announced document ordered
  have leaves := Scan.run_leaves rules announced document ordered
  have text := Scan.braceRun_document rules announced document tokens
  rw [outline_brace] at made
  subst made
  rw [nested.opened.draft_finishAll] at firstEnds secondEnds ⊢
  have follows := nested.follows_of_neighbours
    (nested.opened.neighbours_of_finishAll neighbours secondEnds)
  obtain ⟨near, overlap⟩ := follows.overlap stop firstEnds
  rw [text] at overlap
  exact ⟨overlap, near, leaves first stop firstEnds⟩

/-- A line comment whose token takes in the carriage return, and a block below it. -/
def splitBreak : Document :=
  Document.ofString "//x\r\n\x7b\n\x7d"

def splitBreakTokens : List Token :=
  [⟨⟨0, 4⟩, .comment⟩, ⟨⟨5, 6⟩, .punctuation⟩, ⟨⟨7, 8⟩, .punctuation⟩]

theorem outline_splitBreak :
    ((Dialect.brace .unmarked).outline false splitBreak splitBreakTokens).2.regions =
      #[{ Region.root with children := #[1, 2] },
        { start := 0, stop? := some 4, kind := .comment, parent? := some 0 },
        { start := 3, stop? := some 8, kind := .block, parent? := some 0 }] := by
  rw [Dialect.outline_of_sorted _ _ _ (by decide)]
  decide +kernel

/-- There the block begins at the carriage return, which the comment ends behind. -/
theorem Dialect.brace_neighbours_overlap_splitBreak :
    Token.Ordered splitBreakTokens ∧
    (((brace .unmarked).outline false splitBreak splitBreakTokens).2.region 2).start = 3 ∧
    (((brace .unmarked).outline false splitBreak splitBreakTokens).2.region 1).stop? = some 4 ∧
    splitBreak.SplitsBreak 4 ∧
    ∃ token ∈ splitBreakTokens, (token.kind = .comment ∨ token.kind = .directive) ∧
      token.stop = 4 := by
  have regions := outline_splitBreak
  generalize made : ((brace .unmarked).outline false splitBreak splitBreakTokens).2 = outline
    at regions
  have ordered : Token.Ordered splitBreakTokens := by decide
  have starts : (outline.region 2).start = 3 := by simp only [Outline.region, regions]; rfl
  have firstEnds : (outline.region 1).stop? = some 4 := by
    simp only [Outline.region, regions]; rfl
  have secondEnds : (outline.region 2).stop? = some 8 := by
    simp only [Outline.region, regions]; rfl
  have neighbours : outline.Neighbours Outline.rootId 1 2 := by
    refine ⟨0, ?_, ?_⟩ <;> (simp only [Outline.region, regions]; rfl)
  obtain ⟨overlap, -, leaves⟩ := brace_neighbours_overlap_iff .unmarked false splitBreak ordered
    made neighbours firstEnds secondEnds
  have splits := (overlap.1 (by rw [starts]; decide)).1
  exact ⟨ordered, starts, firstEnds, splits, leaves splits⟩

end CodeFolding
