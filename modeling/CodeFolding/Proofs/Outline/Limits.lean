import CodeFolding.Proofs.Blanks
import CodeFolding.Proofs.Outline.Openings

set_option autoImplicit false

namespace CodeFolding

namespace Document

/-- `line` is the last line from `limit` on and above `bound` that is not blank. -/
structure LastSolid (document : Document) (limit bound line : Nat) : Prop where
  limit_le : limit ≤ line
  lt_bound : line < bound
  solid : document.isBlankLine line = false
  last : ∀ other, line < other → other < bound → document.isBlankLine other = true

/-- A bracket that opens at `offset` and ends on another line, with nothing but white space in
front of it on its own line. -/
structure StandsAlone (document : Document) (offset : Nat) (stop? : Option Nat) : Prop where
  lines : ∃ stop, stop? = some stop ∧ document.lineOf stop ≠ document.lineOf offset
  leading : document.isBlank ⟨document.lineStart (document.lineOf offset), offset⟩ = true

/-- The offset from which a region folds that began as `draft`, has the end `stop?` and may go back
to the line `limit`. -/
inductive FoldsFrom (document : Document) (draft : Draft) (stop? : Option Nat) (limit : Nat) :
    Nat → Prop
  | raised (line : Nat) (bracket : draft.kind.IsBracket)
      (alone : document.StandsAlone draft.start stop?)
      (solid : document.LastSolid limit (document.lineOf draft.start) line)
      (onLine : document.lineOf (document.lineEnd line) = line) :
      FoldsFrom document draft stop? limit (document.lineEnd line)
  | stays (why : draft.kind.IsBracket → document.StandsAlone draft.start stop? →
        ∀ line, limit ≤ line → line < document.lineOf draft.start →
          document.isBlankLine line = true) :
      FoldsFrom document draft stop? limit draft.start

theorem FoldsFrom.of_not_isBracket {document : Document} {draft : Draft}
    (other : ¬ draft.kind.IsBracket) (stop? : Option Nat) (limit : Nat) :
    FoldsFrom document draft stop? limit draft.start :=
  .stays fun bracket => absurd bracket other

theorem FoldsFrom.eq_of_not_isBracket {document : Document} {draft : Draft} {stop? : Option Nat}
    {limit start : Nat} (folds : FoldsFrom document draft stop? limit start)
    (other : ¬ draft.kind.IsBracket) : start = draft.start := by
  cases folds with
  | raised line bracket => exact absurd bracket other
  | stays => rfl

theorem FoldsFrom.isBlank {document : Document} {draft : Draft} {stop? : Option Nat}
    {limit start : Nat} (folds : FoldsFrom document draft stop? limit start) :
    document.isBlank ⟨start, draft.start⟩ = true := by
  cases folds with
  | raised line _ alone solid =>
    exact document.isBlank_from_lineEnd solid.lt_bound solid.last alone.leading
  | stays =>
    apply (document.isBlank_iff _).2
    intro offset c above below
    exact absurd below (Nat.not_lt.2 above)

end Document

namespace Outline

/-- The search for the last line that is not blank finds it, or there is none. -/
theorem lastSolidLine?_cases (document : Document) (limit bound : Nat) :
    (∃ line, lastSolidLine? document limit bound = some line ∧
      document.LastSolid limit bound line) ∨
    lastSolidLine? document limit bound = none ∧
      ∀ line, limit ≤ line → line < bound → document.isBlankLine line = true := by
  induction bound with
  | zero =>
    refine Or.inr ⟨rfl, ?_⟩
    intro line _ below
    exact absurd below (Nat.not_lt_zero line)
  | succ bound ih =>
    unfold lastSolidLine?
    by_cases above : bound < limit
    · rw [if_pos above]
      refine Or.inr ⟨rfl, ?_⟩
      intro line lower upper
      omega
    · rw [if_neg above]
      by_cases blank : document.isBlankLine bound = true
      · rw [if_pos blank]
        rcases ih with ⟨line, found, solid⟩ | ⟨none, allBlank⟩
        · refine Or.inl ⟨line, found, solid.limit_le, Nat.lt_succ_of_lt solid.lt_bound,
            solid.solid, ?_⟩
          intro other behind before
          by_cases last : other = bound
          · rw [last]
            exact blank
          · exact solid.last other behind (by omega)
        · refine Or.inr ⟨none, ?_⟩
          intro line lower upper
          by_cases last : line = bound
          · rw [last]
            exact blank
          · exact allBlank line lower (by omega)
      · rw [if_neg blank]
        refine Or.inl ⟨bound, rfl, by omega, Nat.lt_succ_self bound, Bool.eq_false_iff.2 blank, ?_⟩
        intro other behind before
        omega

variable {outline : Outline} {id parent : Nat}

theorem isMultiLine_iff (outline : Outline) (id : Nat) :
    outline.isMultiLine id = true ↔ ∃ stop, (outline.region id).stop? = some stop ∧
      outline.document.lineOf stop ≠ outline.startLine id := by
  unfold isMultiLine stopLine?
  cases (outline.region id).stop? with
  | none => simp only [Option.map_none, Option.any_none, Bool.false_eq_true, reduceCtorEq,
      false_and, exists_false]
  | some stop => simp only [Option.map_some, Option.any_some, bne_iff_ne, Option.some.injEq,
      exists_eq_left']

/-- A region with a bracket at its start has its leading text up to there. -/
theorem leadingText_isBlank (outline : Outline) (id : Nat)
    (inside : (outline.region id).start ≤ outline.document.length)
    (opener : outline.document.charAt? (outline.region id).start ≠ some '\n') :
    Text.isBlank (outline.leadingText id).toList =
      outline.document.isBlank ⟨outline.document.lineStart (outline.startLine id),
        (outline.region id).start⟩ := by
  have whole : ¬ outline.document.SplitsBreak (outline.region id).start :=
    fun splits => opener splits.2.2
  have before := outline.document.le_lineEnd_lineOf inside whole
  have behind := outline.document.lineStart_lineOf_le (outline.region id).start
  change (outline.region id).start ≤ outline.document.lineEnd (outline.startLine id) at before
  change outline.document.lineStart (outline.startLine id) ≤ (outline.region id).start at behind
  unfold leadingText
  dsimp only
  rw [Nat.min_eq_left before, Span.ordered_of_le _ _ behind]
  simp only [Document.slice, String.toList_ofList, Text.isBlank, Document.isBlank,
    Array.all_toList]

/-- The start of a settled region, from its opening and the limit that the outline sets. -/
theorem settledStart_foldsFrom {draft : Draft} (kind : (outline.region id).kind = draft.kind)
    (start : (outline.region id).start = draft.start)
    (kinds : draft.kind.IsBracket ∨ draft.kind = .named ∨ draft.kind = .comment)
    (opener : draft.kind.IsBracket → draft.start ≤ outline.document.length ∧
      outline.document.charAt? draft.start ≠ some '\n') (previous? : Option Nat) :
    outline.document.FoldsFrom draft (outline.region id).stop?
      (outline.raiseLimit parent previous?) (outline.settledStart id parent previous?) := by
  unfold settledStart raisedStart?
  dsimp only
  rw [kind, start]
  by_cases bracket : draft.kind.IsBracket
  · have notNamed : ¬ (draft.kind = .named ∨ draft.kind = .comment) := by
      rcases bracket with block | array
      · rw [block]
        decide
      · rw [array]
        decide
    obtain ⟨inside, whole⟩ := opener bracket
    have leading := outline.leadingText_isBlank id (start ▸ inside) (start ▸ whole)
    have first : outline.startLine id = outline.document.lineOf draft.start := by
      rw [startLine, start]
    rw [start, first] at leading
    rw [if_neg notNamed, leading, first]
    by_cases alone : outline.document.StandsAlone draft.start (outline.region id).stop?
    · have lines : outline.isMultiLine id = true := by
        rw [isMultiLine_iff, first]
        exact alone.lines
      rw [lines, alone.leading, Bool.and_self, if_pos rfl]
      rcases lastSolidLine?_cases outline.document (outline.raiseLimit parent previous?)
        (outline.document.lineOf draft.start) with ⟨line, found, solid⟩ | ⟨none, allBlank⟩
      · rw [found]
        have known := outline.document.lineOf_lt_lineCount draft.start
        have onLine := outline.document.lineOf_lineEnd (Nat.lt_trans solid.lt_bound known)
        exact .raised line bracket alone solid onLine
      · rw [none]
        exact .stays fun _ _ => allBlank
    · have fails : ¬ (outline.isMultiLine id && outline.document.isBlank
          ⟨outline.document.lineStart (outline.document.lineOf draft.start), draft.start⟩) =
          true := by
        intro both
        rw [Bool.and_eq_true, isMultiLine_iff, first] at both
        exact alone ⟨both.1, both.2⟩
      rw [if_neg fails]
      exact .stays fun _ yes => absurd yes alone
  · have named := kinds.resolve_left bracket
    rw [if_pos named]
    exact .of_not_isBracket bracket _ _

/-- The first line to which the start of a region may go back that stands at an index of the list
of `outer`. The line on which `outer` opened is told by `openings`, since its own start may have
gone back. -/
inductive Limit (outline : Outline) (openings : List Draft) (outer : Nat) : Nat → Nat → Prop
  | outermost (root : outer = rootId) : Limit outline openings outer 0 0
  | inner (draft : Draft) (notRoot : outer ≠ rootId) (opening : openings[outer]? = some draft) :
      Limit outline openings outer 0 (outline.document.lineOf draft.start + 1)
  | behindLine (index previous stop : Nat)
      (inFront : (outline.region outer).children[index]? = some previous)
      (ended : (outline.region previous).stop? = some stop)
      (same : outline.document.lineOf stop = outline.startLine previous) :
      Limit outline openings outer (index + 1) (outline.document.lineOf stop)
  | behindLines (index previous stop : Nat)
      (inFront : (outline.region outer).children[index]? = some previous)
      (ended : (outline.region previous).stop? = some stop)
      (several : outline.document.lineOf stop ≠ outline.startLine previous) :
      Limit outline openings outer (index + 1) (outline.document.lineOf stop + 1)

theorem Limit.transfer {changed : Outline} {openings : List Draft} {outer index limit : Nat}
    (holds : Limit outline openings outer index limit)
    (text : changed.document = outline.document)
    (front : ∀ place previous, index = place + 1 →
      (outline.region outer).children[place]? = some previous →
      (changed.region outer).children[place]? = some previous ∧
        (changed.region previous).stop? = (outline.region previous).stop? ∧
        (changed.region previous).start = (outline.region previous).start) :
    Limit changed openings outer index limit := by
  cases holds with
  | outermost root => exact .outermost root
  | inner draft notRoot opening =>
    rw [← text]
    exact .inner draft notRoot opening
  | behindLine place previous stop inFront ended same =>
    obtain ⟨still, stops, starts⟩ := front place previous rfl inFront
    rw [startLine, ← starts, ← text] at same
    rw [← text]
    exact .behindLine place previous stop still (stops.trans ended) same
  | behindLines place previous stop inFront ended several =>
    obtain ⟨still, stops, starts⟩ := front place previous rfl inFront
    rw [startLine, ← starts, ← text] at several
    rw [← text]
    exact .behindLines place previous stop still (stops.trans ended) several

end Outline

end CodeFolding
