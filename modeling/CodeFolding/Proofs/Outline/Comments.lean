import CodeFolding.Proofs.Outline.Laminar
import CodeFolding.Proofs.Outline.Remarks

set_option autoImplicit false

namespace CodeFolding

namespace Outline

variable {outline after : Outline} {rules : BraceRules} {kept : List Token} {parent id : Nat}
  {opened merged : List Nat}

/-- The region is a comment, and the token lies in it. -/
structure Encloses (outline : Outline) (id : Nat) (token : Token) : Prop where
  kind : (outline.region id).kind = .comment
  start_le : (outline.region id).start ≤ token.start
  le_stop : ∃ stop, (outline.region id).stop? = some stop ∧ token.stop ≤ stop

/-- The token lies in a listed comment. -/
def Covers (outline : Outline) (token : Token) : Prop :=
  ∃ outer id, outline.Lists outer id ∧ outline.Encloses id token

/-- All comments are runs of remarks. -/
def Runs (outline : Outline) (rules : BraceRules) (kept : List Token) : Prop :=
  ∀ id, (outline.region id).kind = .comment → ∃ stop, (outline.region id).stop? = some stop ∧
    RemarkRun rules outline.document kept (outline.region id).start stop

/-- No neighbours could be merged. -/
def Apart (outline : Outline) : Prop :=
  ∀ outer first second, outline.Neighbours outer first second →
    outline.commentsAdjoin first second = false

/-- What is known of two comments that belong together. -/
theorem adjoin_facts {first second stop : Nat}
    (adjoin : outline.commentsAdjoin first second = true)
    (ended : (outline.region first).stop? = some stop) :
    stop ≤ (outline.region second).start ∧
      outline.document.lineOf (outline.region second).start ≤ outline.document.lineOf stop + 1 ∧
      outline.document.isBlank ⟨stop, (outline.region second).start⟩ = true := by
  simp only [commentsAdjoin, ended, Bool.and_eq_true, decide_eq_true_eq] at adjoin
  obtain ⟨-, ⟨behind, near⟩, blank⟩ := adjoin
  rw [Span.ordered_of_le _ _ behind] at blank
  exact ⟨behind, near, blank⟩

/-- Whether two comments belong together depends on their kinds, on the end of the first, and on
the start of the second. -/
theorem commentsAdjoin_congr {first second : Nat} (text : after.document = outline.document)
    (kinds : ∀ other, (after.region other).kind = (outline.region other).kind)
    (stop : (after.region first).stop? = (outline.region first).stop?)
    (start : (outline.region second).kind = .comment →
      (after.region second).start = (outline.region second).start)
    (complete : (outline.region second).kind = .comment →
      (after.region second).stop?.isSome = (outline.region second).stop?.isSome) :
    after.commentsAdjoin first second = outline.commentsAdjoin first second := by
  by_cases comment : (outline.region second).kind = .comment
  · simp only [commentsAdjoin, startLine, Draft.isComplete, kinds, stop, start comment,
      complete comment, text]
    cases (outline.region first).stop? <;> rfl
  · have other : ((outline.region second).kind == .comment) = false := by
      rw [beq_eq_false_iff_ne]
      exact comment
    simp only [commentsAdjoin, kinds, other, Bool.and_false, Bool.false_and]

section Finish

variable (finishes : Finishes outline parent id after)
include finishes

/-- A finished comment is one run, together with the one that it is merged into. -/
theorem Finishes.runs (text : after.document = outline.document)
    (runs : outline.Runs rules kept) : after.Runs rules kept := by
  intro other comment
  rw [finishes.kind_eq] at comment
  rw [finishes.start_eq (Or.inr (Or.inr comment)), text]
  cases finishes with
  | listed _ regions =>
    rw [regions]
    exact runs other comment
  | merged last isLast adjoin regions =>
    rw [regions]
    dsimp only
    split
    · rename_i same
      subst same
      obtain ⟨stop, ended, run⟩ := runs other comment
      obtain ⟨further, ends, more⟩ := runs id (kinds_of_commentsAdjoin adjoin).2
      obtain ⟨behind, near, blank⟩ := adjoin_facts adjoin ended
      exact ⟨further, ends, run.append more behind near blank⟩
    · exact runs other comment

/-- A comment only grows, at its end. -/
theorem Finishes.encloses (runs : outline.Runs rules kept) (spaced : Token.Spaced kept)
    {other : Nat} {token : Token} (encloses : outline.Encloses other token) :
    after.Encloses other token := by
  have kind := finishes.kind_eq other
  have start := finishes.start_eq (Or.inr (Or.inr encloses.kind))
  refine ⟨kind.trans encloses.kind, ?_, ?_⟩
  · rw [start]
    exact encloses.start_le
  · obtain ⟨stop, ended, inside⟩ := encloses.le_stop
    cases finishes with
    | listed _ regions =>
      rw [regions]
      exact ⟨stop, ended, inside⟩
    | merged last isLast adjoin regions =>
      rw [regions]
      dsimp only
      split
      · rename_i same
        subst same
        obtain ⟨further, ends, more⟩ := runs id (kinds_of_commentsAdjoin adjoin).2
        have behind := (adjoin_facts adjoin ended).1
        have filled := more.start_lt_stop spaced
        exact ⟨further, ends, by omega⟩
      · exact ⟨stop, ended, inside⟩

/-- What lay in a listed comment or in the finished one lies in a listed comment. -/
theorem Finishes.covers (runs : outline.Runs rules kept) (spaced : Token.Spaced kept)
    {token : Token} (before : outline.Covers token ∨ outline.Encloses id token) :
    after.Covers token := by
  rcases before with ⟨outer, other, lists, encloses⟩ | encloses
  · exact ⟨outer, other, finishes.lists_of_lists lists, finishes.encloses runs spaced encloses⟩
  · have still := finishes.encloses runs spaced encloses
    have kinds := finishes.kind_eq
    cases finishes with
    | listed _ regions =>
      refine ⟨parent, id, ?_, still⟩
      rw [Lists, regions]
      dsimp only
      rw [if_pos rfl]
      exact Array.mem_push_self
    | merged last isLast adjoin regions =>
      have lastComment := (kinds_of_commentsAdjoin adjoin).1
      refine ⟨parent, last, ?_, (kinds last).trans lastComment, ?_, ?_⟩
      · rw [Lists, regions]
        exact Array.mem_of_back? isLast
      · obtain ⟨stop, ended, run⟩ := runs last lastComment
        have filled := run.start_lt_stop spaced
        have behind := (adjoin_facts adjoin ended).1
        have start := encloses.start_le
        rw [regions]
        show (outline.region last).start ≤ token.start
        omega
      · rw [regions]
        dsimp only
        rw [if_pos rfl]
        exact encloses.le_stop

/-- Finishing a region leaves no two neighbours that could be merged. -/
theorem Finishes.apart {opened merged : List Nat}
    (numbered : Numbered outline (id :: opened) merged) (text : after.document = outline.document)
    (runs : outline.Runs rules kept) (apart : outline.Apart) : after.Apart := by
  intro outer first second neighbours
  have starts : (outline.region second).kind = .comment →
      (after.region second).start = (outline.region second).start :=
    fun comment => finishes.start_eq (Or.inr (Or.inr comment))
  have kinds := finishes.kind_eq
  obtain ⟨index, atIndex, behind⟩ := neighbours
  have firstEntry := finishes.entry_cases atIndex
  have secondEntry := finishes.entry_cases behind
  cases finishes with
  | listed distinct regions =>
    have same : after.commentsAdjoin first second = outline.commentsAdjoin first second := by
      apply commentsAdjoin_congr text kinds _ starts
      · intro _
        rw [regions]
      · rw [regions]
    rw [same]
    rcases secondEntry with old | ⟨rfl, rfl, atEnd⟩
    · rcases firstEntry with earlier | ⟨rfl, -, atEnd⟩
      · exact apart outer first second ⟨index, earlier, old⟩
      · have bound := (Array.getElem?_eq_some_iff.1 old).1
        omega
    · -- The region that has just been listed is the second one.
      rcases firstEntry with earlier | ⟨-, -, alsoAtEnd⟩
      · apply distinct
        rw [Array.back?_eq_getElem?, ← atEnd]
        exact earlier
      · omega
  | merged last isLast adjoin regions =>
    rw [regions] at atIndex behind
    have before := apart outer first second ⟨index, atIndex, behind⟩
    obtain ⟨lastComment, comment⟩ := kinds_of_commentsAdjoin adjoin
    -- Nothing follows the comment that has grown.
    have different := numbered.ne_last isLast atIndex behind
    rw [← before]
    apply commentsAdjoin_congr text kinds _ starts
    · intro secondComment
      rw [regions]
      dsimp only
      split
      · obtain ⟨stop, ended, -⟩ := runs id comment
        obtain ⟨further, ends, -⟩ := runs second secondComment
        rw [ended, ends]
        rfl
      · rfl
    · rw [regions]
      exact if_neg different

end Finish

theorem SameLists.covers (sameLists : SameLists outline after) {token : Token}
    (before : outline.Covers token) : after.Covers token := by
  obtain ⟨outer, inner, lists, encloses⟩ := before
  have same := sameLists.listed outer inner lists
  refine ⟨outer, inner, ?_, ?_, ?_, ?_⟩
  · rw [Lists, sameLists.children]
    exact lists
  · rw [same]
    exact encloses.kind
  · rw [same]
    exact encloses.start_le
  · rw [same]
    exact encloses.le_stop

theorem SameLists.apart (sameLists : SameLists outline after) (apart : outline.Apart) :
    after.Apart := by
  intro outer first second neighbours
  unfold Neighbours at neighbours
  rw [sameLists.children] at neighbours
  have before := apart outer first second neighbours
  obtain ⟨index, atIndex, behind⟩ := neighbours
  rw [← before]
  unfold commentsAdjoin startLine
  rw [sameLists.listed outer first (Array.mem_of_getElem? atIndex),
    sameLists.listed outer second (Array.mem_of_getElem? behind), sameLists.document_eq]

theorem Runs.add (runs : outline.Runs rules kept) {draft : Draft} {parent : Nat}
    (run : draft.kind = .comment → ∃ stop, draft.stop? = some stop ∧
      RemarkRun rules outline.document kept draft.start stop) :
    (outline.add draft parent).Runs rules kept := by
  intro other comment
  by_cases new : other = outline.size
  · subst new
    rw [outline.region_add_self] at comment ⊢
    exact run comment
  · rw [outline.region_add_other draft parent new] at comment ⊢
    exact runs other comment

/-- Closing a region that is no comment ends no comment. -/
theorem Runs.close (runs : outline.Runs rules kept) (stop : Nat)
    (other : (outline.region id).kind ≠ .comment) : (outline.close id stop).Runs rules kept := by
  intro comment isComment
  rw [outline.kind_close] at isComment
  have apart : comment ≠ id := by
    rintro rfl
    exact other isComment
  rw [outline.region_close_other stop apart]
  exact runs comment isComment

end Outline

namespace Scan

open Outline (Encloses)

/-- What holds of the comments of a scan on its way: the cursor walks the kept tokens, all comments
are runs of remarks, those behind the cursor lie in them, and none could still be merged. -/
structure Collected (rules : BraceRules) (kept : List Token) (scan : Scan Bool) : Prop where
  walks : scan.cursor.Walks kept
  runs : scan.outline.Runs rules kept
  covers : ∀ token ∈ kept, rules.Remark scan.outline.document token →
    token.start < scan.cursor.position → scan.outline.Covers token
  apart : scan.outline.Apart

namespace Collected

variable {rules : BraceRules} {tokens kept : List Token} {document : Document}
  {scan after : Scan Bool} {next : Cursor} {draft : Draft}

theorem start (rules : BraceRules) (announced : Bool) (document : Document) {tokens : List Token}
    (ordered : Token.Ordered tokens) :
    Collected rules (Token.arrange document.length tokens)
      (Scan.start (Dialect.brace rules) announced document tokens) := by
  refine ⟨Cursor.ofTokens_walks document ordered, ?_, ?_, ?_⟩
  · intro id comment
    have root : ((Outline.blank document).region id).kind = .document := by
      cases id <;> rfl
    exact nomatch root.symm.trans comment
  · intro token member remark before
    have first : (Cursor.ofTokens document tokens).position = 0 := Cursor.settle_position ..
    change token.start < (Cursor.ofTokens document tokens).position at before
    omega
  · rintro outer first second ⟨index, atIndex, -⟩
    have childless : ((Outline.blank document).region outer).children = #[] := by
      cases outer <;> rfl
    change ((Outline.blank document).region outer).children[index]? = some first at atIndex
    rw [childless] at atIndex
    exact nomatch atIndex

/-- A remark in front of the next position is covered already, or it is what the cursor is at. -/
theorem covers_or_current (collected : scan.Collected rules kept) (spaced : Token.Spaced kept)
    (reached : scan.Reached rules tokens document) (moved : scan.cursor.advance? = some next)
    {token : Token} (member : token ∈ kept) (remark : rules.Remark scan.outline.document token)
    (before : token.start < next.position) :
    scan.outline.Covers token ∨ scan.cursor.token? = some token ∧
      ∃ draft, rules.start? scan.cursor = some draft ∧ draft.stop? ≠ none := by
  by_cases behind : token.start < scan.cursor.position
  · exact Or.inl (collected.covers token member remark behind)
  · have current := (collected.walks.current_of_start spaced moved member
      (Nat.le_of_not_lt behind) before).1
    have same : scan.cursor.document = scan.outline.document :=
      reached.text.trans reached.same.symm
    rw [← same] at remark
    exact Or.inr ⟨current, BraceRules.start?_of_remark reached.sound current remark⟩

theorem exists_remark (collected : scan.Collected rules kept)
    (reached : scan.Reached rules tokens document) (starts : rules.start? scan.cursor = some draft)
    (ended : draft.stop? ≠ none) :
    ∃ token ∈ kept, scan.cursor.token? = some token ∧ rules.Remark scan.outline.document token ∧
      draft.kind = .comment ∧ draft.start = token.start ∧ draft.stop? = some token.stop := by
  have remarks : rules.remarks scan.cursor = true := by
    rcases rules.start?_cases reached.sound with
      ⟨other, same, unended, -⟩ | ⟨_, _, _, _, _, remarks⟩ | ⟨unstarted, -⟩
    · cases Option.some.inj (starts.symm.trans same)
      exact absurd unended ended
    · exact remarks
    · exact nomatch starts.symm.trans unstarted
  obtain ⟨token, current, remark⟩ := BraceRules.remarks_eq_true_iff.1 remarks
  have member := ((collected.walks.current_iff token).1 current).1
  have atStart : token.start = scan.cursor.position := by
    apply (reached.sound.current token current).atStart
    rw [remark.1]
    rfl
  rw [reached.text, ← reached.same] at remark
  cases BraceRules.start?_begins reached.sound starts with
  | bracket _ unended => exact absurd unended ended
  | named _ unended => exact absurd unended ended
  | comment other here same _ ends kind =>
    cases Option.some.inj (current.symm.trans same)
    exact ⟨token, member, current, remark, kind, here.trans atStart.symm, ends⟩

theorem finish_comment (collected : scan.Collected rules kept) (spaced : Token.Spaced kept)
    (reached : scan.Reached rules tokens document) (moved : scan.cursor.advance? = some next)
    (role : Region.Role) (starts : rules.start? scan.cursor = some draft)
    (ended : draft.stop? ≠ none) (announced : Bool) :
    Collected rules kept ⟨next,
      (scan.outline.add { draft with role := role } scan.parent).finish scan.outline.size,
      scan.opened, announced⟩ := by
  obtain ⟨merged, numbered⟩ := reached.accounted.numbered
  obtain ⟨token, member, current, remark, kind, start, stop⟩ :=
    collected.exists_remark reached starts ended
  have finishes := reached.finishes_comment moved starts role
  have sameLists := numbered.sameLists_add { draft with role := role } scan.parent
  have new := scan.outline.region_add_self { draft with role := role } scan.parent
  have text := (scan.outline.add { draft with role := role } scan.parent).document_finish
    scan.outline.size
  have runs : (scan.outline.add { draft with role := role } scan.parent).Runs rules kept := by
    apply collected.runs.add
    intro _
    refine ⟨token.stop, stop, ?_⟩
    show RemarkRun rules _ kept draft.start token.stop
    rw [start]
    exact .single token member remark
  refine ⟨collected.walks.advance spaced moved, finishes.runs text runs, ?_,
    finishes.apart (numbered.add _) text runs (sameLists.apart collected.apart)⟩
  intro other otherKept otherRemark before
  apply finishes.covers runs spaced
  rw [text] at otherRemark
  rcases collected.covers_or_current spaced reached moved otherKept otherRemark before with
    covers | ⟨same, -⟩
  · exact Or.inl (sameLists.covers covers)
  · cases Option.some.inj (current.symm.trans same)
    refine Or.inr ⟨?_, ?_, ?_⟩
    · rw [new]
      exact kind
    · rw [new]
      exact Nat.le_of_eq start
    · rw [new]
      exact ⟨token.stop, stop, Nat.le_refl _⟩

/-- Where no comment starts, all remarks that the cursor has met are covered. -/
theorem covers_of_advance (collected : scan.Collected rules kept) (spaced : Token.Spaced kept)
    (reached : scan.Reached rules tokens document) (moved : scan.cursor.advance? = some next)
    (none : ∀ draft, rules.start? scan.cursor = some draft → draft.stop? = none)
    {token : Token} (member : token ∈ kept) (remark : rules.Remark scan.outline.document token)
    (before : token.start < next.position) : scan.outline.Covers token := by
  rcases collected.covers_or_current spaced reached moved member remark before with
    covers | ⟨-, draft, starts, ended⟩
  · exact covers
  · exact absurd (none draft starts) ended

theorem step (collected : scan.Collected rules kept) (spaced : Token.Spaced kept)
    (reached : scan.Reached rules tokens document) (moved : scan.cursor.advance? = some next)
    (act : Act rules scan next after) : Collected rules kept after := by
  obtain ⟨merged, numbered⟩ := reached.accounted.numbered
  have walks := collected.walks.advance spaced moved
  cases act with
  | pass announced unstarted _ =>
    refine ⟨walks, collected.runs, ?_, collected.apart⟩
    intro token member remark before
    apply collected.covers_of_advance spaced reached moved _ member remark before
    intro draft starts
    exact nomatch unstarted.symm.trans starts
  | start draft role starts unended =>
    have sameLists := numbered.sameLists_add { draft with role := role } scan.parent
    refine ⟨walks, collected.runs.add ?_, ?_, sameLists.apart collected.apart⟩
    · intro comment
      exact absurd unended ((BraceRules.start?_comment_iff reached.sound starts).1 comment)
    · intro token member remark before
      apply sameLists.covers
      apply collected.covers_of_advance spaced reached moved _ member remark before
      intro other same
      cases Option.some.inj (starts.symm.trans same)
      exact unended
  | comment draft role starts ended =>
    exact collected.finish_comment spaced reached moved role starts ended false
  | close id outer stop innermost unstarted closes =>
    have finishes := reached.finishes_close innermost stop
    have notComment := reached.recalls.notComment
    rw [innermost] at numbered notComment
    have sameLists := numbered.sameLists_close stop
    have text := (scan.outline.close id stop).document_finish id
    have runs := collected.runs.close stop (notComment id List.mem_cons_self)
    refine ⟨walks, finishes.runs text runs, ?_,
      finishes.apart (numbered.close id stop) text runs (sameLists.apart collected.apart)⟩
    intro token member remark before
    rw [text] at remark
    apply finishes.covers runs spaced
    apply Or.inl
    apply sameLists.covers
    apply collected.covers_of_advance spaced reached moved _ member remark before
    intro draft starts
    exact nomatch unstarted.symm.trans starts

/-- Finishing the open regions changes the bounds of none. -/
theorem runs_finishAll (collected : scan.Collected rules kept)
    (reached : scan.Reached rules tokens document) :
    (scan.outline.finishAll scan.opened).Runs rules kept := by
  intro id comment
  rw [reached.region_finishAll] at comment ⊢
  rw [Outline.document_finishAll]
  exact collected.runs id comment

/-- At the end of the text all remarks lie in listed comments. -/
theorem covers_finishAll (collected : scan.Collected rules (Token.arrange document.length tokens))
    (spaced : Token.Spaced (Token.arrange document.length tokens))
    (reached : scan.Reached rules tokens document) (atEnd : scan.cursor.atEnd = true)
    {token : Token} (member : token ∈ Token.arrange document.length tokens)
    (remark : rules.Remark document token) :
    (scan.outline.finishAll scan.opened).Covers token := by
  have before : token.start < scan.cursor.position := by
    have inText := (Token.mem_of_mem_arrange member).2.2
    have filled := spaced.filled token member
    rw [Cursor.atEnd, decide_eq_true_eq, reached.text] at atEnd
    omega
  rw [← reached.same] at remark
  obtain ⟨outer, id, lists, encloses⟩ := collected.covers token member remark before
  refine ⟨outer, id, reached.lists_finishAll.2 (Or.inl lists), ?_, ?_, ?_⟩
  · rw [reached.region_finishAll]
    exact encloses.kind
  · rw [reached.region_finishAll]
    exact encloses.start_le
  · rw [reached.region_finishAll]
    exact encloses.le_stop

/-- The regions that are still open at the end are no comments, so they are merged with none. -/
theorem apart_finishAll (collected : scan.Collected rules kept)
    (reached : scan.Reached rules tokens document) :
    (scan.outline.finishAll scan.opened).Apart := by
  intro outer first second neighbours
  have drafts := reached.draft_finishAll
  have same : (scan.outline.finishAll scan.opened).commentsAdjoin first second =
      scan.outline.commentsAdjoin first second := by
    apply Outline.commentsAdjoin_congr (Outline.document_finishAll ..)
    · intro _
      rw [drafts]
    · rw [drafts]
    · intro _
      rw [drafts]
    · intro _
      rw [drafts]
  rw [same]
  obtain ⟨index, atIndex, behind⟩ := neighbours
  rcases reached.entry_finishAll behind with old | ⟨⟨isOpen, -⟩, -⟩
  · rcases reached.entry_finishAll atIndex with listed | ⟨-, atEnd⟩
    · exact collected.apart outer first second ⟨index, listed, old⟩
    · have bound := (Array.getElem?_eq_some_iff.1 old).1
      omega
  · have notComment := reached.recalls.notComment second isOpen
    apply Bool.eq_false_iff.2
    intro adjoin
    exact notComment (Outline.kinds_of_commentsAdjoin adjoin).2

end Collected

theorem run_collected (rules : BraceRules) (announced : Bool) (document : Document)
    {tokens : List Token} (ordered : Token.Ordered tokens) :
    Reached rules tokens document (braceRun rules announced document tokens) ∧
      Collected rules (Token.arrange document.length tokens)
        (braceRun rules announced document tokens) := by
  refine braceRun_reached rules announced document tokens _
    (Collected.start rules announced document ordered) ?_
  intro scan next after reached moved act _ collected
  exact collected.step (ordered.arrange_spaced document.length) reached moved act

end Scan

namespace Outline

/-- How the comments of an outline gather the remarks among the tokens that are kept. -/
structure CollectsComments (outline : Outline) (rules : BraceRules) (kept : List Token) :
    Prop where
  /-- Every remark lies in one comment. -/
  unique : ∀ token ∈ kept, rules.Remark outline.document token →
    ∃! id, id ∈ outline.descendants ∧ outline.Encloses id token
  /-- Every comment begins and ends with a remark. -/
  bounds : ∀ id ∈ outline.descendants, (outline.region id).kind = .comment →
    ∃ first ∈ kept, ∃ last ∈ kept,
      rules.Remark outline.document first ∧ rules.Remark outline.document last ∧
      (outline.region id).start = first.start ∧ (outline.region id).stop? = some last.stop
  childless : ∀ id ∈ outline.descendants, (outline.region id).kind = .comment →
    (outline.region id).children = #[]
  /-- What stands in a comment outside of comment tokens is white space. -/
  filled : ∀ id ∈ outline.descendants, (outline.region id).kind = .comment →
    ∀ stop offset c, (outline.region id).stop? = some stop →
      (outline.region id).start ≤ offset → offset < stop →
      outline.document.charAt? offset = some c →
      (∃ token ∈ kept, token.kind = .comment ∧ token.start ≤ offset ∧ offset < token.stop) ∨
        Unicode.isBlank c = true
  /-- Of two tokens next to each other in a comment, the second begins at most one line below the
  end of the first. -/
  near : ∀ id ∈ outline.descendants, (outline.region id).kind = .comment →
    ∀ stop, (outline.region id).stop? = some stop → ∀ first ∈ kept, ∀ second ∈ kept,
      (outline.region id).start ≤ first.start → second.stop ≤ stop →
      first.start < second.start →
      (∀ between ∈ kept, between.kind = .comment →
        ¬ (first.start < between.start ∧ between.start < second.start)) →
      outline.document.lineOf second.start ≤ outline.document.lineOf first.stop + 1
  /-- No neighbours could be merged. -/
  apart : ∀ outer first second, outline.Neighbours outer first second →
    outline.commentsAdjoin first second = false

theorem Encloses.unique {outline : Outline} {first second : Nat} {token : Token}
    (filled : token.start < token.stop)
    (childless : ∀ id, (outline.region id).kind = .comment → (outline.region id).children = #[])
    (laminar : ∀ first second, first ∈ outline.descendants → second ∈ outline.descendants →
      first < second →
      Relation.TransGen outline.Lists first second ∨ outline.Behind first second)
    (one : first ∈ outline.descendants) (two : second ∈ outline.descendants)
    (inFirst : outline.Encloses first token) (inSecond : outline.Encloses second token) :
    first = second := by
  have notBefore : ∀ {first second : Nat}, first ∈ outline.descendants →
      second ∈ outline.descendants → outline.Encloses first token →
      outline.Encloses second token → ¬ first < second := by
    intro first second one two inFirst inSecond before
    rcases laminar first second one two before with contains | ⟨stop, ended, -, overlap⟩
    · obtain ⟨child, lists, -⟩ := Relation.TransGen.head'_iff.1 contains
      rw [Lists, childless first inFirst.kind] at lists
      exact absurd lists (Array.not_mem_empty _)
    · obtain ⟨last, lastEnds, inside⟩ := inFirst.le_stop
      cases Option.some.inj (ended.symm.trans lastEnds)
      have start := inSecond.start_le
      have bracket := (overlap (by omega)).2
      rw [inSecond.kind] at bracket
      exact Region.Kind.not_isBracket_comment bracket
  have forward := notBefore one two inFirst inSecond
  have backward := notBefore two one inSecond inFirst
  omega

end Outline

/-- For every text and all tokens with bounds in order, the comments of the outline gather the
comment tokens that are no marks, in runs that cannot be made any longer. -/
theorem Dialect.outline_collectsComments (rules : BraceRules) (announced : Bool)
    (document : Document) {tokens : List Token} (ordered : Token.Ordered tokens) :
    ((brace rules).outline announced document tokens).2.document = document ∧
    ((brace rules).outline announced document tokens).2.CollectsComments rules
      (Token.arrange document.length tokens) := by
  have tree := ((brace rules).outline_numbered announced document tokens).treeShaped
  have laminar := @contains_or_behind rules announced document tokens ordered _ rfl
  have spaced := ordered.arrange_spaced document.length
  have text := document_outline_brace rules announced document tokens
  obtain ⟨reached, collected⟩ := Scan.run_collected rules announced document ordered
  have atEnd : (Scan.braceRun rules announced document tokens).cursor.atEnd = true :=
    Scan.run_atEnd _ _
  have runs := collected.runs_finishAll reached
  have apart := collected.apart_finishAll reached
  have covers : ∀ token ∈ Token.arrange document.length tokens, rules.Remark document token →
      ((brace rules).outline announced document tokens).2.Covers token := by
    rw [outline_brace]
    exact fun token member remark => collected.covers_finishAll spaced reached atEnd member remark
  have childless : ∀ id,
      (((brace rules).outline announced document tokens).2.region id).kind = .comment →
      (((brace rules).outline announced document tokens).2.region id).children = #[] := by
    rw [outline_brace]
    exact reached.childless_finishAll
  rw [← outline_brace] at runs apart
  generalize ((brace rules).outline announced document tokens).2 = outline at *
  subst text
  refine ⟨rfl, ?_, ?_, ?_, ?_, ?_, apart⟩
  · intro token member remark
    obtain ⟨outer, id, lists, encloses⟩ := covers token member remark
    have found := (tree.mem_descendants id).2 ⟨outer, lists⟩
    refine ⟨id, ⟨found, encloses⟩, ?_⟩
    rintro other ⟨otherFound, otherEncloses⟩
    refine Outline.Encloses.unique (spaced.filled token member) childless ?_ otherFound found
      otherEncloses encloses
    intro first second one two before
    exact laminar ((tree.mem_descendants first).1 one) ((tree.mem_descendants second).1 two) before
  · intro id _ comment
    obtain ⟨stop, ended, run⟩ := runs id comment
    obtain ⟨first, firstKept, firstRemark, starts⟩ := run.exists_first
    obtain ⟨last, lastKept, lastRemark, ends, -⟩ := run.exists_last spaced
    rw [← ends] at ended
    exact ⟨first, firstKept, last, lastKept, firstRemark, lastRemark, starts.symm, ended⟩
  · exact fun id _ comment => childless id comment
  · intro id _ comment stop offset c ends above below here
    obtain ⟨last, ended, run⟩ := runs id comment
    cases Option.some.inj (ends.symm.trans ended)
    exact run.covered_or_blank above below here
  · intro id _ comment stop ends first firstKept second secondKept above below before consecutive
    obtain ⟨last, ended, run⟩ := runs id comment
    cases Option.some.inj (ends.symm.trans ended)
    exact run.near_of_consecutive spaced firstKept secondKept above below before consecutive

/-- Two comments on lines next to each other, and one below an empty line. -/
def remarkTokens : List Token :=
  [⟨⟨0, 3⟩, .comment⟩, ⟨⟨4, 7⟩, .comment⟩, ⟨⟨9, 12⟩, .comment⟩]

/-- There each of the tokens lies in one comment. -/
theorem Dialect.outline_collectsComments_lines :
    Token.Ordered remarkTokens ∧ ∀ token ∈ remarkTokens,
      ∃! id, id ∈ ((brace .unmarked).outline false (Document.ofString "//a\n//b\n\n//c")
          remarkTokens).2.descendants ∧
        ((brace .unmarked).outline false (Document.ofString "//a\n//b\n\n//c")
          remarkTokens).2.Encloses id token := by
  have ordered : Token.Ordered remarkTokens := by decide
  refine ⟨ordered, ?_⟩
  obtain ⟨text, collects⟩ := outline_collectsComments .unmarked false
    (Document.ofString "//a\n//b\n\n//c") ordered
  intro token member
  apply collects.unique token
  · rw [Token.arrange_of_sorted _ (by decide)]
    revert token
    decide +kernel
  · rw [text]
    revert token
    decide +kernel

/-- A comment at the end of a text of one character, which ends in front of its start. -/
def turnedRemark : Token :=
  ⟨⟨1, 0⟩, .comment⟩

theorem outline_turnedRemark :
    ((Dialect.brace .unmarked).outline false (Document.ofString "x") [turnedRemark]).2.regions =
      #[Region.root] := by
  rw [Dialect.outline_of_sorted _ _ _ (by decide)]
  decide +kernel

/-- The token is kept and lies in no region, so that with bounds in any order comments do not
gather all tokens. -/
theorem Dialect.outline_collectsComments_turnedRemark :
    turnedRemark ∈ Token.arrange 1 [turnedRemark] ∧
    ((brace .unmarked).outline false (Document.ofString "x") [turnedRemark]).2.descendants = [] ∧
    ¬ ∀ (rules : BraceRules) (announced : Bool) (document : Document) (tokens : List Token),
      ((brace rules).outline announced document tokens).2.CollectsComments rules
        (Token.arrange document.length tokens) := by
  have kept : turnedRemark ∈ Token.arrange 1 [turnedRemark] := by
    rw [Token.arrange_of_sorted _ (by decide)]
    decide
  have nothing : ((brace .unmarked).outline false (Document.ofString "x")
      [turnedRemark]).2.descendants = [] := by
    rw [Outline.descendants, Outline.size, Outline.region, outline_turnedRemark]
    rfl
  refine ⟨kept, nothing, fun collects => ?_⟩
  have gathered := collects .unmarked false (Document.ofString "x") [turnedRemark]
  obtain ⟨id, ⟨listed, -⟩, -⟩ := gathered.unique turnedRemark kept ⟨rfl, rfl⟩
  rw [nothing] at listed
  exact List.not_mem_nil listed

end CodeFolding
