import CodeFolding.Proofs.Outline.Limits

set_option autoImplicit false

namespace CodeFolding

namespace Outline

variable {outline : Outline} {id parent : Nat}

section Settled

variable {openings : List Draft} {opened merged : List Nat}

/-- At the end of the list of an open region, the limit is what a region is settled with: an open
region has not moved its start yet. -/
theorem Recalls.limit_raiseLimit (recalls : Recalls outline openings opened)
    (stacked : Stacked outline opened) {outer : Nat} (isOpen : outer = rootId ∨ outer ∈ opened)
    (ended : ∀ last, outline.Lists outer last → (outline.region last).stop? ≠ none) :
    Limit outline openings outer (outline.region outer).children.size
      (outline.raiseLimit outer (outline.region outer).children.back?) := by
  cases isLast : (outline.region outer).children.back? with
  | none =>
    rw [Array.back?_eq_none_iff.1 isLast, Array.size_empty]
    rcases isOpen with rfl | member
    · simp only [raiseLimit, recalls.root, ↓reduceIte]
      exact .outermost rfl
    · obtain ⟨further, later, known, -⟩ := stacked.facts_of_mem outer member
      have positive : rootId < outer := Nat.zero_lt_of_lt later
      obtain ⟨draft, opening⟩ := recalls.exists_opening known
      have inner : (outline.region outer).kind ≠ .document := by
        rcases recalls.kinds outer positive known with (block | array) | named | comment
        · rw [block]; decide
        · rw [array]; decide
        · rw [named]; decide
        · rw [comment]; decide
      simp only [raiseLimit, inner, ↓reduceIte, startLine,
        recalls.unmoved outer draft known opening (Or.inr member)]
      exact .inner draft (Nat.ne_of_gt positive) opening
  | some last =>
    have lists : outline.Lists outer last := Array.mem_of_back? isLast
    obtain ⟨stop, stops⟩ := Option.ne_none_iff_exists'.1 (ended last lists)
    have size : (outline.region outer).children.size =
        (outline.region outer).children.size - 1 + 1 := by
      have filled := Array.size_pos_of_mem lists
      omega
    have inFront : (outline.region outer).children[(outline.region outer).children.size - 1]? =
        some last := by
      rw [← Array.back?_eq_getElem?]
      exact isLast
    rw [size]
    simp only [raiseLimit, stopLine?, stops, Option.map_some, Option.getD_some]
    by_cases same : outline.document.lineOf stop = outline.startLine last
    · rw [if_pos same]
      exact .behindLine _ last stop inFront stops same
    · rw [if_neg same]
      exact .behindLines _ last stop inFront stops same

/-- The regions listed so far have an end, and start where their openings and the limits say. -/
structure Settled (outline : Outline) (openings : List Draft) : Prop where
  ended : ∀ outer id, outline.Lists outer id → (outline.region id).stop? ≠ none
  folds : ∀ outer index id draft, (outline.region outer).children[index]? = some id →
    openings[id]? = some draft → ∃ limit, Limit outline openings outer index limit ∧
      outline.document.FoldsFrom draft (outline.region id).stop? limit (outline.region id).start

namespace Settled

theorem blank (document : Document) (openings : List Draft) :
    Settled (Outline.blank document) openings := by
  have childless : ∀ outer, ((Outline.blank document).region outer).children = #[] := by
    intro outer
    cases outer with
    | zero => rfl
    | succ outer => rfl
  constructor
  · intro outer id lists
    rw [Lists, childless] at lists
    exact absurd lists (Array.not_mem_empty id)
  · intro outer index id draft here
    rw [childless] at here
    exact nomatch here

theorem of_sameLists {changed : Outline} (settled : Settled outline openings)
    (sameLists : SameLists outline changed) : Settled changed openings := by
  constructor
  · intro outer id listed
    rw [Lists, sameLists.children] at listed
    rw [sameLists.listed outer id listed]
    exact settled.ended outer id listed
  · intro outer index id draft here opening
    rw [sameLists.children] at here
    obtain ⟨limit, holds, folds⟩ := settled.folds outer index id draft here opening
    rw [sameLists.document_eq, sameLists.listed outer id (Array.mem_of_getElem? here)]
    refine ⟨limit, holds.transfer sameLists.document_eq ?_, folds⟩
    intro place previous _ inFront
    rw [sameLists.children, sameLists.listed outer previous (Array.mem_of_getElem? inFront)]
    exact ⟨inFront, rfl, rfl⟩

theorem listed {after : Outline} {draft : Draft} (settled : Settled outline openings)
    (numbered : Numbered outline (id :: opened) merged)
    (recalls : Recalls outline openings opened) (text : after.document = outline.document)
    (complete : (outline.region id).stop? ≠ none) (opening : openings[id]? = some draft)
    (starts : (outline.region id).start = draft.start)
    (opener : draft.kind.IsBracket → draft.start ≤ outline.document.length ∧
      outline.document.charAt? draft.start ≠ some '\n')
    (finishes : Finishes outline (opened.headD rootId) id after)
    (regions : ∀ other, after.region other = { outline.region other with
      start := if other = id then
          outline.settledStart id (opened.headD rootId)
            (outline.region (opened.headD rootId)).children.back?
        else (outline.region other).start
      children := if other = opened.headD rootId then (outline.region other).children.push id
        else (outline.region other).children }) :
    Settled after openings := by
  obtain ⟨later, known, -⟩ := numbered.inside_facts numbered.inside_head
  have apart : ∀ outer other, outline.Lists outer other → other ≠ id := by
    rintro outer other lists rfl
    exact numbered.unlisted other List.mem_cons_self outer lists
  have before : ∀ outer index other : Nat, (outline.region outer).children[index]? = some other →
      (after.region outer).children[index]? = some other ∧
        (after.region other).stop? = (outline.region other).stop? ∧
        (after.region other).start = (outline.region other).start := by
    intro outer index other here
    have different := apart outer other (Array.mem_of_getElem? here)
    rw [regions outer, regions other]
    dsimp only
    rw [if_neg different]
    refine ⟨?_, rfl, rfl⟩
    split
    · have inside := (Array.getElem?_eq_some_iff.1 here).1
      rw [Array.getElem?_push_lt inside, ← here, Array.getElem?_eq_getElem inside]
    · exact here
  constructor
  · intro outer other lists
    obtain ⟨index, here⟩ := Array.getElem?_of_mem lists
    rcases finishes.entry_cases here with old | ⟨-, rfl, -⟩
    · rw [(before outer index other old).2.1]
      exact settled.ended outer other (Array.mem_of_getElem? old)
    · rw [regions]
      exact complete
  · intro outer index other found here same
    rcases finishes.entry_cases here with old | ⟨rfl, rfl, rfl⟩
    · obtain ⟨limit, holds, folds⟩ := settled.folds outer index other found old same
      obtain ⟨-, stops, start⟩ := before outer index other old
      rw [text, stops, start]
      refine ⟨limit, holds.transfer text ?_, folds⟩
      intro place previous _ inFront
      exact before outer place previous inFront
    · cases Option.some.inj (opening.symm.trans same)
      rcases numbered.stacked with _ | ⟨stacked, -, -, -⟩
      have holds := recalls.limit_raiseLimit stacked (Opened.headD_mem opened)
        (settled.ended (opened.headD rootId))
      have kind := recalls.kind other draft known opening
      have kinds := recalls.kinds other (Nat.zero_lt_of_lt later) known
      rw [kind] at kinds
      refine ⟨_, holds.transfer text ?_, ?_⟩
      · intro place previous _ inFront
        exact before _ place previous inFront
      · rw [text, regions]
        dsimp only
        rw [if_pos rfl]
        exact settledStart_foldsFrom kind starts kinds opener _

theorem merged_into {after : Outline} {last : Nat} (settled : Settled outline openings)
    (numbered : Numbered outline (id :: opened) merged)
    (recalls : Recalls outline openings opened) (text : after.document = outline.document)
    (isLast : (outline.region (opened.headD rootId)).children.back? = some last)
    (comment : (outline.region last).kind = .comment)
    (complete : (outline.region id).stop? ≠ none)
    (regions : ∀ other, after.region other = { outline.region other with
      stop? := if other = last then (outline.region id).stop?
        else (outline.region other).stop? }) :
    Settled after openings := by
  have lists : ∀ outer, (after.region outer).children = (outline.region outer).children := by
    intro outer
    rw [regions]
  have listsLast : outline.Lists (opened.headD rootId) last := Array.mem_of_back? isLast
  constructor
  · intro outer other listed
    rw [Lists, lists] at listed
    rw [regions]
    dsimp only
    split
    · exact complete
    · exact settled.ended outer other listed
  · intro outer index other draft here opening
    rw [lists] at here
    have listed : outline.Lists outer other := Array.mem_of_getElem? here
    obtain ⟨limit, holds, folds⟩ := settled.folds outer index other draft here opening
    refine ⟨limit, holds.transfer text ?_, ?_⟩
    · -- What has a region behind it is not the last one.
      rintro place previous rfl inFront
      have notLast := numbered.ne_last isLast inFront here
      rw [lists, regions previous]
      dsimp only
      rw [if_neg notLast]
      exact ⟨inFront, rfl, rfl⟩
    · rw [text, regions]
      dsimp only
      split
      · rename_i same
        subst same
        have kind := recalls.kind other draft (numbered.listed outer other listed).2.1 opening
        have notBracket : ¬ draft.kind.IsBracket := by
          rw [← kind, comment]
          exact Region.Kind.not_isBracket_comment
        rw [folds.eq_of_not_isBracket notBracket]
        exact .of_not_isBracket notBracket _ _
      · exact folds

theorem finish {draft : Draft} (settled : Settled outline openings)
    (numbered : Numbered outline (id :: opened) merged)
    (recalls : Recalls outline openings opened)
    (complete : (outline.region id).stop? ≠ none) (opening : openings[id]? = some draft)
    (starts : (outline.region id).start = draft.start)
    (opener : draft.kind.IsBracket → draft.start ≤ outline.document.length ∧
      outline.document.charAt? draft.start ≠ some '\n') :
    Settled (outline.finish id) openings := by
  have text := outline.document_finish id
  have finishes := outline.finish_finishes numbered
    fun comment => (recalls.comments id comment).2
  have whole := finishes
  cases finishes with
  | listed _ regions =>
    exact settled.listed numbered recalls text complete opening starts opener whole regions
  | merged last isLast adjoin regions =>
    exact settled.merged_into numbered recalls text isLast (kinds_of_commentsAdjoin adjoin).1
      complete regions

end Settled

/-- Every bracket with an end opened further in front, and ends behind the character that closes
its kind. -/
def ClosedByMatch (outline : Outline) (openings : List Draft) : Prop :=
  ∀ id draft stop, rootId < id → id < outline.size → openings[id]? = some draft →
    draft.kind.IsBracket → (outline.region id).stop? = some stop →
    draft.start + 1 < stop ∧ outline.document.charAt? (stop - 1) = draft.kind.closer?

namespace ClosedByMatch

theorem add {draft : Draft} (closed : ClosedByMatch outline openings)
    (opening : openings[outline.size]? = some draft) (role : Region.Role) (outer : Nat)
    (unended : draft.kind.IsBracket → draft.stop? = none) :
    ClosedByMatch (outline.add { draft with role := role } outer) openings := by
  intro other found stop inner known here bracket ends
  by_cases new : other = outline.size
  · rw [new, opening] at here
    cases here
    rw [new, outline.region_add_self { draft with role := role } outer] at ends
    exact nomatch (unended bracket).symm.trans ends
  · rw [outline.region_add_other _ outer new] at ends
    rw [size_add] at known
    exact closed other found stop inner (by omega) here bracket ends

theorem finish {after : Outline} (closed : ClosedByMatch outline openings)
    (recalls : Recalls outline openings opened) (text : after.document = outline.document)
    (size : after.size = outline.size) (finishes : Finishes outline parent id after) :
    ClosedByMatch after openings := by
  intro other draft stop inner known here bracket ends
  rw [size] at known
  have kind : (outline.region other).kind ≠ .comment := by
    rw [recalls.kind other draft known here]
    intro comment
    rw [comment] at bracket
    exact Region.Kind.not_isBracket_comment bracket
  rw [finishes.stop?_of_ne_comment kind] at ends
  rw [text]
  exact closed other draft stop inner known here bracket ends

end ClosedByMatch

end Settled

/-- How the starts and ends of the regions of an outline follow from the openings of the text. -/
structure FoldsBack (outline : Outline) (openings : List Draft) (tokens : List Token) : Prop where
  begins : ∀ outer id, outline.Lists outer id → ∃ draft, openings[id]? = some draft ∧
    (outline.region id).kind = draft.kind
  starts : ∀ outer index id draft, (outline.region outer).children[index]? = some id →
    openings[id]? = some draft → ∃ limit, Limit outline openings outer index limit ∧
      outline.document.FoldsFrom draft (outline.region id).stop? limit (outline.region id).start
  unmoved : ∀ outer id draft, outline.Lists outer id → openings[id]? = some draft →
    draft.kind = .named ∨ draft.kind = .comment → (outline.region id).start = draft.start ∧
      ∃ token ∈ tokens, (token.kind = .comment ∨ token.kind = .directive) ∧
        token.start = draft.start
  blank : ∀ outer id draft, outline.Lists outer id → openings[id]? = some draft →
    (outline.region id).start ≤ draft.start ∧
      outline.document.isBlank ⟨(outline.region id).start, draft.start⟩ = true
  opener : ∀ outer id draft, outline.Lists outer id → openings[id]? = some draft →
    draft.kind.IsBracket → outline.document.charAt? draft.start = draft.kind.opener?
  closer : ∀ outer id draft stop, outline.Lists outer id → openings[id]? = some draft →
    draft.kind.IsBracket → (outline.region id).stop? = some stop →
    draft.start + 1 < stop ∧ outline.document.charAt? (stop - 1) = draft.kind.closer?

end Outline

theorem BraceRules.char_of_opening {rules : BraceRules} {document : Document}
    {tokens : List Token} {id : Nat} {draft : Draft}
    (opening : (rules.openings document tokens)[id]? = some draft) (inner : Outline.rootId < id)
    (bracket : draft.kind.IsBracket) :
    draft.start ≤ document.length ∧ document.charAt? draft.start = draft.kind.opener? := by
  obtain ⟨stop, -, starts, sound, same⟩ := exists_stop_of_opening opening inner
  have here := (start?_begins sound starts).start_eq
  rw [here, ← same]
  exact ⟨sound.inside, start?_opener starts bracket⟩

namespace Scan

open Outline (Settled ClosedByMatch FoldsBack Limit)

variable {rules : BraceRules} {tokens : List Token} {document : Document}
  {scan after : Scan Bool} {next : Cursor}

theorem Act.settled (act : Act rules scan next after) (reached : Reached rules tokens document scan)
    (moved : scan.cursor.advance? = some next)
    (settled : Settled scan.outline (rules.openings document tokens)) :
    Settled after.outline (rules.openings document tokens) := by
  obtain ⟨merged, numbered⟩ := reached.accounted.numbered
  -- No bracket opens at a line feed.
  have opener : ∀ id draft, Outline.rootId < id →
      (rules.openings document tokens)[id]? = some draft → draft.kind.IsBracket →
      draft.start ≤ scan.outline.document.length ∧
        scan.outline.document.charAt? draft.start ≠ some '\n' := by
    intro id draft inner opening bracket
    obtain ⟨inside, here⟩ := BraceRules.char_of_opening opening inner bracket
    rw [reached.same, here]
    refine ⟨inside, ?_⟩
    rcases bracket with block | array
    · rw [block]
      decide
    · rw [array]
      decide
  cases act with
  | pass => exact settled
  | start draft role starts unended => exact settled.of_sameLists (numbered.sameLists_add _ _)
  | comment draft role starts ended =>
    have new := scan.outline.region_add_self { draft with role := role } scan.parent
    have opening := (reached.ahead_of_starts moved starts).1
    refine (settled.of_sameLists (numbered.sameLists_add _ _)).finish (numbered.add _)
      (reached.add moved starts role) ?_ opening ?_ (opener _ draft numbered.positive opening)
    · rw [new]
      exact ended
    · rw [new]
  | close id outer stop innermost unstarted closes =>
    have recalls := reached.recalls
    rw [innermost] at recalls numbered
    obtain ⟨later, known, -⟩ := numbered.inside_facts numbered.inside_head
    obtain ⟨draft, opening⟩ := recalls.exists_opening known
    have closed := scan.outline.region_close_self stop known
    refine (settled.of_sameLists (numbered.sameLists_close stop)).finish (numbered.close id stop)
      (recalls.close numbered stop) ?_ opening ?_
      (opener id draft (Nat.zero_lt_of_lt later) opening)
    · rw [closed]
      exact Option.some_ne_none _
    · rw [closed]
      exact recalls.unmoved id draft known opening (Or.inr List.mem_cons_self)

/-- A bracket is closed behind its start. The cursor may have gone back in between, but no token is
current there any more, and no character opens and closes. -/
theorem Reached.start_lt_of_close (reached : Reached rules tokens document scan) {id stop : Nat}
    {draft : Draft} (inner : Outline.rootId < id) (known : id < scan.outline.size)
    (opening : (rules.openings document tokens)[id]? = some draft)
    (bracket : draft.kind.IsBracket) (closes : rules.close? draft.kind scan.cursor = some stop) :
    draft.start < scan.cursor.position := by
  obtain ⟨closer, -⟩ := BraceRules.close?_closer closes bracket
  obtain ⟨-, opener⟩ := BraceRules.char_of_opening opening inner bracket
  have clears := reached.started id draft inner known opening
  have behind : draft.start ≤ scan.cursor.position := by
    cases BraceRules.close?_ends closes with
    | bracket token current => exact clears.current token current
    | named token current => exact clears.current token current
  refine Nat.lt_of_le_of_ne behind fun same => ?_
  rw [same, ← reached.text] at opener
  have agree : draft.kind.opener? = draft.kind.closer? := opener.symm.trans closer
  rcases bracket with block | array
  · rw [block] at agree
    exact absurd agree (by decide)
  · rw [array] at agree
    exact absurd agree (by decide)

theorem Act.closedByMatch (act : Act rules scan next after)
    (reached : Reached rules tokens document scan) (moved : scan.cursor.advance? = some next)
    (closed : ClosedByMatch scan.outline (rules.openings document tokens)) :
    ClosedByMatch after.outline (rules.openings document tokens) := by
  obtain ⟨merged, numbered⟩ := reached.accounted.numbered
  cases act with
  | pass => exact closed
  | start draft role starts unended =>
    exact closed.add (reached.ahead_of_starts moved starts).1 role _ fun _ => unended
  | comment draft role starts ended =>
    have unended : draft.kind.IsBracket → draft.stop? = none := by
      intro bracket
      rw [(BraceRules.start?_comment_iff reached.sound starts).2 ended] at bracket
      exact absurd bracket Region.Kind.not_isBracket_comment
    refine (closed.add (reached.ahead_of_starts moved starts).1 role scan.parent unended).finish
      (reached.add moved starts role) (Outline.document_finish ..) (Outline.size_finish ..)
      (reached.finishes_comment moved starts role)
  | close id outer stop innermost unstarted closes =>
    have recalls := reached.recalls
    rw [innermost] at recalls numbered
    refine ClosedByMatch.finish ?_ (recalls.close numbered stop) (Outline.document_finish ..)
      (Outline.size_finish ..) (reached.finishes_close innermost stop)
    intro other draft last inner known opening bracket ends
    rw [Outline.size_close] at known
    by_cases same : other = id
    · subst same
      have kind := recalls.kind other draft known opening
      rw [kind] at closes
      obtain ⟨closer, behind⟩ := BraceRules.close?_closer closes bracket
      have begun := reached.start_lt_of_close inner known opening bracket closes
      have start := recalls.unmoved other draft known opening (Or.inr List.mem_cons_self)
      rw [scan.outline.region_close_self stop known] at ends
      have last_eq := Option.some.inj ends
      have here : last = scan.cursor.position + 1 := by omega
      refine ⟨by omega, ?_⟩
      rw [here, Nat.add_sub_cancel, ← closer]
      change scan.outline.document.charAt? scan.cursor.position = scan.cursor.char?
      rw [reached.same, ← reached.text]
      rfl
    · rw [scan.outline.region_close_other stop same] at ends
      exact closed other draft last inner known opening bracket ends

/-- Finishing the open regions keeps the limits of the regions listed before them. -/
theorem Reached.limit_finishAll (reached : Reached rules tokens document scan)
    {openings : List Draft}
    {outer index limit : Nat} (holds : Limit scan.outline openings outer index limit) :
    Limit (scan.outline.finishAll scan.opened) openings outer index limit := by
  refine holds.transfer (Outline.document_finishAll ..) ?_
  intro place previous _ inFront
  have inside := (Array.getElem?_eq_some_iff.1 inFront).1
  rw [reached.region_finishAll outer, reached.region_finishAll previous]
  dsimp only
  rw [Array.getElem?_append_left inside]
  exact ⟨inFront, rfl, rfl⟩

/-- A scan that has settled the regions it listed leaves an outline in which all starts follow from
the openings. -/
theorem Reached.foldsBack (reached : Reached rules tokens document scan)
    (settled : Settled scan.outline (rules.openings document tokens))
    (closed : ClosedByMatch scan.outline (rules.openings document tokens)) :
    FoldsBack (scan.outline.finishAll scan.opened) (rules.openings document tokens) tokens := by
  obtain ⟨merged, numbered⟩ := reached.accounted.numbered
  have recalls := reached.recalls
  have draft_eq := reached.draft_finishAll
  have text := Outline.document_finishAll scan.outline scan.opened
  have starts : ∀ outer index id draft,
      ((scan.outline.finishAll scan.opened).region outer).children[index]? = some id →
      (rules.openings document tokens)[id]? = some draft →
      ∃ limit, Limit (scan.outline.finishAll scan.opened) (rules.openings document tokens) outer
          index limit ∧
        (scan.outline.finishAll scan.opened).document.FoldsFrom draft
          ((scan.outline.finishAll scan.opened).region id).stop? limit
          ((scan.outline.finishAll scan.opened).region id).start := by
    intro outer index id draft here opening
    rw [draft_eq, text]
    rcases reached.entry_finishAll here with old | ⟨⟨member, linked⟩, rfl⟩
    · obtain ⟨limit, holds, folds⟩ := settled.folds outer index id draft old opening
      exact ⟨limit, reached.limit_finishAll holds, folds⟩
    · have isOpen := numbered.stacked.parent_open member linked
      have holds := recalls.limit_raiseLimit numbered.stacked isOpen (settled.ended outer)
      refine ⟨_, reached.limit_finishAll holds, ?_⟩
      obtain ⟨-, used⟩ := reached.known_of_lists (Array.mem_of_getElem? here)
      rw [recalls.unended id member, recalls.unmoved id draft used opening (Or.inr member)]
      refine .stays fun _ alone => ?_
      obtain ⟨stop, absent, -⟩ := alone.lines
      exact nomatch absent
  refine ⟨?_, starts, ?_, ?_, ?_, ?_⟩
  · intro outer id lists
    obtain ⟨draft, opening⟩ := recalls.exists_opening (reached.known_of_lists lists).2
    rw [draft_eq]
    exact ⟨draft, opening, recalls.kind id draft (reached.known_of_lists lists).2 opening⟩
  · intro outer id draft lists opening kind
    obtain ⟨index, here⟩ := Array.getElem?_of_mem lists
    obtain ⟨limit, -, folds⟩ := starts outer index id draft here opening
    have notBracket : ¬ draft.kind.IsBracket := by
      rcases kind with named | comment
      · rw [named]
        exact Region.Kind.not_isBracket_named
      · rw [comment]
        exact Region.Kind.not_isBracket_comment
    obtain ⟨stop, -, begins, sound, -⟩ :=
      BraceRules.exists_stop_of_opening opening (reached.known_of_lists lists).1
    obtain ⟨token, current, class_eq, start⟩ := BraceRules.start?_token begins notBracket
    exact ⟨folds.eq_of_not_isBracket notBracket, token,
      (sound.current token current).member, class_eq, start⟩
  · intro outer id draft lists opening
    obtain ⟨index, here⟩ := Array.getElem?_of_mem lists
    obtain ⟨limit, -, folds⟩ := starts outer index id draft here opening
    refine ⟨?_, folds.isBlank⟩
    rw [draft_eq]
    exact recalls.start_le id draft (reached.known_of_lists lists).2 opening
  · intro outer id draft lists opening bracket
    rw [text, reached.same]
    exact (BraceRules.char_of_opening opening (reached.known_of_lists lists).1 bracket).2
  · intro outer id draft stop lists opening bracket ends
    obtain ⟨inner, used⟩ := reached.known_of_lists lists
    rw [draft_eq] at ends
    rw [text]
    exact closed id draft stop inner used opening bracket ends

end Scan

/-- For every text and all tokens, each region begins with the opening of its number. Named regions
and comments keep that start; a bracket with its line for itself goes back to the end of the last
line above it that is not blank, as far as the regions around it and in front of it leave room,
and every other bracket stays where it opens. So white space alone is folded in front of a bracket,
and a bracket with an end has its closing character there. -/
theorem Dialect.outline_foldsBack (rules : BraceRules) (announced : Bool) (document : Document)
    (tokens : List Token) :
    ((brace rules).outline announced document tokens).2.document = document ∧
      ((brace rules).outline announced document tokens).2.FoldsBack
        (rules.openings document tokens) tokens := by
  refine ⟨document_outline_brace .., ?_⟩
  rw [outline_brace]
  have kept := Scan.braceRun_reached rules announced document tokens
    (fun scan => Outline.Settled scan.outline (rules.openings document tokens) ∧
      Outline.ClosedByMatch scan.outline (rules.openings document tokens)) ⟨?_, ?_⟩ ?_
  · obtain ⟨reached, settled, closed⟩ := kept
    exact reached.foldsBack settled closed
  · exact Outline.Settled.blank document _
  · intro id draft stop inner known
    exact absurd inner (Nat.not_lt.2 (Nat.le_of_lt_succ known))
  · intro scan next after reached moved act _ facts
    exact ⟨act.settled reached moved facts.1, act.closedByMatch reached moved facts.2⟩

end CodeFolding
