import CodeFolding.Proofs.Outline.Kept

set_option autoImplicit false

namespace CodeFolding

namespace Outline

namespace Nested

variable {outline : Outline} {position : Nat} {opened : List Nat}

section Finish

variable {parent id : Nat}

theorem ready_ne_open (nested : Nested outline position opened)
    (ready : Ready outline position parent id) {other : Nat}
    (isOpen : other = rootId ∨ other ∈ opened) : other ≠ id := by
  rintro rfl
  obtain ⟨stop, ended, -⟩ := ready.ends
  exact nomatch (nested.unended_of_open isOpen).symm.trans ended

theorem lt_settledStart (nested : Nested outline position opened)
    (innermost : opened.headD rootId = parent) (ready : Ready outline position parent id)
    (notRoot : parent ≠ rootId) :
    (outline.region parent).start <
      outline.settledStart id parent (outline.region parent).children.back? := by
  have begins := ready.begins notRoot
  cases last : (outline.region parent).children.back? with
  | none =>
    have member := (innermost ▸ Opened.headD_mem opened).resolve_left notRoot
    obtain ⟨_, waiting⟩ := nested.opened.waiting_of_mem _ member
    refine lt_settledStart_of_first ?_ begins
    rcases waiting.kind with (block | array) | named
    · rw [block]; decide
    · rw [array]; decide
    · rw [named]; decide
  | some previous =>
    have member := Array.mem_of_back? last
    have facts := nested.listed _ previous member
    obtain ⟨stop, ended, filled, before, -⟩ := facts.ends
    have apart := (ready.behind previous member).2 stop ended
    have begins := facts.begins notRoot
    have near := outline.stop_le_settledStart_succ id parent ended
      (Nat.le_trans before nested.inside) apart
    omega

theorem follows_settled (nested : Nested outline position opened)
    (ready : Ready outline position parent id)
    {previous : Nat} (last : (outline.region parent).children.back? = some previous) :
    Follows (outline.settle id parent (some previous)) previous id := by
  have member := Array.mem_of_back? last
  obtain ⟨earlier, before⟩ := ready.behind previous member
  have apart : id ≠ parent := Nat.ne_of_gt ready.later
  refine ⟨earlier, ?_⟩
  intro stop ended
  rw [outline.stop?_settle] at ended
  obtain ⟨last, same, -, reached, -⟩ := (nested.listed _ previous member).ends
  cases ended.symm.trans same
  rw [outline.region_settle_self (some previous) ready.known apart, document_settle]
  have inside := Nat.le_trans reached nested.inside
  exact ⟨outline.stop_le_settledStart_succ id parent ended inside (before stop ended),
    settledStart_lt_stop_iff ended inside (before stop ended)
      (ready.kind.imp_right (Or.imp_right And.left)) ready.opener⟩

theorem settle_opened (nested : Nested outline position opened)
    (innermost : opened.headD rootId = parent) (ready : Ready outline position parent id)
    (previous? : Option Nat) : Opened (outline.settle id parent previous?) position opened := by
  refine nested.opened.transfer (Nat.le_of_eq (size_settle ..).symm) (document_settle ..)
    (innermost ▸ nested.opened.le_head) ?_ ?_
  · intro other isOpen
    have different := nested.ready_ne_open ready isOpen
    exact ⟨outline.draft_settle_other id parent previous? different,
      outline.parent?_settle id parent previous? other⟩
  · intro other isOpen below
    exact ⟨outline.children_settle_other id parent previous? (Nat.ne_of_lt below),
      fun sibling _ => outline.stop?_settle id parent previous? sibling⟩

theorem settle_listed (nested : Nested outline position opened)
    (innermost : opened.headD rootId = parent) (ready : Ready outline position parent id)
    {outer child : Nat} (member : child ∈ ((outline.settle id parent
      (outline.region parent).children.back?).region outer).children) :
    Listed (outline.settle id parent (outline.region parent).children.back?) position outer
      child := by
  have parentOpen : parent = rootId ∨ parent ∈ opened := innermost ▸ Opened.headD_mem opened
  have knownParent := nested.lt_size_of_open parentOpen
  have apart : id ≠ parent := Nat.ne_of_gt ready.later
  have behindParent := nested.lt_settledStart innermost ready
  generalize (outline.region parent).children.back? = previous? at behindParent member ⊢
  have stops := outline.stop?_settle id parent previous?
  have starts := outline.start_settle_le id parent previous?
  have pushed := outline.region_settle_parent previous? knownParent apart
  -- The regions that were listed before keep their places; the start around them may go back.
  have old : child ∈ (outline.region outer).children →
      Listed (outline.settle id parent previous?) position outer child := by
    intro before
    have facts := nested.listed outer child before
    have same := outline.draft_settle_other id parent previous?
      (show child ≠ id from fun same => ready.unlisted outer (same ▸ before))
    refine ⟨by rw [size_settle]; exact facts.known, ?_, ?_, ?_⟩
    · rw [outline.parent?_settle]
      exact facts.linked
    · rw [same]
      exact fun notRoot => Nat.lt_of_le_of_lt (starts outer) (facts.begins notRoot)
    · rw [same, stops outer]
      exact facts.ends
  by_cases same : outer = parent
  · rw [same, pushed, Array.mem_push] at member
    rcases member with before | rfl
    · exact old (same ▸ before)
    · obtain ⟨stop, ended, filled, reached⟩ := ready.ends
      have noLater := starts child
      rw [same]
      refine ⟨by rw [size_settle]; exact ready.known, ?_, ?_, stop, ?_, by omega, reached, ?_⟩
      · rw [outline.parent?_settle]
        exact ready.linked
      · rw [pushed, outline.region_settle_self previous? ready.known apart]
        exact behindParent
      · rw [stops]
        exact ended
      · rw [stops, nested.unended_of_open parentOpen]
        exact fun outer absent => nomatch absent
  · rw [outline.children_settle_other id parent previous? same] at member
    exact old member

theorem settle_inOrder (nested : Nested outline position opened)
    (knownParent : parent < outline.size) (ready : Ready outline position parent id)
    (outer : Nat) : ((outline.settle id parent
      (outline.region parent).children.back?).region outer).children.toList.IsChain
        (Follows (outline.settle id parent (outline.region parent).children.back?)) := by
  have apart : id ≠ parent := Nat.ne_of_gt ready.later
  have old : ∀ other, (outline.region other).children.toList.IsChain
      (Follows (outline.settle id parent (outline.region parent).children.back?)) := by
    intro other
    refine (nested.inOrder other).imp_of_mem_imp ?_
    intro first second _ secondMem follows
    rw [Array.mem_toList_iff] at secondMem
    have different : second ≠ id := fun same => ready.unlisted other (same ▸ secondMem)
    refine ⟨follows.later, ?_⟩
    rw [outline.stop?_settle,
      outline.draft_settle_other _ _ _ different, document_settle]
    exact follows.overlap
  by_cases same : outer = parent
  · rw [same, outline.region_settle_parent _ knownParent apart, Array.toList_push]
    refine (old parent).append (List.isChain_singleton id) ?_
    intro previous isLast next isNext
    have last : (outline.region parent).children.back? = some previous := by
      rw [← Array.getLast?_toList]
      exact isLast
    cases isNext
    rw [last]
    exact nested.follows_settled ready last
  · rw [outline.children_settle_other _ _ _ same]
    exact old outer

theorem settle (nested : Nested outline position opened)
    (innermost : opened.headD rootId = parent) (ready : Ready outline position parent id) :
    Nested (outline.settle id parent (outline.region parent).children.back?) position opened := by
  have parentOpen : parent = rootId ∨ parent ∈ opened := innermost ▸ Opened.headD_mem opened
  have knownParent := nested.lt_size_of_open parentOpen
  have apart : id ≠ parent := Nat.ne_of_gt ready.later
  refine ⟨by rw [size_settle]; exact nested.positive, ?_, ?_,
    nested.settle_opened innermost ready _, fun _ _ => nested.settle_listed innermost ready,
    nested.settle_inOrder knownParent ready⟩
  · rw [outline.stop?_settle]
    exact nested.root
  · rw [document_settle]
    exact nested.inside

theorem le_last (nested : Nested outline position opened) {last other : Nat}
    (isLast : (outline.region parent).children.back? = some last)
    (member : other ∈ (outline.region parent).children) : other ≤ last := by
  have increasing : (outline.region parent).children.toList.Pairwise (· < ·) :=
    List.isChain_iff_pairwise.1 ((nested.inOrder parent).imp fun _ _ follows => follows.later)
  rw [← Array.getLast?_toList, List.getLast?_eq_some_iff] at isLast
  obtain ⟨front, split⟩ := isLast
  rw [← Array.mem_toList_iff, split] at member
  rw [split, List.pairwise_append] at increasing
  rcases List.mem_append.1 member with before | same
  · exact Nat.le_of_lt (increasing.2.2 other before last List.mem_cons_self)
  · exact Nat.le_of_eq (List.mem_singleton.1 same)

theorem parent_unique (nested : Nested outline position opened) {first second child : Nat}
    (inFirst : child ∈ (outline.region first).children)
    (inSecond : child ∈ (outline.region second).children) : first = second :=
  Option.some.inj ((nested.listed first child inFirst).linked.symm.trans
    (nested.listed second child inSecond).linked)

theorem region_absorb (nested : Nested outline position opened)
    (ready : Ready outline position parent id) {last : Nat}
    (isLast : (outline.region parent).children.back? = some last)
    (childless : (outline.region id).children = #[]) (other : Nat) :
    (outline.absorb last id).region other = { outline.region other with
      stop? := if other = last then (outline.region id).stop?
        else (outline.region other).stop? } :=
  have member := Array.mem_of_back? isLast
  outline.region_absorb childless (nested.listed parent last member).known
    (Nat.ne_of_lt (ready.behind last member).1) other

theorem absorb_listed (nested : Nested outline position opened)
    (unended : (outline.region parent).stop? = none)
    (ready : Ready outline position parent id) {last : Nat}
    (isLast : (outline.region parent).children.back? = some last)
    (childless : (outline.region id).children = #[]) {outer child : Nat}
    (listed : child ∈ (outline.region outer).children) :
    Listed (outline.absorb last id) position outer child := by
  have member := Array.mem_of_back? isLast
  have region := nested.region_absorb ready isLast childless
  have facts := nested.listed outer child listed
  obtain ⟨stop, ended, filled, reached, inOuter⟩ := facts.ends
  obtain ⟨lastStop, lastEnded, lastFilled, -, -⟩ := (nested.listed parent last member).ends
  obtain ⟨further, readyEnded, readyFilled, readyReached⟩ := ready.ends
  have apart := (ready.behind last member).2 lastStop lastEnded
  refine ⟨?_, ?_, ?_, ?_⟩
  · rw [outline.size_absorb]
    exact facts.known
  · rw [region]
    exact facts.linked
  · rw [region, region]
    exact facts.begins
  · rw [region, region]
    dsimp only
    by_cases same : child = last
    · subst same
      have outside : outer ≠ child := by
        rintro rfl
        rw [nested.parent_unique listed member, unended] at ended
        exact nomatch ended
      rw [if_pos rfl, if_neg outside, nested.parent_unique listed member, unended]
      exact ⟨further, readyEnded, by omega, readyReached, fun _ absent => nomatch absent⟩
    · rw [if_neg same]
      refine ⟨stop, ended, filled, reached, ?_⟩
      by_cases within : outer = last
      · -- The list of the merged comment is the only one whose end has moved.
        have inside := inOuter lastStop (within ▸ lastEnded)
        rw [if_pos within, readyEnded]
        rintro _ ⟨⟩
        omega
      · rw [if_neg within]
        exact inOuter

theorem absorb_inOrder (nested : Nested outline position opened)
    (ready : Ready outline position parent id) {last : Nat}
    (isLast : (outline.region parent).children.back? = some last)
    (childless : (outline.region id).children = #[]) (outer : Nat) :
    (outline.region outer).children.toList.IsChain (Follows (outline.absorb last id)) := by
  have region := nested.region_absorb ready isLast childless
  refine (nested.inOrder outer).imp_of_mem_imp ?_
  intro first second firstMem secondMem follows
  rw [Array.mem_toList_iff] at firstMem secondMem
  -- Nothing follows the region whose end has moved.
  have earlier : first ≠ last := by
    rintro rfl
    cases nested.parent_unique firstMem (Array.mem_of_back? isLast)
    exact absurd follows.later (Nat.not_lt_of_le (nested.le_last isLast secondMem))
  refine ⟨follows.later, ?_⟩
  rw [region, region, document_absorb]
  dsimp only
  rw [if_neg earlier]
  exact follows.overlap

/-- A comment merged into the last one of its list moves the end of that one. -/
theorem absorb (nested : Nested outline position opened)
    (innermost : opened.headD rootId = parent) (ready : Ready outline position parent id)
    {last : Nat} (isLast : (outline.region parent).children.back? = some last)
    (childless : (outline.region id).children = #[]) :
    Nested (outline.absorb last id) position opened := by
  have parentOpen : parent = rootId ∨ parent ∈ opened := innermost ▸ Opened.headD_mem opened
  have member := Array.mem_of_back? isLast
  have size := outline.size_absorb last id
  have region := nested.region_absorb ready isLast childless
  have stays : ∀ {other}, other ≠ last →
      (outline.absorb last id).region other = outline.region other :=
    outline.region_absorb_other childless
  have openOther : ∀ {other}, other = rootId ∨ other ∈ opened → other ≠ last := by
    rintro other isOpen rfl
    exact nested.not_mem_children (nested.unended_of_open isOpen) parent member
  have lists : ∀ other, ((outline.absorb last id).region other).children =
      (outline.region other).children := fun other => by rw [region]
  refine ⟨by rw [size]; exact nested.positive, ?_, ?_, ?_, ?_, ?_⟩
  · rw [stays (openOther (Or.inl rfl))]
    exact nested.root
  · rw [document_absorb]
    exact nested.inside
  · refine nested.opened.transfer (Nat.le_of_eq size.symm) (document_absorb ..)
      (innermost ▸ nested.opened.le_head) ?_ ?_
    · intro other isOpen
      rw [stays (openOther isOpen)]
      exact ⟨rfl, rfl⟩
    · intro other isOpen below
      refine ⟨lists other, ?_⟩
      intro sibling siblingMem
      rw [stays]
      rintro rfl
      exact Nat.ne_of_lt below (nested.parent_unique siblingMem member)
  · intro outer child listed
    rw [lists] at listed
    exact nested.absorb_listed (nested.unended_of_open parentOpen) ready isLast childless listed
  · intro outer
    rw [lists]
    exact nested.absorb_inOrder ready isLast childless outer

theorem finish (nested : Nested outline position opened)
    (ready : Ready outline position (opened.headD rootId) id) :
    Nested (outline.finish id) position opened := by
  rcases finish_cases ready.linked with settled | ⟨last, isLast, adjoin, absorbed⟩
  · rw [settled]
    exact nested.settle rfl ready
  · rw [absorbed]
    refine nested.absorb rfl ready isLast ?_
    have comment : (outline.region id).kind = .comment := by
      simp only [commentsAdjoin, Bool.and_eq_true, beq_iff_eq] at adjoin
      exact adjoin.1.1.2
    rcases ready.kind with bracket | named | ⟨-, childless⟩
    · rw [comment] at bracket
      exact absurd bracket (by decide)
    · exact nomatch comment.symm.trans named
    · exact childless

end Finish

end Nested

end Outline

namespace Scan

open Outline (Nested)

theorem Turn.nested {rules : BraceRules} {tokens : List Token} {document : Document}
    {scan after : Scan Bool} {next : Cursor} (turn : Turn rules scan next after)
    (tracks : Tracks tokens document scan) (ordered : Token.Ordered tokens)
    (moved : scan.cursor.advance? = some next)
    (nested : Nested scan.outline scan.cursor.position scan.opened) :
    Nested after.outline after.cursor.position after.opened := by
  have forward := tracks.sound.position_lt_of_advance? ordered moved
  have text : scan.outline.document = scan.cursor.document := tracks.same.trans tracks.text.symm
  have inside : next.position ≤ scan.outline.document.length := by
    rw [text, ← Cursor.document_of_advance? moved]
    exact (tracks.sound.advance moved).inside
  cases turn with
  | pass announced unstarted => exact nested.advance (Nat.le_of_lt forward) inside
  | start draft begins unended =>
    cases begins with
    | bracket here _ kind opener =>
      refine nested.start forward inside here unended (Or.inl kind) ?_
      intro _
      rw [text]
      change scan.cursor.char? ≠ some '\n'
      rcases opener with brace | square
      · rw [brace]; decide
      · rw [square]; decide
    | named here _ kind =>
      refine nested.start forward inside here unended (Or.inr kind) ?_
      rw [kind]
      exact fun bracket => absurd bracket (by decide)
    | comment token _ _ _ ended => exact nomatch unended.symm.trans ended
  | comment draft begins ended =>
    cases begins with
    | bracket _ unended => exact absurd unended ended
    | named _ unended => exact absurd unended ended
    | comment token here current class_eq stop kind =>
      rw [← Cursor.nextPosition_of_whole current (by rw [class_eq]; rfl),
        ← Cursor.position_of_advance? moved] at stop
      have ready := nested.add_ready here stop forward kind
      exact ((nested.add draft _).advance (Nat.le_of_lt forward) inside).finish ready
  | close id outer stop innermost unstarted ends =>
    have reached := ends.stop_eq_position moved
    rw [innermost] at nested
    rw [reached]
    exact (nested.close forward inside).finish (nested.close_ready forward)

theorem start_nested (rules : BraceRules) (announced : Bool) (document : Document)
    (tokens : List Token) :
    Nested (Outline.blank document)
      (Scan.start (Dialect.brace rules) announced document tokens).cursor.position [] := by
  have start : (Cursor.ofTokens document tokens).position = 0 := Cursor.settle_position ..
  change Nested (Outline.blank document) (Cursor.ofTokens document tokens).position []
  rw [start]
  exact Nested.blank document

/-- The invariant holds when a scan over tokens with bounds in order has reached the end. -/
theorem run_nested (rules : BraceRules) (announced : Bool) (document : Document)
    {tokens : List Token} (ordered : Token.Ordered tokens) :
    Nested (braceRun rules announced document tokens).outline
      (braceRun rules announced document tokens).cursor.position
      (braceRun rules announced document tokens).opened := by
  refine (braceRun_induction rules announced document tokens
    (fun scan => Nested scan.outline scan.cursor.position scan.opened)
    (start_nested rules announced document tokens) ?_).2
  intro scan next after tracks moved turn nested
  exact turn.nested tracks ordered moved nested

end Scan

end CodeFolding
