import CodeFolding.Proofs.Cursor.Prepend
import CodeFolding.Proofs.Outline.Openings

set_option autoImplicit false

namespace CodeFolding

def Draft.lower (count : Nat) (draft : Draft) : Draft :=
  { draft with start := count + draft.start, stop? := draft.stop?.map (count + ·) }

/-- The region with both bounds moved on and all else as it is. -/
def Region.lower (count : Nat) (region : Region) : Region :=
  { region with toDraft := region.toDraft.lower count }

theorem Region.span?_lower (count : Nat) (region : Region) :
    (region.lower count).span? = region.span?.map (Span.lower count) := by
  unfold span? lower Draft.lower
  cases region.stop? with
  | none => rfl
  | some stop => exact congrArg some (Span.ordered_add count region.start stop)

namespace Outline

variable {head : List Char} {outline : Outline} {id : Nat}

/-- The outline with `head` in front of its text and every region but the root moved on. -/
def prepend (head : List Char) (outline : Outline) : Outline where
  document := outline.document.prepend head
  regions := outline.regions.mapIdx fun id region =>
    if id = rootId then region else region.lower head.length

/-- The number belongs to a region other than the root. -/
def Inner (outline : Outline) (id : Nat) : Prop :=
  rootId < id ∧ id < outline.size

@[simp] theorem document_prepend :
    (outline.prepend head).document = outline.document.prepend head := rfl

@[simp] theorem size_prepend : (outline.prepend head).size = outline.size := by
  simp only [size, prepend, Array.size_mapIdx]

theorem region_prepend (inner : outline.Inner id) :
    (outline.prepend head).region id = (outline.region id).lower head.length := by
  obtain ⟨below, known⟩ := inner
  unfold size at known
  simp only [region, prepend, Array.getD_eq_getD_getElem?, Array.getElem?_mapIdx,
    Array.getElem?_eq_getElem known, Option.map_some, Nat.ne_of_gt below, ↓reduceIte,
    Option.getD_some]

@[simp] theorem region_prepend_root :
    (outline.prepend head).region rootId = outline.region rootId := by
  simp only [region, prepend, Array.getD_eq_getD_getElem?, Array.getElem?_mapIdx, ↓reduceIte,
    Option.map_id']

/-- What does not depend on the bounds of a region stays the same. -/
theorem field_prepend {α : Type} (field : Region → α)
    (kept : ∀ region count, field (Region.lower count region) = field region) (id : Nat) :
    field ((outline.prepend head).region id) = field (outline.region id) := by
  simp only [region, prepend, Array.getD_eq_getD_getElem?, Array.getElem?_mapIdx]
  cases outline.regions[id]? with
  | none => rfl
  | some region =>
    simp only [Option.map_some, Option.getD_some]
    split
    · rfl
    · exact kept region head.length

@[simp] theorem kind_prepend (id : Nat) :
    ((outline.prepend head).region id).kind = (outline.region id).kind :=
  field_prepend (fun region => region.kind) (fun _ _ => rfl) id

@[simp] theorem children_prepend (id : Nat) :
    ((outline.prepend head).region id).children = (outline.region id).children :=
  field_prepend Region.children (fun _ _ => rfl) id

@[simp] theorem parent?_prepend (id : Nat) :
    ((outline.prepend head).region id).parent? = (outline.region id).parent? :=
  field_prepend Region.parent? (fun _ _ => rfl) id

section Operations

/-- A change that does not see the bounds, or moves with them, can be made before or after. -/
theorem modify_prepend {change moved : Region → Region}
    (atRoot : id = rootId → ∀ region, moved region = change region)
    (inside : id ≠ rootId → ∀ region,
      moved (region.lower head.length) = (change region).lower head.length) :
    (outline.prepend head).modify id moved = (outline.modify id change).prepend head := by
  unfold modify prepend
  congr 1
  apply Array.ext
  · simp only [Array.size_modify, Array.size_mapIdx]
  · intro index _ _
    simp only [Array.getElem_modify, Array.getElem_mapIdx]
    by_cases same : id = index
    · subst same
      by_cases root : id = rootId
      · simp only [root, ↓reduceIte]
        exact atRoot root _
      · simp only [root, ↓reduceIte]
        exact inside root _
    · simp only [same, ↓reduceIte]

theorem add_prepend (positive : 0 < outline.size) (draft : Draft) (parent : Nat) :
    (outline.prepend head).add (draft.lower head.length) parent =
      (outline.add draft parent).prepend head := by
  unfold size at positive
  simp only [add, prepend, Array.mapIdx_push, Nat.ne_of_gt positive, rootId, ↓reduceIte]
  rfl

theorem close_prepend (inner : rootId < id) (stop : Nat) :
    (outline.prepend head).close id (head.length + stop) =
      (outline.close id stop).prepend head := by
  refine modify_prepend (fun root => absurd root (Nat.ne_of_gt inner)) ?_
  intro _ region
  simp only [Region.lower, Draft.lower, Nat.add_max_add_left, Option.map_some]

theorem enlist_prepend (parent child : Nat) :
    (outline.prepend head).enlist parent child = (outline.enlist parent child).prepend head :=
  modify_prepend (fun _ _ => rfl) (fun _ _ => rfl)

theorem setStart_prepend (inner : rootId < id) (start : Nat) :
    (outline.prepend head).setStart id (head.length + start) =
      (outline.setStart id start).prepend head :=
  modify_prepend (fun root => absurd root (Nat.ne_of_gt inner)) (fun _ _ => rfl)

theorem setParents_prepend (children : List Nat) (parent : Nat) :
    children.foldl (fun outline child => outline.setParent parent child) (outline.prepend head) =
      (children.foldl (fun outline child => outline.setParent parent child) outline).prepend
        head := by
  induction children generalizing outline with
  | nil => rfl
  | cons child rest ih =>
    have first : (outline.prepend head).setParent parent child =
        (outline.setParent parent child).prepend head :=
      modify_prepend (fun _ _ => rfl) (fun _ _ => rfl)
    rw [List.foldl_cons, first, ih, List.foldl_cons]

theorem absorb_prepend {target merged : Nat} (inner : rootId < target)
    (known : outline.Inner merged) :
    (outline.prepend head).absorb target merged =
      (outline.absorb target merged).prepend head := by
  have emptied : (outline.prepend head).modify merged
      (fun region => { region with children := #[] }) =
        (outline.modify merged fun region => { region with children := #[] }).prepend head :=
    modify_prepend (fun _ _ => rfl) (fun _ _ => rfl)
  simp only [absorb, ← Array.foldl_toList, emptied, setParents_prepend, region_prepend known]
  refine modify_prepend (fun root => absurd root (Nat.ne_of_gt inner)) ?_
  exact fun _ _ => rfl

end Operations

section Lookups

variable (lines : BlankLines head)
include lines

theorem startLine_prepend (inner : outline.Inner id) :
    (outline.prepend head).startLine id = Lines.breaks head + outline.startLine id := by
  rw [startLine, startLine, region_prepend inner]
  exact Document.lineOf_prepend _ lines _

theorem stopLine?_prepend (inner : outline.Inner id) :
    (outline.prepend head).stopLine? id =
      (outline.stopLine? id).map (Lines.breaks head + ·) := by
  simp only [stopLine?, region_prepend inner, Region.lower, Draft.lower, Option.map_map]
  congr 1
  funext stop
  exact Document.lineOf_prepend _ lines stop

theorem isMultiLine_prepend (inner : outline.Inner id) :
    (outline.prepend head).isMultiLine id = outline.isMultiLine id := by
  rw [isMultiLine, isMultiLine, stopLine?_prepend lines inner, startLine_prepend lines inner]
  cases outline.stopLine? id with
  | none => rfl
  | some line =>
    rw [Option.map_some, Option.any_some, Option.any_some, Bool.eq_iff_iff]
    simp only [bne_iff_ne, ne_eq, Nat.add_left_cancel_iff]

theorem leadingText_prepend (inner : outline.Inner id) :
    (outline.prepend head).leadingText id = outline.leadingText id := by
  simp only [leadingText, startLine_prepend lines inner, document_prepend, region_prepend inner,
    Region.lower, Draft.lower, Document.lineStart_prepend _ lines, Document.lineEnd_prepend _ lines,
    Nat.add_min_add_left, Span.ordered_add, Document.slice_prepend]

omit lines in
theorem bodyText_prepend (inner : outline.Inner id) :
    (outline.prepend head).bodyText id = outline.bodyText id := by
  simp only [bodyText, document_prepend, region_prepend inner, Region.lower, Draft.lower,
    Document.length_prepend]
  cases (outline.region id).stop? with
  | none => simp only [Option.map_none, Option.getD_none, Span.ordered_add, Document.slice_prepend]
  | some stop =>
    simp only [Option.map_some, Option.getD_some, Span.ordered_add, Document.slice_prepend]

theorem placeholder_prepend (inner : outline.Inner id) :
    (outline.prepend head).placeholder id = outline.placeholder id := by
  simp only [placeholder, document_prepend, startLine_prepend lines inner, region_prepend inner,
    Region.lower, Draft.lower, Document.lineEndWithBreak_prepend _ lines, Span.ordered_add,
    Document.slice_prepend]

theorem preview_prepend (inner : outline.Inner id) (tabSize : Nat) :
    (outline.prepend head).preview tabSize id = outline.preview tabSize id := by
  simp only [preview, previewSource, leadingText_prepend lines inner, bodyText_prepend inner]

theorem commentsAdjoin_prepend {first second : Nat} (one : outline.Inner first)
    (two : outline.Inner second) :
    (outline.prepend head).commentsAdjoin first second = outline.commentsAdjoin first second := by
  simp only [commentsAdjoin, startLine_prepend lines two, document_prepend, region_prepend one,
    region_prepend two, Region.lower, Draft.lower, Draft.isComplete, Option.isSome_map]
  cases (outline.region first).stop? with
  | none => rfl
  | some stop =>
    simp only [Option.map_some, Document.lineOf_prepend _ lines, Span.ordered_add,
      Document.isBlank_prepend, Nat.add_le_add_iff_left, Nat.add_assoc]

end Lookups

section Raise

variable (lines : BlankLines head)
include lines

/-- No line on top is solid. -/
theorem lastSolidLine?_above (document : Document) (limit : Nat) {line : Nat}
    (above : line ≤ Lines.breaks head) :
    lastSolidLine? (document.prepend head) limit line = none := by
  induction line with
  | zero => rfl
  | succ line ih =>
    rw [lastSolidLine?, Document.isBlankLine_of_lt_breaks document lines above,
      ih (Nat.le_of_succ_le above), if_pos rfl, ite_self]

/-- The last solid line is the same one, whether the search stops at the old text or goes on up to
the first line. -/
theorem lastSolidLine?_prepend (document : Document) {limit lowered : Nat}
    (same : lowered = Lines.breaks head + limit ∨ lowered = 0 ∧ limit = 0) (line : Nat) :
    lastSolidLine? (document.prepend head) lowered (Lines.breaks head + line) =
      (lastSolidLine? document limit line).map (Lines.breaks head + ·) := by
  induction line with
  | zero => exact lastSolidLine?_above lines document lowered (Nat.le_refl _)
  | succ line ih =>
    have beyond : Lines.breaks head + line < lowered ↔ line < limit := by omega
    rw [← Nat.add_assoc, lastSolidLine?, lastSolidLine?,
      Document.isBlankLine_prepend document lines, ih]
    simp only [beyond]
    split
    · rfl
    · split <;> rfl

variable {parent : Nat} {previous? : Option Nat}

theorem raiseLimit_prepend (root : (outline.region rootId).kind = .document)
    (around : parent = rootId ∨ outline.Inner parent)
    (before : ∀ previous, previous? = some previous → outline.Inner previous) :
    (outline.prepend head).raiseLimit parent previous? =
        Lines.breaks head + outline.raiseLimit parent previous? ∨
      (outline.prepend head).raiseLimit parent previous? = 0 ∧
        outline.raiseLimit parent previous? = 0 := by
  unfold raiseLimit
  cases previous? with
  | none =>
    simp only [kind_prepend]
    rcases around with rfl | inner
    · exact Or.inr ⟨if_pos root, if_pos root⟩
    · split
      · exact Or.inr ⟨rfl, rfl⟩
      · rw [startLine_prepend lines inner]
        exact Or.inl (Nat.add_assoc ..)
  | some previous =>
    have inner := before previous rfl
    simp only [startLine_prepend lines inner, stopLine?_prepend lines inner]
    left
    cases outline.stopLine? previous with
    | none => simp only [Option.map_none, Option.getD_none, ↓reduceIte]
    | some last =>
      simp only [Option.map_some, Option.getD_some, Nat.add_left_cancel_iff]
      split <;> omega

theorem raisedStart?_prepend (root : (outline.region rootId).kind = .document)
    (inner : outline.Inner id) (around : parent = rootId ∨ outline.Inner parent)
    (before : ∀ previous, previous? = some previous → outline.Inner previous) :
    (outline.prepend head).raisedStart? id parent previous? =
      (outline.raisedStart? id parent previous?).map (head.length + ·) := by
  have limit := raiseLimit_prepend lines root around before
  simp only [raisedStart?, kind_prepend, isMultiLine_prepend lines inner,
    leadingText_prepend lines inner, startLine_prepend lines inner, document_prepend]
  split
  · rfl
  · split
    · rw [lastSolidLine?_prepend lines outline.document limit, Option.map_map, Option.map_map]
      congr 1
      funext line
      exact Document.lineEnd_prepend _ lines line
    · rfl

theorem settle_prepend (root : (outline.region rootId).kind = .document)
    (inner : outline.Inner id) (around : parent = rootId ∨ outline.Inner parent)
    (before : ∀ previous, previous? = some previous → outline.Inner previous) :
    (outline.prepend head).settle id parent previous? =
      (outline.settle id parent previous?).prepend head := by
  unfold settle
  dsimp only
  rw [raisedStart?_prepend lines root inner around before, enlist_prepend]
  cases outline.raisedStart? id parent previous? with
  | none => rfl
  | some start => exact setStart_prepend inner.1 start

theorem finish_prepend {opened merged : List Nat}
    (numbered : Numbered outline (id :: opened) merged)
    (root : (outline.region rootId).kind = .document) :
    (outline.prepend head).finish id = (outline.finish id).prepend head := by
  obtain ⟨later, known, linked⟩ := numbered.inside_facts numbered.inside_head
  have inner : outline.Inner id := ⟨Nat.zero_lt_of_lt later, known⟩
  have around : opened.headD rootId = rootId ∨ outline.Inner (opened.headD rootId) := by
    by_cases root : opened.headD rootId = rootId
    · exact Or.inl root
    · exact Or.inr ⟨Nat.pos_of_ne_zero root, Nat.lt_trans later known⟩
  have listed : ∀ last, (outline.region (opened.headD rootId)).children.back? = some last →
      outline.Inner last := by
    intro last isLast
    obtain ⟨behind, used, -⟩ := numbered.listed _ last (Array.mem_of_back? isLast)
    exact ⟨Nat.zero_lt_of_lt behind, used⟩
  unfold finish
  rw [parent?_prepend, linked]
  dsimp only
  rw [children_prepend]
  cases isLast : (outline.region (opened.headD rootId)).children.back? with
  | none => exact settle_prepend lines root inner around (fun _ absent => nomatch absent)
  | some last =>
    have lastInner := listed last isLast
    dsimp only
    rw [commentsAdjoin_prepend lines lastInner inner]
    split
    · exact absorb_prepend lastInner.1 inner
    · refine settle_prepend lines root inner around ?_
      intro previous same
      exact listed previous (isLast.trans same)

end Raise

theorem finishAll_prepend {opened : List Nat} (stacked : Stacked outline opened)
    (unended : ∀ id ∈ opened, (outline.region id).stop? = none) :
    (outline.prepend head).finishAll opened = (outline.finishAll opened).prepend head := by
  unfold finishAll
  induction opened generalizing outline with
  | nil => rfl
  | cons id outer ih =>
    rcases stacked with _ | ⟨around, known, later, linked⟩
    have open_ := unended id List.mem_cons_self
    have lowered : ((outline.prepend head).region id).stop? = none := by
      rw [region_prepend ⟨Nat.zero_lt_of_lt later, known⟩, Region.lower, Draft.lower, open_]
      rfl
    have still : ∀ other ∈ outer,
        ((outline.enlist (outer.headD rootId) id).region other).stop? = none := by
      intro other member
      refine Eq.trans (outline.field_modify _ other (fun region => region.stop?) ?_)
        (unended other (List.mem_cons_of_mem id member))
      exact fun _ => rfl
    rw [List.foldl_cons, List.foldl_cons, finish_of_unended linked open_,
      finish_of_unended (by rw [parent?_prepend, linked]) lowered, enlist_prepend]
    exact ih (around.enlist _ id) still

end Outline

namespace BraceRules

variable {head : List Char} (rules : BraceRules) (cursor : Cursor)

theorem announcesFunction_prepend :
    rules.announcesFunction (cursor.prepend head) = rules.announcesFunction cursor := by
  unfold announcesFunction Cursor.prepend
  cases cursor.token? with
  | none => rfl
  | some token =>
    have begins : ((token.lower head.length).start == head.length + cursor.position) =
        (token.start == cursor.position) := by
      rw [Bool.eq_iff_iff]
      simp only [Token.lower_start, beq_iff_eq, Nat.add_left_cancel_iff]
    simp only [Option.map_some, begins, Token.lower_kind]
    rw [show (token.lower head.length).toSpan = token.toSpan.lower head.length from rfl,
      Document.slice_prepend]

theorem start?_prepend :
    rules.start? (cursor.prepend head) = (rules.start? cursor).map (Draft.lower head.length) := by
  have char : (cursor.prepend head).char? = cursor.char? := cursor.char?_prepend
  unfold start?
  rw [char]
  unfold Cursor.prepend
  dsimp only
  cases cursor.token? with
  | none => rfl
  | some token =>
    have text : (cursor.document.prepend head).slice (token.lower head.length).toSpan =
        cursor.document.slice token.toSpan := Document.slice_prepend ..
    dsimp only [Option.map_some]
    rw [Token.lower_kind, text]
    split
    · split <;> rfl
    · rw [Token.lower_start]
      simp only [Nat.add_left_cancel_iff]
      split
      · unfold startComment?
        split
        · rfl
        · split <;> rfl
      · rfl
    · rw [Option.map_map]
      rfl
    · rfl

theorem close?_prepend (kind : Region.Kind) :
    rules.close? kind (cursor.prepend head) =
      (rules.close? kind cursor).map (head.length + ·) := by
  have char : (cursor.prepend head).char? = cursor.char? := cursor.char?_prepend
  unfold close?
  rw [char]
  unfold Cursor.prepend
  dsimp only
  cases cursor.token? with
  | none => rfl
  | some token =>
    have text : (cursor.document.prepend head).slice (token.lower head.length).toSpan =
        cursor.document.slice token.toSpan := Document.slice_prepend ..
    dsimp only [Option.map_some]
    rw [Token.lower_kind, text]
    split
    · split <;> rfl
    · split <;> rfl
    · split <;> rfl
    · split <;> rfl
    · rfl

end BraceRules

namespace Scan

open Outline (Numbered)

variable {head : List Char} {rules : BraceRules} {tokens : List Token} {document : Document}
  {scan after : Scan Bool} {next : Cursor}

/-- The scan at the same place of the text with `head` in front of it. -/
def prepend (head : List Char) (scan : Scan Bool) : Scan Bool where
  cursor := scan.cursor.prepend head
  outline := scan.outline.prepend head
  opened := scan.opened
  state := scan.state

/-- What a step can do determines what it does. -/
theorem Heeds.eq_step (heeds : Heeds rules scan next after) :
    scan.step (Dialect.brace rules) next = after := by
  have taken := step_heeds rules scan next
  generalize scan.step (Dialect.brace rules) next = other at taken
  cases heeds with
  | pass unstarted unclosed =>
    cases taken with
    | pass => rfl
    | start draft starts => exact nomatch unstarted.symm.trans starts
    | comment draft starts => exact nomatch unstarted.symm.trans starts
    | close id outer stop innermost _ closes =>
      exact nomatch (unclosed id outer innermost).symm.trans closes
  | start draft starts unended =>
    cases taken with
    | pass unstarted => exact nomatch unstarted.symm.trans starts
    | start other found =>
      cases Option.some.inj (starts.symm.trans found)
      rfl
    | comment other found ended =>
      cases Option.some.inj (starts.symm.trans found)
      exact absurd unended ended
    | close id outer stop innermost unstarted => exact nomatch unstarted.symm.trans starts
  | comment draft starts ended =>
    cases taken with
    | pass unstarted => exact nomatch unstarted.symm.trans starts
    | start other found unended =>
      cases Option.some.inj (starts.symm.trans found)
      exact absurd unended ended
    | comment other found =>
      cases Option.some.inj (starts.symm.trans found)
      rfl
    | close id outer stop innermost unstarted => exact nomatch unstarted.symm.trans starts
  | close id outer stop innermost unstarted closes =>
    cases taken with
    | pass _ unclosed => exact nomatch (unclosed id outer innermost).symm.trans closes
    | start draft starts => exact nomatch unstarted.symm.trans starts
    | comment draft starts => exact nomatch unstarted.symm.trans starts
    | close other further last same _ found =>
      cases innermost.symm.trans same
      cases Option.some.inj (closes.symm.trans found)
      rfl

theorem heard_prepend : (scan.prepend head).heard rules = scan.heard rules := by
  rw [heard, heard, prepend, rules.announcesFunction_prepend]

theorem step_prepend (lines : BlankLines head) (reached : Reached rules tokens document scan) :
    (scan.prepend head).step (Dialect.brace rules) (next.prepend head) =
      (scan.step (Dialect.brace rules) next).prepend head := by
  have heeds := step_heeds rules scan next
  obtain ⟨merged, numbered⟩ := reached.accounted.numbered
  have root := reached.recalls.root
  have size : (scan.outline.prepend head).size = scan.outline.size := Outline.size_prepend
  generalize scan.step (Dialect.brace rules) next = after at heeds
  apply Heeds.eq_step
  have started : rules.start? (scan.cursor.prepend head) =
      (rules.start? scan.cursor).map (Draft.lower head.length) := rules.start?_prepend scan.cursor
  cases heeds with
  | pass unstarted unclosed =>
    have quiet : Heeds rules (scan.prepend head) (next.prepend head) _ := .pass
      (by rw [prepend, started, unstarted]; rfl) (by
        intro id outer innermost
        have stays := unclosed id outer innermost
        simp only [prepend, Outline.kind_prepend]
        rw [rules.close?_prepend, stays]
        rfl)
    rw [heard_prepend] at quiet
    exact quiet
  | start draft starts unended =>
    have begun : Heeds rules (scan.prepend head) (next.prepend head) _ :=
      .start (draft.lower head.length) (by rw [prepend, started, starts]; rfl)
        (by rw [Draft.lower, unended]; rfl)
    -- The role of a region that starts depends on its kind, not on its place.
    have added : (scan.outline.prepend head).add _ _ = _ := Outline.add_prepend numbered.positive
      { draft with role := BraceRules.roleOf (scan.heard rules) draft } scan.parent
    rw [heard_prepend] at begun
    simp only [prepend, size] at begun ⊢
    rw [← added]
    exact begun
  | comment draft starts ended =>
    have begun : Heeds rules (scan.prepend head) (next.prepend head) _ :=
      .comment (draft.lower head.length) (by rw [prepend, started, starts]; rfl)
        (by simpa [Draft.lower] using ended)
    have added : (scan.outline.prepend head).add _ _ = _ := Outline.add_prepend numbered.positive
      { draft with role := BraceRules.roleOf (scan.heard rules) draft } scan.parent
    have finished := Outline.finish_prepend lines (numbered.add { draft with
      role := BraceRules.roleOf (scan.heard rules) draft }) (by
        have apart : Outline.rootId ≠ scan.outline.size := Nat.ne_of_lt numbered.positive
        rw [Outline.region_add_other _ _ _ apart]
        exact root)
    rw [heard_prepend] at begun
    simp only [prepend, size] at begun ⊢
    unfold parent at added ⊢
    rw [← finished, ← added]
    exact begun
  | close id outer stop innermost unstarted closes =>
    have ended : Heeds rules (scan.prepend head) (next.prepend head) _ :=
      .close id outer (head.length + stop) innermost (by rw [prepend, started, unstarted]; rfl) (by
        simp only [prepend, Outline.kind_prepend]
        rw [rules.close?_prepend, closes]
        rfl)
    rw [innermost] at numbered
    have inner : Outline.rootId < id := Nat.zero_lt_of_lt numbered.head_lt
    have finished := Outline.finish_prepend lines (numbered.close id stop) (by
      rw [Outline.kind_close]
      exact root)
    rw [← Outline.close_prepend inner] at finished
    simp only [prepend] at ended ⊢
    rw [← finished]
    exact ended

theorem run_prepend (lines : BlankLines head) (reached : Reached rules tokens document scan) :
    (scan.prepend head).run (Dialect.brace rules) =
      (scan.run (Dialect.brace rules)).prepend head := by
  induction scan using run.induct (Dialect.brace rules) with
  | case1 scan atEnd =>
    have stays : (scan.prepend head).cursor.advance? = none := by
      rw [prepend, Cursor.advance?_prepend, atEnd]
      rfl
    rw [run_of_atEnd _ atEnd, run_of_atEnd _ stays]
  | case2 scan next moved ih =>
    have moves : (scan.prepend head).cursor.advance? = some (next.prepend head) := by
      rw [prepend, Cursor.advance?_prepend, moved]
      rfl
    rw [run_of_advance _ moved, run_of_advance _ moves, step_prepend lines reached]
    exact ih (reached.step moved)

/-- A scan `passed` characters into what was put on top, where it has found nothing. -/
def above (head : List Char) (document : Document) (tokens : List Token) (passed : Nat) :
    Scan Bool where
  cursor := Cursor.above head document tokens passed
  outline := Outline.blank (document.prepend head)
  opened := []
  state := false

/-- Where there is no token, a scan passes on. -/
theorem step_above (passed : Nat) : (above head document tokens passed).step
    (Dialect.brace rules) next = { above head document tokens passed with cursor := next } :=
  Heeds.eq_step (.pass rfl fun _ _ absent => nomatch absent)

/-- What was put on top is passed without a trace. -/
theorem run_above (announced : Bool) (document : Document) (tokens : List Token) {passed : Nat}
    (before : passed < head.length) :
    (above head document tokens passed).run (Dialect.brace rules) =
      ((Scan.start (Dialect.brace rules) announced document tokens).prepend head).run
        (Dialect.brace rules) := by
  -- The induction is on the number of characters that are still to be passed.
  induction left : head.length - passed generalizing passed with
  | zero => omega
  | succ left ih =>
    have moved := Cursor.advance?_above document tokens before
    rw [run_of_advance _ moved, step_above]
    by_cases further : passed + 1 < head.length
    · rw [if_pos further]
      exact ih further (by omega)
    · rw [if_neg further]
      congr 1

end Scan

/-- Blank lines on top move the regions of an outline, and change nothing else. -/
theorem Dialect.outline_prepend {head : List Char} (lines : BlankLines head) (rules : BraceRules)
    (announced : Bool) (document : Document) (tokens : List Token) :
    (brace rules).outline announced (document.prepend head)
        (tokens.map (Token.lower head.length)) =
      (((brace rules).outline announced document tokens).1,
        ((brace rules).outline announced document tokens).2.prepend head) := by
  have some : head ≠ [] := by
    rintro rfl
    exact nomatch lines.feeds
  have reached := Scan.run_reached rules announced document tokens
  obtain ⟨merged, numbered⟩ := reached.accounted.numbered
  have starts : Scan.start (brace rules) announced (document.prepend head)
      (tokens.map (Token.lower head.length)) = Scan.above head document tokens 0 := by
    rw [Scan.start, Cursor.ofTokens_prepend document tokens some]
    rfl
  have runs : (Scan.start (brace rules) announced (document.prepend head)
      (tokens.map (Token.lower head.length))).run (brace rules) =
        (Scan.braceRun rules announced document tokens).prepend head := by
    rw [starts, Scan.run_above announced document tokens (List.length_pos_iff.2 some),
      Scan.run_prepend lines (Scan.Reached.start rules announced document tokens)]
    rfl
  unfold Dialect.outline
  rw [runs, Scan.brace_drain, Scan.brace_drain]
  exact congrArg (Prod.mk _) (Outline.finishAll_prepend numbered.stacked reached.recalls.unended)

end CodeFolding
