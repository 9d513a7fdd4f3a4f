import CodeFolding.Proofs.Outline.Delimiters
import CodeFolding.Proofs.Outline.Openings
import CodeFolding.Proofs.Outline.Preorder

set_option autoImplicit false

namespace CodeFolding

namespace BraceRules

/-- The kind of the region that opens at the cursor. -/
def opens? (rules : BraceRules) (cursor : Cursor) : Option Region.Kind :=
  match cursor.token? with
  | none => none
  | some token =>
    match token.kind with
    | .punctuation =>
      match cursor.char? with
      | some '\x7b' => some .block
      | some '[' => some .array
      | _ => none
    | .comment =>
      if (rules.commentStart? (cursor.document.slice token.toSpan)).isSome then some .named
      else none
    | .directive =>
      if (rules.directiveStart? (cursor.document.slice token.toSpan)).isSome then some .named
      else none
    | _ => none

/-- The kind of the regions that close at the cursor, and where they end. -/
def closes? (rules : BraceRules) (cursor : Cursor) : Option (Region.Kind × Nat) :=
  match cursor.token? with
  | none => none
  | some token =>
    match token.kind with
    | .punctuation =>
      match cursor.char? with
      | some '\x7d' => some (.block, cursor.position + 1)
      | some ']' => some (.array, cursor.position + 1)
      | _ => none
    | .comment =>
      if rules.commentEnd (cursor.document.slice token.toSpan) then some (.named, token.stop)
      else none
    | .directive =>
      if rules.directiveEnd (cursor.document.slice token.toSpan) then some (.named, token.stop)
      else none
    | _ => none

/-- Whether a comment is no mark. -/
def isRemark (rules : BraceRules) (text : String) : Bool :=
  (rules.commentStart? text).isNone && !rules.commentEnd text

/-- Whether a comment that is no mark stands at the cursor. -/
def remarks (rules : BraceRules) (cursor : Cursor) : Bool :=
  cursor.token?.any fun token =>
    token.kind == .comment && rules.isRemark (cursor.document.slice token.toSpan)

/-- The marks at the positions of a list, if the next region has the number `id`. A comment that is
no mark takes a number, too. -/
def delimitersFrom (rules : BraceRules) : Nat → List Cursor → List Delimiter
  | _, [] => []
  | id, cursor :: rest =>
    match rules.opens? cursor with
    | some kind => .opener id kind cursor.position :: rules.delimitersFrom (id + 1) rest
    | none =>
      match rules.closes? cursor with
      | some (kind, stop) => .closer kind cursor.position stop :: rules.delimitersFrom id rest
      | none => rules.delimitersFrom (if rules.remarks cursor then id + 1 else id) rest

/-- The opening and closing marks of a text, from left to right. -/
def delimiters (rules : BraceRules) (document : Document) (tokens : List Token) :
    List Delimiter :=
  rules.delimitersFrom 1 (Cursor.ofTokens document tokens).stops

variable {rules : BraceRules} {tokens : List Token} {cursor : Cursor}

/-- A region starts at an opening mark, with the kind of that, or at a comment that is no mark. -/
theorem start?_cases (rules : BraceRules) (sound : cursor.Sound tokens) :
    (∃ draft, rules.start? cursor = some draft ∧ draft.stop? = none ∧
        rules.opens? cursor = some draft.kind) ∨
      (∃ draft, rules.start? cursor = some draft ∧ draft.stop? ≠ none ∧
        rules.opens? cursor = none ∧ rules.closes? cursor = none ∧
        rules.remarks cursor = true) ∨
      rules.start? cursor = none ∧ rules.opens? cursor = none ∧ rules.remarks cursor = false := by
  unfold start? opens? closes? remarks
  cases current : cursor.token? with
  | none => exact Or.inr (Or.inr ⟨rfl, rfl, rfl⟩)
  | some token =>
    have atStart := (sound.current token current).atStart
    obtain ⟨span, kind⟩ := token
    cases kind with
    | punctuation =>
      cases cursor.char? with
      | none => exact Or.inr (Or.inr ⟨rfl, rfl, rfl⟩)
      | some c =>
        by_cases brace : c = '\x7b'
        · subst brace
          exact Or.inl ⟨_, rfl, rfl, rfl⟩
        · by_cases square : c = '['
          · subst square
            exact Or.inl ⟨_, rfl, rfl, rfl⟩
          · simp [brace, square]
    | comment =>
      have here : span.start = cursor.position := atStart rfl
      simp only [here, ↓reduceIte, startComment?, Option.any_some, beq_self_eq_true,
        Bool.true_and, isRemark]
      cases rules.commentStart? (cursor.document.slice span) with
      | some name => exact Or.inl ⟨_, rfl, rfl, rfl⟩
      | none =>
        cases rules.commentEnd (cursor.document.slice span) with
        | true => exact Or.inr (Or.inr ⟨rfl, rfl, rfl⟩)
        | false => exact Or.inr (Or.inl ⟨_, rfl, Option.some_ne_none _, rfl, rfl, rfl⟩)
    | directive =>
      dsimp only
      cases rules.directiveStart? (cursor.document.slice span) with
      | some name => exact Or.inl ⟨_, rfl, rfl, rfl⟩
      | none => exact Or.inr (Or.inr ⟨rfl, rfl, rfl⟩)
    | _ => exact Or.inr (Or.inr ⟨rfl, rfl, rfl⟩)

/-- A region of a kind is closed exactly at the closing marks of that kind. -/
theorem close?_eq_some_iff (kind : Region.Kind) (stop : Nat) :
    rules.close? kind cursor = some stop ↔ rules.closes? cursor = some (kind, stop) := by
  unfold close? closes?
  cases cursor.token? with
  | none => simp only [reduceCtorEq]
  | some token =>
    obtain ⟨span, sort⟩ := token
    cases sort with
    | punctuation =>
      cases cursor.char? with
      | none => cases kind <;> simp
      | some c =>
        by_cases brace : c = '\x7d'
        · subst brace
          cases kind <;> simp
        · by_cases square : c = ']'
          · subst square
            cases kind <;> simp
          · cases kind <;> simp [brace, square]
    | comment =>
      dsimp only
      cases rules.commentEnd (cursor.document.slice span) <;> cases kind <;> simp
    | directive =>
      dsimp only
      cases rules.directiveEnd (cursor.document.slice span) <;> cases kind <;> simp
    | _ => cases kind <;> simp

end BraceRules

namespace Outline

open Delimiter (Around Closes Pending)

variable {outline after : Outline} {parent id other : Nat} {openings : List Draft}
  {opened : List Nat} {marks : List Delimiter}

/-- What holds of the region that a mark opens, with the marks `before` in front of it and `behind`
following it. -/
structure Opens (outline : Outline) (openings : List Draft) (opened : List Nat)
    (before : List Delimiter) (id : Nat) (kind : Region.Kind) (position : Nat)
    (behind : List Delimiter) : Prop where
  known : id < outline.size
  kind_eq : (outline.region id).kind = kind
  notComment : kind ≠ .comment
  opening : ∃ draft, openings[id]? = some draft ∧ draft.start = position
  linked : ∃ outer, (outline.region id).parent? = some outer ∧ Around before outer
  ends : id ∈ opened ∧ (outline.region id).stop? = none ∨
    (∃ outer, outline.Lists outer id) ∧ ∃ last, Closes kind last behind ∧
      (outline.region id).stop? = some (max last position)

section Opens

variable {before behind : List Delimiter} {kind : Region.Kind} {position : Nat}

theorem Opens.append (opens : Opens outline openings opened before id kind position behind)
    (more : List Delimiter) :
    Opens outline openings opened before id kind position (behind ++ more) := by
  refine { opens with ends := ?_ }
  rcases opens.ends with isOpen | ⟨listed, last, closes, ended⟩
  · exact Or.inl isOpen
  · exact Or.inr ⟨listed, last, closes.append more, ended⟩

/-- A region that was opened by a mark stays as it is while others come and go. -/
theorem Opens.transfer {still : List Nat}
    (opens : Opens outline openings opened before id kind position behind)
    (sized : outline.size ≤ after.size)
    (kinds : (after.region id).kind = (outline.region id).kind)
    (links : (after.region id).parent? = (outline.region id).parent?)
    (stops : (after.region id).stop? = (outline.region id).stop?)
    (lists : ∀ outer, outline.Lists outer id → after.Lists outer id)
    (stays : id ∈ opened → id ∈ still) :
    Opens after openings still before id kind position behind := by
  refine ⟨Nat.lt_of_lt_of_le opens.known sized, kinds.trans opens.kind_eq, opens.notComment,
    opens.opening, ?_, ?_⟩
  · rw [links]
    exact opens.linked
  · rw [stops]
    rcases opens.ends with ⟨member, unended⟩ | ⟨⟨outer, listed⟩, ended⟩
    · exact Or.inl ⟨stays member, unended⟩
    · exact Or.inr ⟨⟨outer, lists outer listed⟩, ended⟩

theorem Opens.add {still : List Nat}
    (opens : Opens outline openings opened before id kind position behind) (draft : Draft)
    (parent : Nat) (stays : id ∈ opened → id ∈ still) :
    Opens (outline.add draft parent) openings still before id kind position behind := by
  have old := outline.region_add_other draft parent (Nat.ne_of_lt opens.known)
  refine opens.transfer ?_ (by rw [old]) (by rw [old]) (by rw [old]) ?_ stays
  · rw [size_add]
    omega
  · intro outer lists
    rw [Lists, children_add]
    exact lists

theorem Opens.finish (opens : Opens outline openings opened before id kind position behind)
    (finishes : Finishes outline parent other after) (size : after.size = outline.size) :
    Opens after openings opened before id kind position behind := by
  have notComment : (outline.region id).kind ≠ .comment := by
    rw [opens.kind_eq]
    exact opens.notComment
  exact opens.transfer (Nat.le_of_eq size.symm) (finishes.kind_eq id) (finishes.parent?_eq id)
    (finishes.stop?_of_ne_comment notComment) (fun _ => finishes.lists_of_lists)
    (fun member => member)

end Opens

/-- The brackets and named regions of a half-built outline are those that the marks have opened,
and those in `opened` are not closed yet. -/
structure Delimited (outline : Outline) (openings : List Draft) (opened : List Nat)
    (marks : List Delimiter) : Prop where
  pending : Pending marks opened
  distinct : (marks.filterMap Delimiter.id?).Nodup
  opens : ∀ before id kind position behind,
    marks = before ++ .opener id kind position :: behind →
    Opens outline openings opened before id kind position behind
  covers : ∀ id, rootId < id → id < outline.size → (outline.region id).kind ≠ .comment →
    ∃ kind position, .opener id kind position ∈ marks

namespace Delimited

theorem blank (document : Document) (openings : List Draft) :
    Delimited (Outline.blank document) openings [] [] := by
  refine ⟨.none .nil, List.nodup_nil, ?_, ?_⟩
  · intro before id kind position behind same
    exact absurd same (by simp)
  · intro id inner known
    exact absurd inner (Nat.not_lt.2 (Nat.le_of_lt_succ known))

theorem known_of_mem (delimited : Delimited outline openings opened marks) {kind : Region.Kind}
    {position : Nat} (member : .opener id kind position ∈ marks) : id < outline.size := by
  obtain ⟨before, behind, same⟩ := List.append_of_mem member
  exact (delimited.opens before id kind position behind same).known

theorem start {draft : Draft} (delimited : Delimited outline openings opened marks)
    (role : Region.Role) (opening : openings[outline.size]? = some draft)
    (unended : draft.stop? = none) (notComment : draft.kind ≠ .comment) :
    Delimited (outline.add { draft with role := role } (opened.headD rootId)) openings
      (outline.size :: opened)
      (marks ++ [.opener outline.size draft.kind draft.start]) := by
  have new := outline.region_add_self { draft with role := role } (opened.headD rootId)
  refine ⟨delimited.pending.opener _ _ _, ?_, ?_, ?_⟩
  · rw [List.filterMap_append, List.nodup_append]
    refine ⟨delimited.distinct, List.pairwise_singleton _ _, ?_⟩
    intro id member last same
    obtain ⟨mark, inMarks, number⟩ := List.mem_filterMap.1 member
    cases mark with
    | closer => exact nomatch number
    | opener number' kind position =>
      cases number
      have known := delimited.known_of_mem inMarks
      have size : last = outline.size := by simpa [Delimiter.id?] using same
      omega
  · intro before id kind position behind same
    rcases Delimiter.split_concat same with ⟨rfl, mark, rfl⟩ | ⟨rest, inMarks, rfl⟩
    · cases mark
      refine ⟨?_, ?_, notComment, ⟨draft, opening, rfl⟩, ?_, ?_⟩
      · rw [size_add]
        exact Nat.lt_succ_self _
      · rw [new]
      · rw [new]
        exact ⟨_, rfl, delimited.pending.around⟩
      · rw [new]
        exact Or.inl ⟨List.mem_cons_self, unended⟩
    · exact ((delimited.opens before id kind position rest inMarks).add _ _
        (List.mem_cons_of_mem _)).append _
  · intro id inner known kind
    by_cases last : id = outline.size
    · subst last
      exact ⟨_, _, List.mem_append_right _ List.mem_cons_self⟩
    · rw [size_add] at known
      rw [outline.region_add_other _ _ last] at kind
      obtain ⟨sort, position, member⟩ := delimited.covers id inner (by omega) kind
      exact ⟨sort, position, List.mem_append_left _ member⟩

theorem comment {draft : Draft} (delimited : Delimited outline openings opened marks)
    (comment : draft.kind = .comment) (parent : Nat) :
    Delimited (outline.add draft parent) openings opened marks := by
  refine ⟨delimited.pending, delimited.distinct, ?_, ?_⟩
  · intro before id kind position behind same
    exact (delimited.opens before id kind position behind same).add _ _ fun member => member
  · intro id inner known kind
    have apart : id ≠ outline.size := by
      rintro rfl
      rw [outline.region_add_self draft parent] at kind
      exact kind comment
    rw [size_add] at known
    rw [outline.region_add_other draft parent apart] at kind
    exact delimited.covers id inner (by omega) kind

theorem finish (delimited : Delimited outline openings opened marks)
    (finishes : Finishes outline parent other after) (size : after.size = outline.size) :
    Delimited after openings opened marks := by
  refine ⟨delimited.pending, delimited.distinct, ?_, ?_⟩
  · intro before id kind position behind same
    exact (delimited.opens before id kind position behind same).finish finishes size
  · intro id inner known kind
    rw [size] at known
    rw [finishes.kind_eq] at kind
    exact delimited.covers id inner known kind

/-- A closing mark ends the innermost region that is not closed, which is then finished. -/
theorem close {draft : Draft} {stop : Nat} {outer : List Nat}
    (delimited : Delimited outline openings (id :: outer) marks) (place : Nat)
    (opening : openings[id]? = some draft) (starts : (outline.region id).start = draft.start)
    (finishes : Finishes (outline.close id stop) (outer.headD rootId) id after)
    (size : after.size = outline.size) :
    Delimited after openings outer
      (marks ++ [.closer (outline.region id).kind place stop]) := by
  obtain ⟨front, kind, position, inner, same, closed, pending⟩ :=
    delimited.pending.closer place stop
  have innermost := delimited.opens front id kind position inner same
  have ended := outline.region_close_self stop innermost.known
  have kinds := outline.kind_close id stop
  rw [innermost.kind_eq]
  refine ⟨pending, ?_, ?_, ?_⟩
  · rw [List.filterMap_append]
    exact List.append_nil _ ▸ delimited.distinct
  · intro before number sort position' behind split
    rcases Delimiter.split_concat split with ⟨-, mark, -⟩ | ⟨rest, inMarks, rfl⟩
    · exact nomatch mark
    · have opens := delimited.opens before number sort position' rest inMarks
      by_cases last : number = id
      · subst last
        obtain ⟨rfl, rfl, rfl, rfl⟩ := Delimiter.split_unique delimited.distinct same inMarks
        have notComment : ((outline.close number stop).region number).kind ≠ .comment := by
          rw [kinds, opens.kind_eq]
          exact opens.notComment
        refine ⟨?_, ?_, opens.notComment, opens.opening, ?_, Or.inr
          ⟨⟨_, finishes.lists_self notComment⟩, stop, ⟨inner, place, [], closed, rfl⟩, ?_⟩⟩
        · rw [size]
          exact opens.known
        · rw [finishes.kind_eq, kinds]
          exact opens.kind_eq
        · rw [finishes.parent?_eq, ended]
          exact opens.linked
        · obtain ⟨found, here, begun⟩ := opens.opening
          cases Option.some.inj (opening.symm.trans here)
          rw [finishes.stop?_of_ne_comment notComment, ended, starts, begun]
      · have old := outline.region_close_other stop last
        have kept : Opens (outline.close id stop) openings outer before number sort position'
            rest := by
          refine opens.transfer (Nat.le_of_eq (size_close ..).symm) (by rw [old]) (by rw [old])
            (by rw [old]) ?_ ?_
          · intro around lists
            rw [Lists, outline.children_close]
            exact lists
          · intro member
            exact (List.mem_cons.1 member).resolve_left last
        exact (kept.finish finishes (size.trans (size_close ..).symm)).append _
  · intro number inner known sort
    rw [size] at known
    rw [finishes.kind_eq, kinds] at sort
    obtain ⟨found, position', member⟩ := delimited.covers number inner known sort
    exact ⟨found, position', List.mem_append_left _ member⟩

end Delimited

end Outline

namespace Scan

open Outline (Delimited)

variable {rules : BraceRules} {tokens : List Token} {document : Document}
  {scan after : Scan Bool} {next : Cursor}

def openKinds (scan : Scan Bool) : List Region.Kind :=
  scan.opened.map fun id => (scan.outline.region id).kind

/-- The marks that a scan has come by so far account for its regions, and those ahead are matched
from its open regions on. -/
def Delimits (rules : BraceRules) (tokens : List Token) (document : Document)
    (scan : Scan Bool) : Prop :=
  ∃ marks, Delimiter.matched [] (rules.delimiters document tokens) = marks ++
      Delimiter.matched scan.openKinds
        (rules.delimitersFrom scan.outline.size scan.cursor.stops) ∧
    Delimited scan.outline (rules.openings document tokens) scan.opened marks

theorem Reached.matched_pass (reached : Reached rules tokens document scan)
    (unstarted : rules.start? scan.cursor = none)
    (unclosed : ∀ id outer, scan.opened = id :: outer →
      rules.close? (scan.outline.region id).kind scan.cursor = none) (rest : List Cursor) :
    Delimiter.matched scan.openKinds
        (rules.delimitersFrom scan.outline.size (scan.cursor :: rest)) =
      Delimiter.matched scan.openKinds (rules.delimitersFrom scan.outline.size rest) := by
  rcases rules.start?_cases reached.sound with
    ⟨draft, starts, -⟩ | ⟨draft, starts, -⟩ | ⟨-, opens, remarks⟩
  · exact nomatch unstarted.symm.trans starts
  · exact nomatch unstarted.symm.trans starts
  · rw [BraceRules.delimitersFrom, opens, remarks]
    dsimp only
    cases closes : rules.closes? scan.cursor with
    | none => rfl
    | some mark =>
      obtain ⟨kind, stop⟩ := mark
      dsimp only
      unfold openKinds
      cases opened : scan.opened with
      | nil => rfl
      | cons id outer =>
        -- The mark is of another kind than the innermost region, or it would close it.
        have different : (scan.outline.region id).kind ≠ kind := by
          intro same
          have closing := (rules.close?_eq_some_iff kind stop).2 closes
          rw [← same] at closing
          exact nomatch (unclosed id outer opened).symm.trans closing
        rw [List.map_cons, Delimiter.matched, if_neg different]

/-- A region without an end that starts is an opener. -/
theorem Reached.matched_start (reached : Reached rules tokens document scan)
    {draft : Draft} (role : Region.Role)
    (starts : rules.start? scan.cursor = some draft) (unended : draft.stop? = none)
    (rest : List Cursor) :
    Delimiter.matched scan.openKinds
        (rules.delimitersFrom scan.outline.size (scan.cursor :: rest)) =
      .opener scan.outline.size draft.kind draft.start ::
        Delimiter.matched
          (openKinds ⟨next, scan.outline.add { draft with role := role } scan.parent,
            scan.outline.size :: scan.opened, false⟩)
          (rules.delimitersFrom (scan.outline.size + 1) rest) := by
  have here := (BraceRules.start?_begins reached.sound starts).start_eq
  have kinds : openKinds ⟨next, scan.outline.add { draft with role := role } scan.parent,
      scan.outline.size :: scan.opened, false⟩ = draft.kind :: scan.openKinds := by
    have new := scan.outline.region_add_self { draft with role := role } scan.parent
    simp only [openKinds, List.map_cons, new, List.cons.injEq, true_and]
    apply List.map_congr_left
    intro id member
    rw [scan.outline.region_add_other _ _ (Nat.ne_of_lt (reached.open_lt_size member))]
  rcases rules.start?_cases reached.sound with
    ⟨found, same, -, opens⟩ | ⟨found, same, ended, -⟩ | ⟨none, -⟩
  · cases Option.some.inj (starts.symm.trans same)
    rw [BraceRules.delimitersFrom, opens, kinds, here]
    rfl
  · cases Option.some.inj (starts.symm.trans same)
    exact absurd unended ended
  · exact nomatch starts.symm.trans none

/-- A comment that is no mark takes a number and leaves the marks ahead as they are. -/
theorem Reached.matched_comment (reached : Reached rules tokens document scan)
    (moved : scan.cursor.advance? = some next) {draft : Draft} (role : Region.Role)
    (starts : rules.start? scan.cursor = some draft) (ended : draft.stop? ≠ none)
    (rest : List Cursor) :
    Delimiter.matched scan.openKinds
        (rules.delimitersFrom scan.outline.size (scan.cursor :: rest)) =
      Delimiter.matched
        (openKinds ⟨next, (scan.outline.add { draft with role := role }
          scan.parent).finish scan.outline.size, scan.opened, false⟩)
        (rules.delimitersFrom (scan.outline.size + 1) rest) := by
  have finishes := reached.finishes_comment moved starts role
  have kinds : openKinds ⟨next, (scan.outline.add { draft with role := role }
      scan.parent).finish scan.outline.size, scan.opened, false⟩ = scan.openKinds := by
    apply List.map_congr_left
    intro id member
    rw [finishes.kind_eq,
      scan.outline.region_add_other _ _ (Nat.ne_of_lt (reached.open_lt_size member))]
  rcases rules.start?_cases reached.sound with
    ⟨found, same, unended, -⟩ | ⟨found, same, -, opens, closes, remarks⟩ | ⟨none, -⟩
  · cases Option.some.inj (starts.symm.trans same)
    exact absurd unended ended
  · rw [BraceRules.delimitersFrom, opens, closes, remarks, kinds]
    rfl
  · exact nomatch starts.symm.trans none

theorem Reached.matched_close (reached : Reached rules tokens document scan) {id stop : Nat}
    {outer : List Nat} (innermost : scan.opened = id :: outer)
    (unstarted : rules.start? scan.cursor = none)
    (closes : rules.close? (scan.outline.region id).kind scan.cursor = some stop)
    (rest : List Cursor) :
    Delimiter.matched scan.openKinds
        (rules.delimitersFrom scan.outline.size (scan.cursor :: rest)) =
      .closer (scan.outline.region id).kind scan.cursor.position stop ::
        Delimiter.matched
          (openKinds ⟨next, (scan.outline.close id stop).finish id, outer, false⟩)
          (rules.delimitersFrom scan.outline.size rest) := by
  have finishes := reached.finishes_close innermost stop
  have closing := (rules.close?_eq_some_iff _ stop).1 closes
  have kinds : scan.openKinds = (scan.outline.region id).kind ::
      openKinds ⟨next, (scan.outline.close id stop).finish id, outer, false⟩ := by
    simp only [openKinds, innermost, List.map_cons, List.cons.injEq, true_and]
    apply List.map_congr_left
    intro other member
    rw [finishes.kind_eq, scan.outline.kind_close]
  rcases rules.start?_cases reached.sound with
    ⟨found, same, -⟩ | ⟨found, same, -⟩ | ⟨-, opens, -⟩
  · exact nomatch unstarted.symm.trans same
  · exact nomatch unstarted.symm.trans same
  · rw [BraceRules.delimitersFrom, opens, closing, kinds]
    simp only [Delimiter.matched, ↓reduceIte]

theorem Act.delimits (act : Act rules scan next after)
    (reached : Reached rules tokens document scan) (moved : scan.cursor.advance? = some next)
    (delimits : Delimits rules tokens document scan) : Delimits rules tokens document after := by
  obtain ⟨marks, all, delimited⟩ := delimits
  rw [Cursor.stops_of_advance moved] at all
  cases act with
  | pass announced unstarted unclosed =>
    rw [reached.matched_pass unstarted unclosed] at all
    exact ⟨marks, all, delimited⟩
  | start draft role starts unended =>
    obtain ⟨opening, -⟩ := reached.ahead_of_starts moved starts
    have notComment : draft.kind ≠ .comment := by
      rw [Ne, BraceRules.start?_comment_iff reached.sound starts, Decidable.not_not]
      exact unended
    refine ⟨_, ?_, delimited.start role opening unended notComment⟩
    rw [all, reached.matched_start role starts unended, Outline.size_add,
      List.append_assoc, List.singleton_append]
  | comment draft role starts ended =>
    have finishes := reached.finishes_comment moved starts role
    have comment : { draft with role := role : Draft }.kind = .comment :=
      (BraceRules.start?_comment_iff reached.sound starts).2 ended
    refine ⟨marks, ?_,
      (delimited.comment comment scan.parent).finish finishes (Outline.size_finish ..)⟩
    rw [all, reached.matched_comment moved role starts ended, Outline.size_finish,
      Outline.size_add]
  | close id outer stop innermost unstarted closes =>
    have recalls := reached.recalls
    have finishes := reached.finishes_close innermost stop
    have isOpen : id ∈ scan.opened := innermost ▸ List.mem_cons_self
    have used := reached.open_lt_size isOpen
    obtain ⟨draft, opening⟩ := recalls.exists_opening used
    have starts := recalls.unmoved id draft used opening (Or.inr isOpen)
    rw [innermost] at delimited
    refine ⟨_, ?_, delimited.close scan.cursor.position opening starts finishes
      ((Outline.size_finish ..).trans (Outline.size_close ..))⟩
    rw [all, reached.matched_close innermost unstarted closes, Outline.size_finish,
      Outline.size_close, List.append_assoc, List.singleton_append]

end Scan

namespace BraceRules

variable {rules : BraceRules} {tokens : List Token} {document : Document}

theorem position_sublist (rules : BraceRules) (id : Nat) (cursors : List Cursor) :
    ((rules.delimitersFrom id cursors).map Delimiter.position).Sublist
      (cursors.map Cursor.position) := by
  induction cursors generalizing id with
  | nil => exact List.Sublist.slnil
  | cons cursor rest ih =>
    unfold delimitersFrom
    rw [List.map_cons]
    split
    · exact (ih _).cons_cons _
    · split
      · exact (ih _).cons_cons _
      · exact (ih _).cons _

theorem closes?_of_mem (rules : BraceRules) {id place stop : Nat} {kind : Region.Kind}
    {cursors : List Cursor} (member : .closer kind place stop ∈ rules.delimitersFrom id cursors) :
    ∃ cursor ∈ cursors, cursor.position = place ∧ rules.closes? cursor = some (kind, stop) := by
  induction cursors generalizing id with
  | nil => exact absurd member List.not_mem_nil
  | cons cursor rest ih =>
    have later : ∀ next, .closer kind place stop ∈ rules.delimitersFrom next rest →
        ∃ other ∈ cursor :: rest, other.position = place ∧
          rules.closes? other = some (kind, stop) := by
      intro next inRest
      obtain ⟨other, found, facts⟩ := ih inRest
      exact ⟨other, List.mem_cons_of_mem cursor found, facts⟩
    unfold delimitersFrom at member
    split at member
    · rcases List.mem_cons.1 member with first | inRest
      · exact nomatch first
      · exact later _ inRest
    · split at member
      · rename_i sort last closes
        rcases List.mem_cons.1 member with first | inRest
        · cases first
          exact ⟨cursor, List.mem_cons_self, rfl, closes⟩
        · exact later _ inRest
      · exact later _ member

/-- A region ends behind the position at which it is closed, if the bounds of tokens are in
order. -/
theorem lt_stop_of_closes? {cursor : Cursor} (sound : cursor.Sound tokens)
    (ordered : Token.Ordered tokens) {kind : Region.Kind} {stop : Nat}
    (closes : rules.closes? cursor = some (kind, stop)) : cursor.position < stop := by
  have ends := close?_ends ((rules.close?_eq_some_iff kind stop).2 closes)
  cases ends with
  | bracket token _ _ _ _ behind => omega
  | named token current _ _ behind =>
    have facts := sound.current token current
    rw [behind]
    exact facts.lt_stop (ordered token facts.member)

/-- What closes a region ends behind what opened it, if the bounds of tokens are in order. -/
theorem position_lt_of_closes (ordered : Token.Ordered tokens) {before behind : List Delimiter}
    {id position last : Nat} {kind : Region.Kind}
    (split : Delimiter.matched [] (rules.delimiters document tokens) =
      before ++ .opener id kind position :: behind)
    (closes : Delimiter.Closes kind last behind) : position < last := by
  obtain ⟨inner, place, rest, -, rfl⟩ := closes
  have kept := Delimiter.matched_sublist [] (rules.delimiters document tokens)
  have increasing : ((Delimiter.matched [] (rules.delimiters document tokens)).map
      Delimiter.position).Pairwise (· < ·) :=
    (((Cursor.ofTokens_sound document tokens).stops_increasing ordered).sublist
      (rules.position_sublist 1 _)).sublist (kept.map _)
  have member : .closer kind place last ∈ rules.delimiters document tokens := by
    refine kept.mem ?_
    rw [split]
    exact List.mem_append_right _ (List.mem_cons_of_mem _
      (List.mem_append_right _ List.mem_cons_self))
  obtain ⟨cursor, stop, here, found⟩ := rules.closes?_of_mem member
  have sound := ((Cursor.ofTokens_sound document tokens).of_mem_stops cursor stop).1
  have ends := lt_stop_of_closes? sound ordered found
  rw [split, List.map_append, List.map_cons] at increasing
  have first := (List.pairwise_cons.1 (List.pairwise_append.1 increasing).2.1).1 place
  have behindIt := first (List.mem_map.2
    ⟨.closer kind place last, List.mem_append_right _ List.mem_cons_self, rfl⟩)
  change position < place at behindIt
  omega

end BraceRules

namespace Outline

/-- What an outline holds of the region that a mark opens, with the marks `before` in front of it
and `behind` following it. -/
structure OpenedBy (outline : Outline) (before : List Delimiter) (id : Nat) (kind : Region.Kind)
    (position : Nat) (behind : List Delimiter) : Prop where
  kind_eq : (outline.region id).kind = kind
  start_le : (outline.region id).start ≤ position
  start_eq : kind = .named → (outline.region id).start = position
  parent_iff : ∀ outer, (outline.region id).parent? = some outer ↔ Delimiter.Around before outer
  stop_iff : ∀ stop, (outline.region id).stop? = some stop ↔
    ∃ last, Delimiter.Closes kind last behind ∧ stop = max last position

/-- The brackets and named regions of an outline are the openers of a sequence of marks, and lie
inside one another and end as these do. -/
structure MatchesMarks (outline : Outline) (marks : List Delimiter) : Prop where
  wellNested : Delimiter.WellNested marks
  mem_iff : ∀ id, id ∈ outline.descendants ∧
      ((outline.region id).kind.IsBracket ∨ (outline.region id).kind = .named) ↔
    ∃ kind position, .opener id kind position ∈ marks
  openedBy : ∀ before id kind position behind,
    marks = before ++ .opener id kind position :: behind →
    outline.OpenedBy before id kind position behind

/-- Every region but the root is a bracket, named or a comment. -/
theorem Recalls.kind_ne_comment_iff {outline : Outline} {openings : List Draft}
    {opened : List Nat} (recalls : Recalls outline openings opened) {id : Nat}
    (inner : rootId < id) (known : id < outline.size) :
    (outline.region id).kind ≠ .comment ↔
      (outline.region id).kind.IsBracket ∨ (outline.region id).kind = .named := by
  constructor
  · intro kind
    rcases recalls.kinds id inner known with bracket | named | comment
    · exact Or.inl bracket
    · exact Or.inr named
    · exact absurd comment kind
  · rintro ((block | array) | named)
    · rw [block]; decide
    · rw [array]; decide
    · rw [named]; decide

end Outline

namespace Scan

open Outline (Delimited Opens OpenedBy)

variable {rules : BraceRules} {tokens : List Token} {document : Document}
  {scan : Scan Bool} {marks : List Delimiter}

/-- Behind the end of a scan the marks tell the parent and the end of each region, since they tell
at most one of either. -/
theorem Reached.openedBy (reached : Reached rules tokens document scan)
    (delimited : Delimited scan.outline (rules.openings document tokens) scan.opened marks)
    {before behind : List Delimiter} {id position : Nat} {kind : Region.Kind}
    (split : marks = before ++ .opener id kind position :: behind) :
    (scan.outline.finishAll scan.opened).OpenedBy before id kind position behind := by
  have opens := delimited.opens before id kind position behind split
  obtain ⟨draft, opening, here⟩ := opens.opening
  refine ⟨?_, ?_, ?_, ?_, ?_⟩
  · rw [reached.region_finishAll]
    exact opens.kind_eq
  · rw [reached.region_finishAll, ← here]
    exact reached.recalls.start_le id draft opens.known opening
  · intro named
    rw [reached.region_finishAll, ← here]
    refine reached.recalls.unmoved id draft opens.known opening (Or.inl ?_)
    rw [opens.kind_eq, named]
    exact Region.Kind.not_isBracket_named
  · intro outer
    rw [reached.region_finishAll]
    obtain ⟨found, linked, around⟩ := opens.linked
    constructor
    · intro same
      cases Option.some.inj (linked.symm.trans same)
      exact around
    · intro other
      rw [other.unique around]
      exact linked
  · intro stop
    rw [reached.region_finishAll]
    rcases opens.ends with ⟨member, unended⟩ | ⟨-, last, closes, ended⟩
    · dsimp only
      rw [unended]
      constructor
      · intro absent
        exact nomatch absent
      · rintro ⟨last, closes, -⟩
        obtain ⟨front, sort, place, rest, same, grounded⟩ :=
          delimited.pending.grounded_of_mem member
        obtain ⟨-, -, -, rfl⟩ := Delimiter.split_unique delimited.distinct split same
        exact absurd grounded closes.not_grounded
    · dsimp only
      rw [ended]
      constructor
      · intro same
        exact ⟨last, closes, (Option.some.inj same).symm⟩
      · rintro ⟨other, found, rfl⟩
        rw [found.unique closes]

/-- The opening marks have the numbers of the brackets and named regions. -/
theorem Reached.exists_opener_iff (reached : Reached rules tokens document scan)
    (delimited : Delimited scan.outline (rules.openings document tokens) scan.opened marks)
    (id : Nat) :
    (∃ kind position, .opener id kind position ∈ marks) ↔
      (∃ outer, (scan.outline.finishAll scan.opened).Lists outer id) ∧
        (scan.outline.region id).kind ≠ .comment := by
  constructor
  · rintro ⟨kind, position, member⟩
    obtain ⟨before, behind, split⟩ := List.append_of_mem member
    have opens := delimited.opens before id kind position behind split
    refine ⟨?_, ?_⟩
    · obtain ⟨parent, linked, -⟩ := opens.linked
      rcases opens.ends with ⟨isOpen, -⟩ | ⟨⟨outer, lists⟩, -⟩
      · exact ⟨parent, reached.lists_finishAll.2 (Or.inr ⟨isOpen, linked⟩)⟩
      · exact ⟨outer, reached.lists_finishAll.2 (Or.inl lists)⟩
    · rw [opens.kind_eq]
      exact opens.notComment
  · rintro ⟨⟨outer, lists⟩, kind⟩
    obtain ⟨inner, known⟩ := reached.known_of_lists lists
    exact delimited.covers id inner known kind

theorem run_delimited (rules : BraceRules) (announced : Bool) (document : Document)
    (tokens : List Token) :
    Reached rules tokens document (braceRun rules announced document tokens) ∧
      Delimited (braceRun rules announced document tokens).outline
        (rules.openings document tokens) (braceRun rules announced document tokens).opened
        (Delimiter.matched [] (rules.delimiters document tokens)) := by
  have run := braceRun_reached rules announced document tokens (Delimits rules tokens document)
    ⟨[], rfl, Delimited.blank document _⟩
    fun scan next after reached moved act _ delimits => act.delimits reached moved delimits
  obtain ⟨reached, marks, all, delimited⟩ := run
  rw [braceRun_stops, BraceRules.delimitersFrom, Delimiter.matched,
    List.append_nil] at all
  rw [all]
  exact ⟨reached, delimited⟩

end Scan

/-- For every text and all tokens, the marks that are left when the closing marks that fit no
region are deleted are nested well up to openers that nothing closes, and the brackets and named
regions of the outline are their openers: each lies in the innermost one around it, and ends where
it is closed. Closing marks end behind what they close if the bounds of tokens are in order. If the
marks of a text are nested well from the start, none is deleted, and if they are balanced, every
region has an end. -/
theorem Dialect.outline_matchesMarks (rules : BraceRules) (announced : Bool)
    (document : Document) (tokens : List Token) :
    ((brace rules).outline announced document tokens).2.MatchesMarks
      (Delimiter.matched [] (rules.delimiters document tokens)) ∧
    (Token.Ordered tokens → ∀ before id kind position behind last,
      Delimiter.matched [] (rules.delimiters document tokens) =
        before ++ .opener id kind position :: behind →
      Delimiter.Closes kind last behind → position < last) ∧
    (Delimiter.WellNested (rules.delimiters document tokens) →
      Delimiter.matched [] (rules.delimiters document tokens) =
        rules.delimiters document tokens) ∧
    (Delimiter.Balanced (rules.delimiters document tokens) →
      ∀ id ∈ ((brace rules).outline announced document tokens).2.descendants,
        (((brace rules).outline announced document tokens).2.region id).stop? ≠ none) := by
  have tree := ((brace rules).outline_numbered announced document tokens).treeShaped
  obtain ⟨reached, delimited⟩ := Scan.run_delimited rules announced document tokens
  rw [outline_brace] at tree ⊢
  generalize Scan.braceRun rules announced document tokens = scan at reached delimited tree ⊢
  have kept := reached.draft_finishAll
  have known : ∀ id, id ∈ (scan.outline.finishAll scan.opened).descendants →
      Outline.rootId < id ∧ id < scan.outline.size := by
    intro id member
    obtain ⟨outer, lists⟩ := (tree.mem_descendants id).1 member
    exact reached.known_of_lists lists
  refine ⟨⟨?_, ?_, ?_⟩, ?_, ?_, ?_⟩
  · have nested := delimited.pending.wellNested (.balanced .nil)
    rwa [List.append_nil] at nested
  · intro id
    rw [reached.exists_opener_iff delimited, ← tree.mem_descendants, kept]
    constructor
    · rintro ⟨member, kind⟩
      exact ⟨member, (reached.recalls.kind_ne_comment_iff (known id member).1
        (known id member).2).2 kind⟩
    · rintro ⟨member, kind⟩
      exact ⟨member, (reached.recalls.kind_ne_comment_iff (known id member).1
        (known id member).2).1 kind⟩
  · intro before id kind position behind split
    exact reached.openedBy delimited split
  · intro ordered before id kind position behind last split closes
    exact BraceRules.position_lt_of_closes ordered split closes
  · intro nested
    exact nested.matched_eq []
  · intro balanced id member
    rw [kept]
    have whole := (Delimiter.WellNested.balanced balanced).matched_eq []
    rw [whole] at delimited
    have closed := delimited.pending.eq_nil_of_balanced balanced
    by_cases comment : (scan.outline.region id).kind = .comment
    · exact (reached.recalls.comments id comment).1
    · obtain ⟨kind, position, mark⟩ :=
        delimited.covers id (known id member).1 (known id member).2 comment
      obtain ⟨before, behind, split⟩ := List.append_of_mem mark
      rcases (delimited.opens before id kind position behind split).ends with
        ⟨isOpen, -⟩ | ⟨-, last, -, ended⟩
      · rw [closed] at isOpen
        exact absurd isOpen List.not_mem_nil
      · rw [ended]
        exact Option.some_ne_none _

/-- Comments open named regions and directives close them. -/
def openComments : BraceRules :=
  { BraceRules.unmarked with commentStart? := some, directiveEnd := fun _ => true }

/-- A comment behind a character, and a directive that ends in front of both. -/
def turnedTokens : List Token :=
  [⟨⟨1, 2⟩, .comment⟩, ⟨⟨2, 0⟩, .directive⟩]

theorem delimiters_turnedTokens :
    openComments.delimiters (Document.ofString "xab") turnedTokens =
      [.opener 1 .named 1, .closer .named 2 0] := by
  rw [BraceRules.delimiters, Cursor.ofTokens_of_sorted _ (by decide)]
  decide +kernel

theorem outline_turnedTokens :
    ((Dialect.brace openComments).outline false (Document.ofString "xab") turnedTokens).2.regions =
      #[{ Region.root with children := #[1] },
        { start := 1, stop? := some 1, kind := .named, name? := some "a", parent? := some 0 }] := by
  rw [Dialect.outline_of_sorted _ _ _ (by decide)]
  decide +kernel

/-- A region does not end where it is closed if that lies in front of its opening mark. -/
theorem Dialect.outline_stop_turnedTokens :
    ¬ ∀ (rules : BraceRules) (announced : Bool) (document : Document) (tokens : List Token)
      (before behind : List Delimiter) (id position last : Nat),
      Delimiter.matched [] (rules.delimiters document tokens) =
        before ++ .opener id .named position :: behind →
      Delimiter.Closes .named last behind →
      (((brace rules).outline announced document tokens).2.region id).stop? = some last := by
  intro ends
  have marks : Delimiter.matched [] (openComments.delimiters (Document.ofString "xab")
      turnedTokens) = [] ++ .opener 1 .named 1 :: [.closer .named 2 0] := by
    rw [delimiters_turnedTokens]
    rfl
  have ended := ends openComments false (Document.ofString "xab") turnedTokens [] _ 1 1 0 marks
    ⟨[], 2, [], .nil, rfl⟩
  rw [Outline.region, outline_turnedTokens] at ended
  exact absurd ended (by decide)

end CodeFolding
