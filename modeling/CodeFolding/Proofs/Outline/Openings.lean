import CodeFolding.Proofs.Outline.Descent
import CodeFolding.Proofs.Outline.Drained

/-!
How the regions of an outline begin. Regions are numbered in the order in which they begin, so the
draft with the number of a region in the list of all openings is what the region was at its start.
From then on it keeps its kind; only the start of a bracket goes back, once, when the region is
finished.
-/

set_option autoImplicit false

namespace CodeFolding

namespace Region.Kind

def opener? : Region.Kind → Option Char
  | .block => some '\x7b'
  | .array => some '['
  | _ => none

def closer? : Region.Kind → Option Char
  | .block => some '\x7d'
  | .array => some ']'
  | _ => none

theorem not_isBracket_named : ¬ Region.Kind.named.IsBracket := by decide

theorem not_isBracket_comment : ¬ Region.Kind.comment.IsBracket := by decide

end Region.Kind

namespace BraceRules

/-- The regions that begin on the way of a cursor to the end of the text. -/
def openingsFrom (rules : BraceRules) (cursor : Cursor) : List Draft :=
  cursor.stops.filterMap rules.start?

/-- The regions of a text as they begin, each at its number. The root comes first. -/
def openings (rules : BraceRules) (document : Document) (tokens : List Token) : List Draft :=
  Region.root.toDraft :: rules.openingsFrom (Cursor.ofTokens document tokens)

theorem openingsFrom_of_advance (rules : BraceRules) {cursor next : Cursor}
    (moved : cursor.advance? = some next) :
    rules.openingsFrom cursor = (rules.start? cursor).toList ++ rules.openingsFrom next := by
  unfold openingsFrom
  rw [Cursor.stops_of_advance moved, List.filterMap_cons]
  cases rules.start? cursor with
  | none => rfl
  | some draft => rfl

/-- A draft of a language with braces has an end exactly if it is a comment. -/
theorem start?_kind {rules : BraceRules} {tokens : List Token} {cursor : Cursor} {draft : Draft}
    (sound : cursor.Sound tokens) (starts : rules.start? cursor = some draft) :
    (draft.stop? = none ∧ (draft.kind.IsBracket ∨ draft.kind = .named)) ∨
      (draft.stop? ≠ none ∧ draft.kind = .comment) := by
  have begins := start?_begins sound starts
  cases begins with
  | bracket _ unended kind => exact Or.inl ⟨unended, Or.inl kind⟩
  | named _ unended kind => exact Or.inl ⟨unended, Or.inr kind⟩
  | comment token _ _ _ ended kind =>
    have complete : draft.stop? ≠ none := by
      rw [ended]
      exact Option.some_ne_none _
    exact Or.inr ⟨complete, kind⟩

/-- The comments are what begins with an end. -/
theorem start?_comment_iff {rules : BraceRules} {tokens : List Token} {cursor : Cursor}
    {draft : Draft} (sound : cursor.Sound tokens) (starts : rules.start? cursor = some draft) :
    draft.kind = .comment ↔ draft.stop? ≠ none := by
  rcases start?_kind sound starts with ⟨unended, (block | array) | named⟩ | ⟨ended, comment⟩
  · simp [block, unended]
  · simp [array, unended]
  · simp [named, unended]
  · simp [comment, ended]

theorem start?_opener {rules : BraceRules} {cursor : Cursor} {draft : Draft}
    (starts : rules.start? cursor = some draft) (bracket : draft.kind.IsBracket) :
    cursor.char? = draft.kind.opener? := by
  unfold start? at starts
  split at starts
  · exact nomatch starts
  · split at starts
    · split at starts
      · cases starts
        assumption
      · cases starts
        assumption
      · exact nomatch starts
    · split at starts
      · unfold startComment? at starts
        split at starts
        · cases starts
          exact absurd bracket Region.Kind.not_isBracket_named
        · split at starts
          · exact nomatch starts
          · cases starts
            exact absurd bracket Region.Kind.not_isBracket_comment
      · exact nomatch starts
    · obtain ⟨name, -, rfl⟩ := Option.map_eq_some_iff.1 starts
      exact absurd bracket Region.Kind.not_isBracket_named
    · exact nomatch starts

/-- What is no bracket begins with a comment or a directive. -/
theorem start?_token {rules : BraceRules} {cursor : Cursor} {draft : Draft}
    (starts : rules.start? cursor = some draft) (other : ¬ draft.kind.IsBracket) :
    ∃ token, cursor.token? = some token ∧
      (token.kind = .comment ∨ token.kind = .directive) ∧ token.start = draft.start := by
  unfold start? at starts
  split at starts
  · exact nomatch starts
  · rename_i token current
    split at starts
    · split at starts
      · cases starts
        exact absurd (Or.inl rfl) other
      · cases starts
        exact absurd (Or.inr rfl) other
      · exact nomatch starts
    · rename_i comment
      split at starts
      · refine ⟨token, current, Or.inl comment, ?_⟩
        unfold startComment? at starts
        split at starts
        · cases starts
          rfl
        · split at starts
          · exact nomatch starts
          · cases starts
            rfl
      · exact nomatch starts
    · rename_i directive
      obtain ⟨name, -, rfl⟩ := Option.map_eq_some_iff.1 starts
      exact ⟨token, current, Or.inr directive, rfl⟩
    · exact nomatch starts

theorem close?_closer {rules : BraceRules} {cursor : Cursor} {kind : Region.Kind} {stop : Nat}
    (closes : rules.close? kind cursor = some stop) (bracket : kind.IsBracket) :
    cursor.char? = kind.closer? ∧ stop = cursor.position + 1 := by
  unfold close? at closes
  split at closes
  · exact nomatch closes
  · split at closes
    · split at closes
      · cases closes
        exact ⟨by assumption, rfl⟩
      · exact nomatch closes
    · split at closes
      · cases closes
        exact ⟨by assumption, rfl⟩
      · exact nomatch closes
    · exact absurd bracket Region.Kind.not_isBracket_named
    · exact absurd bracket Region.Kind.not_isBracket_named
    · exact nomatch closes

/-- The opening of every region but the root is met at one of the stops of the cursor. -/
theorem exists_stop_of_opening {rules : BraceRules} {document : Document} {tokens : List Token}
    {id : Nat} {draft : Draft} (opening : (rules.openings document tokens)[id]? = some draft)
    (inner : Outline.rootId < id) :
    ∃ stop ∈ (Cursor.ofTokens document tokens).stops, rules.start? stop = some draft ∧
      stop.Sound tokens ∧ stop.document = document := by
  cases id with
  | zero => exact absurd inner (Nat.lt_irrefl _)
  | succ id =>
    rw [openings, List.getElem?_cons_succ] at opening
    obtain ⟨stop, member, starts⟩ := List.mem_filterMap.1 (List.mem_of_getElem? opening)
    obtain ⟨sound, same⟩ := (Cursor.ofTokens_sound document tokens).of_mem_stops stop member
    exact ⟨stop, member, starts, sound, same.trans (Cursor.ofTokens_document document tokens)⟩

end BraceRules

namespace Outline

variable {outline : Outline} {opened merged : List Nat} {id : Nat}

/-- What an outline becomes when `id` is finished inside `parent`: the region is listed there, or
it is merged into the comment that was listed last. -/
inductive Finishes (outline : Outline) (parent id : Nat) (after : Outline) : Prop
  | listed
      (apart : ∀ last, (outline.region parent).children.back? = some last →
        outline.commentsAdjoin last id = false)
      (regions : ∀ other, after.region other = { outline.region other with
        start := if other = id then
            outline.settledStart id parent (outline.region parent).children.back?
          else (outline.region other).start
        children := if other = parent then (outline.region other).children.push id
          else (outline.region other).children })
  | merged (last : Nat) (isLast : (outline.region parent).children.back? = some last)
      (adjoin : outline.commentsAdjoin last id = true)
      (regions : ∀ other, after.region other = { outline.region other with
        stop? := if other = last then (outline.region id).stop?
          else (outline.region other).stop? })

theorem kinds_of_commentsAdjoin {first second : Nat}
    (adjoin : outline.commentsAdjoin first second = true) :
    (outline.region first).kind = .comment ∧ (outline.region second).kind = .comment := by
  simp only [commentsAdjoin, Bool.and_eq_true, beq_iff_eq] at adjoin
  exact adjoin.1.1

theorem region_settle {parent : Nat} (known : id < outline.size)
    (knownParent : parent < outline.size) (apart : id ≠ parent) (previous? : Option Nat)
    (other : Nat) :
    (outline.settle id parent previous?).region other = { outline.region other with
      start := if other = id then outline.settledStart id parent previous?
        else (outline.region other).start
      children := if other = parent then (outline.region other).children.push id
        else (outline.region other).children } := by
  by_cases same : other = id
  · subst same
    rw [outline.region_settle_self previous? known apart, if_pos rfl, if_neg apart]
  · by_cases around : other = parent
    · subst around
      rw [outline.region_settle_parent previous? knownParent apart, if_neg same, if_pos rfl]
    · have draft := outline.draft_settle_other id parent previous? same
      have link := outline.parent?_settle id parent previous? other
      have children := outline.children_settle_other id parent previous? around
      rw [if_neg same, if_neg around]
      generalize (outline.settle id parent previous?).region other = after at draft link children
      cases after with
      | mk toDraft parent? list =>
        simp only at draft link children
        rw [draft, link, children]

/-- Finishing the innermost open region, or a comment that has just been added. -/
theorem finish_finishes (numbered : Numbered outline (id :: opened) merged)
    (childless : (outline.region id).kind = .comment → (outline.region id).children = #[]) :
    Finishes outline (opened.headD rootId) id (outline.finish id) := by
  obtain ⟨later, known, linked⟩ := numbered.inside_facts numbered.inside_head
  have knownParent : opened.headD rootId < outline.size := Nat.lt_trans later known
  have apart : id ≠ opened.headD rootId := Nat.ne_of_gt later
  unfold finish
  rw [linked]
  dsimp only
  cases isLast : (outline.region (opened.headD rootId)).children.back? with
  | none =>
    refine .listed ?_ ?_
    · intro last absent
      exact nomatch isLast.symm.trans absent
    · rw [isLast]
      exact outline.region_settle known knownParent apart none
  | some last =>
    dsimp only
    split
    · rename_i adjoin
      refine .merged last isLast adjoin ?_
      have lists : outline.Lists (opened.headD rootId) last := Array.mem_of_back? isLast
      have lastKnown := (numbered.listed _ last lists).2.1
      have different : last ≠ id := by
        rintro rfl
        exact numbered.unlisted last List.mem_cons_self _ lists
      exact outline.region_absorb (childless (kinds_of_commentsAdjoin adjoin).2) lastKnown different
    · rename_i distinct
      refine .listed ?_ ?_
      · intro other same
        cases Option.some.inj (isLast.symm.trans same)
        exact Bool.eq_false_iff.2 distinct
      · rw [isLast]
        exact outline.region_settle known knownParent apart (some last)

theorem settledStart_eq_start (outline : Outline) {id : Nat}
    (kind : (outline.region id).kind = .named ∨ (outline.region id).kind = .comment)
    (parent : Nat) (previous? : Option Nat) :
    outline.settledStart id parent previous? = (outline.region id).start := by
  rcases outline.settledStart_cases id parent previous? with
    stays | ⟨_, _, _, _, notNamed, notComment⟩
  · exact stays
  · rcases kind with named | comment
    · exact absurd named notNamed
    · exact absurd comment notComment

namespace Finishes

variable {parent : Nat} {after : Outline}

theorem kind_eq (finishes : Finishes outline parent id after) (other : Nat) :
    (after.region other).kind = (outline.region other).kind := by
  cases finishes with
  | listed _ regions => rw [regions]
  | merged _ _ _ regions => rw [regions]

theorem role_eq (finishes : Finishes outline parent id after) (other : Nat) :
    (after.region other).role = (outline.region other).role := by
  cases finishes with
  | listed _ regions => rw [regions]
  | merged _ _ _ regions => rw [regions]

theorem parent?_eq (finishes : Finishes outline parent id after) (other : Nat) :
    (after.region other).parent? = (outline.region other).parent? := by
  cases finishes with
  | listed _ regions => rw [regions]
  | merged _ _ _ regions => rw [regions]

theorem lists_of_lists (finishes : Finishes outline parent id after) {outer inner : Nat}
    (lists : outline.Lists outer inner) : after.Lists outer inner := by
  unfold Lists at lists ⊢
  cases finishes with
  | listed _ regions =>
    rw [regions]
    dsimp only
    split
    · exact Array.mem_push.2 (Or.inl lists)
    · exact lists
  | merged _ _ _ regions =>
    rw [regions]
    exact lists

/-- An entry of a list was there before, or it is the finished region at the end of the list. -/
theorem entry_cases (finishes : Finishes outline parent id after) {outer index other : Nat}
    (here : (after.region outer).children[index]? = some other) :
    (outline.region outer).children[index]? = some other ∨
      outer = parent ∧ other = id ∧ index = (outline.region parent).children.size := by
  cases finishes with
  | listed _ regions =>
    rw [regions] at here
    dsimp only at here
    split at here
    · rename_i around
      subst around
      rw [Array.getElem?_push] at here
      split at here
      · rename_i last
        exact Or.inr ⟨rfl, (Option.some.inj here).symm, last⟩
      · exact Or.inl here
    · exact Or.inl here
  | merged _ _ _ regions =>
    rw [regions] at here
    exact Or.inl here

theorem lists_self (finishes : Finishes outline parent id after)
    (kind : (outline.region id).kind ≠ .comment) : after.Lists parent id := by
  unfold Lists
  cases finishes with
  | listed _ regions =>
    rw [regions]
    dsimp only
    rw [if_pos rfl]
    exact Array.mem_push_self
  | merged _ _ adjoin regions => exact absurd (kinds_of_commentsAdjoin adjoin).2 kind

/-- Finishing a region changes no ends but those of comments. -/
theorem stop?_of_ne_comment {other : Nat} (finishes : Finishes outline parent id after)
    (kind : (outline.region other).kind ≠ .comment) :
    (after.region other).stop? = (outline.region other).stop? := by
  cases finishes with
  | listed _ regions => rw [regions]
  | merged last isLast adjoin regions =>
    have apart : other ≠ last := by
      rintro rfl
      exact kind (kinds_of_commentsAdjoin adjoin).1
    rw [regions]
    exact if_neg apart

theorem start_le (finishes : Finishes outline parent id after) {other : Nat} :
    (after.region other).start ≤ (outline.region other).start := by
  cases finishes with
  | listed _ regions =>
    rw [regions]
    dsimp only
    split
    · rename_i same
      subst same
      exact outline.settledStart_le ..
    · exact Nat.le_refl _
  | merged _ _ _ regions => rw [regions]

theorem start_eq (finishes : Finishes outline parent id after) {other : Nat}
    (why : other ≠ id ∨
      (outline.region other).kind = .named ∨ (outline.region other).kind = .comment) :
    (after.region other).start = (outline.region other).start := by
  cases finishes with
  | listed _ regions =>
    rw [regions]
    dsimp only
    split
    · rename_i same
      subst same
      rcases why with different | kind
      · exact absurd rfl different
      · exact outline.settledStart_eq_start kind ..
    · rfl
  | merged _ _ _ regions => rw [regions]

theorem children_of_ne (finishes : Finishes outline parent id after) {other : Nat}
    (different : other ≠ parent) :
    (after.region other).children = (outline.region other).children := by
  cases finishes with
  | listed _ regions =>
    rw [regions]
    exact if_neg different
  | merged _ _ _ regions => rw [regions]

theorem stop?_ne_none (finishes : Finishes outline parent id after) {other : Nat}
    (complete : (outline.region id).kind = .comment → (outline.region id).stop? ≠ none)
    (ended : (outline.region other).stop? ≠ none) : (after.region other).stop? ≠ none := by
  cases finishes with
  | listed _ regions =>
    rw [regions]
    exact ended
  | merged last isLast adjoin regions =>
    rw [regions]
    dsimp only
    split
    · exact complete (kinds_of_commentsAdjoin adjoin).2
    · exact ended

end Finishes

/-- An outline that has the same lists, with the same regions in them. -/
structure SameLists (outline after : Outline) : Prop where
  document_eq : after.document = outline.document
  children : ∀ outer, (after.region outer).children = (outline.region outer).children
  listed : ∀ outer inner, outline.Lists outer inner → after.region inner = outline.region inner

theorem Numbered.sameLists_add (numbered : Numbered outline opened merged) (draft : Draft)
    (parent : Nat) : SameLists outline (outline.add draft parent) := by
  refine ⟨rfl, outline.children_add draft parent, ?_⟩
  intro outer inner lists
  have known := (numbered.listed outer inner lists).2.1
  exact outline.region_add_other draft parent (Nat.ne_of_lt known)

theorem Numbered.sameLists_close (numbered : Numbered outline (id :: opened) merged) (stop : Nat) :
    SameLists outline (outline.close id stop) := by
  refine ⟨rfl, outline.children_close id stop, ?_⟩
  intro outer inner lists
  apply outline.region_close_other stop
  rintro rfl
  exact numbered.unlisted inner List.mem_cons_self outer lists

@[simp] theorem size_finish (outline : Outline) (id : Nat) :
    (outline.finish id).size = outline.size := by
  unfold finish
  split
  · rfl
  · split
    · exact size_settle ..
    · split
      · exact size_absorb ..
      · exact size_settle ..

/-- The regions of a half-built outline began as `openings` says. -/
structure Recalls (outline : Outline) (openings : List Draft) (opened : List Nat) : Prop where
  size_le : outline.size ≤ openings.length
  root : (outline.region rootId).kind = .document
  kind : ∀ id draft, id < outline.size → openings[id]? = some draft →
    (outline.region id).kind = draft.kind
  start_le : ∀ id draft, id < outline.size → openings[id]? = some draft →
    (outline.region id).start ≤ draft.start
  unmoved : ∀ id draft, id < outline.size → openings[id]? = some draft →
    ¬ (outline.region id).kind.IsBracket ∨ id ∈ opened →
    (outline.region id).start = draft.start
  kinds : ∀ id, rootId < id → id < outline.size → (outline.region id).kind.IsBracket ∨
    (outline.region id).kind = .named ∨ (outline.region id).kind = .comment
  unended : ∀ id ∈ opened, (outline.region id).stop? = none
  notComment : ∀ id ∈ opened, (outline.region id).kind ≠ .comment
  comments : ∀ id, (outline.region id).kind = .comment →
    (outline.region id).stop? ≠ none ∧ (outline.region id).children = #[]

namespace Recalls

variable {openings : List Draft}

theorem exists_opening (recalls : Recalls outline openings opened) (known : id < outline.size) :
    ∃ draft, openings[id]? = some draft := by
  have inside : id < openings.length := Nat.lt_of_lt_of_le known recalls.size_le
  exact ⟨openings[id], List.getElem?_eq_getElem inside⟩

theorem blank (document : Document) {drafts : List Draft} :
    Recalls (Outline.blank document) (Region.root.toDraft :: drafts) [] := by
  have only : ∀ id, id < (Outline.blank document).size → id = 0 := by
    intro id known
    exact Nat.lt_one_iff.1 known
  have document_kind : ∀ id, ((Outline.blank document).region id).kind = .document := by
    intro id
    cases id with
    | zero => rfl
    | succ id => rfl
  refine ⟨?_, rfl, ?_, ?_, ?_, ?_, ?_, ?_, ?_⟩
  · show 1 ≤ (Region.root.toDraft :: drafts).length
    simp only [List.length_cons]
    omega
  · intro id draft known found
    cases only id known
    cases found
    rfl
  · intro id draft known found
    cases only id known
    exact Nat.zero_le _
  · intro id draft known found _
    cases only id known
    cases found
    rfl
  · intro id later known
    cases only id known
    exact absurd later (Nat.lt_irrefl _)
  · exact fun id member => absurd member List.not_mem_nil
  · exact fun id member => absurd member List.not_mem_nil
  · intro id comment
    rw [document_kind] at comment
    exact nomatch comment

theorem head_notComment (recalls : Recalls outline openings opened) :
    (outline.region (opened.headD rootId)).kind ≠ .comment := by
  rcases Opened.headD_mem opened with root | member
  · rw [root, recalls.root]
    decide
  · exact recalls.notComment _ member

/-- A region that has just been added is the next of the openings. -/
theorem add (recalls : Recalls outline openings opened) {draft : Draft} {parent : Nat}
    (role : Region.Role) (numbered : Numbered outline opened merged)
    (next : openings[outline.size]? = some draft)
    (kinds : draft.kind.IsBracket ∨ draft.kind = .named ∨ draft.kind = .comment)
    (ended : draft.kind = .comment → draft.stop? ≠ none) :
    Recalls (outline.add { draft with role := role } parent) openings opened := by
  have new := outline.region_add_self { draft with role := role } parent
  have old : ∀ other, other ≠ outline.size →
      (outline.add { draft with role := role } parent).region other = outline.region other :=
    fun other apart => outline.region_add_other _ parent apart
  have openKnown : ∀ other ∈ opened, other ≠ outline.size := by
    intro other member
    obtain ⟨_, -, known, -⟩ := numbered.stacked.facts_of_mem other member
    omega
  have cases_of_known : ∀ other,
      other < (outline.add { draft with role := role } parent).size →
      other = outline.size ∨ other ≠ outline.size ∧ other < outline.size := by
    intro other known
    rw [size_add] at known
    omega
  refine ⟨?_, ?_, ?_, ?_, ?_, ?_, ?_, ?_, ?_⟩
  · have inside := (List.getElem?_eq_some_iff.1 next).1
    rw [size_add]
    omega
  · rw [old rootId (Nat.ne_of_lt numbered.positive)]
    exact recalls.root
  · intro other found known here
    rcases cases_of_known other known with rfl | ⟨apart, before⟩
    · cases Option.some.inj (next.symm.trans here)
      rw [new]
    · rw [old other apart]
      exact recalls.kind other found before here
  · intro other found known here
    rcases cases_of_known other known with rfl | ⟨apart, before⟩
    · cases Option.some.inj (next.symm.trans here)
      rw [new]
    · rw [old other apart]
      exact recalls.start_le other found before here
  · intro other found known here why
    rcases cases_of_known other known with rfl | ⟨apart, before⟩
    · cases Option.some.inj (next.symm.trans here)
      rw [new]
    · rw [old other apart] at why ⊢
      exact recalls.unmoved other found before here why
  · intro other later known
    rcases cases_of_known other known with rfl | ⟨apart, before⟩
    · rw [new]
      exact kinds
    · rw [old other apart]
      exact recalls.kinds other later before
  · intro other member
    rw [old other (openKnown other member)]
    exact recalls.unended other member
  · intro other member
    rw [old other (openKnown other member)]
    exact recalls.notComment other member
  · intro other comment
    by_cases same : other = outline.size
    · rw [same, new] at comment ⊢
      exact ⟨ended comment, rfl⟩
    · rw [old other same] at comment ⊢
      exact recalls.comments other comment

theorem push (recalls : Recalls outline openings opened)
    (unended : (outline.region id).stop? = none)
    (start : ∀ draft, openings[id]? = some draft → (outline.region id).start = draft.start) :
    Recalls outline openings (id :: opened) := by
  have notComment : (outline.region id).kind ≠ .comment := by
    intro comment
    exact (recalls.comments id comment).1 unended
  refine { recalls with unmoved := ?_, unended := ?_, notComment := ?_ }
  · intro other draft known found why
    by_cases same : other = id
    · subst same
      exact start draft found
    · have before : ¬ (outline.region other).kind.IsBracket ∨ other ∈ opened := by
        rcases why with kind | member
        · exact Or.inl kind
        · exact Or.inr ((List.mem_cons.1 member).resolve_left same)
      exact recalls.unmoved other draft known found before
  · intro other member
    rcases List.mem_cons.1 member with rfl | before
    · exact unended
    · exact recalls.unended other before
  · intro other member
    rcases List.mem_cons.1 member with rfl | before
    · exact notComment
    · exact recalls.notComment other before

theorem close (recalls : Recalls outline openings (id :: opened))
    (numbered : Numbered outline (id :: opened) merged) (stop : Nat) :
    Recalls (outline.close id stop) openings opened := by
  have kind := outline.kind_close id stop
  have start : ∀ other,
      ((outline.close id stop).region other).start = (outline.region other).start :=
    fun other => outline.field_modify id other (fun region => region.start) (fun _ => rfl)
  have children := outline.children_close id stop
  have stops : ∀ other, other ≠ id →
      ((outline.close id stop).region other).stop? = (outline.region other).stop? := by
    intro other apart
    rw [outline.region_close_other stop apart]
  refine ⟨?_, ?_, ?_, ?_, ?_, ?_, ?_, ?_, ?_⟩
  · rw [size_close]
    exact recalls.size_le
  · rw [kind]
    exact recalls.root
  · intro other draft known found
    rw [size_close] at known
    rw [kind]
    exact recalls.kind other draft known found
  · intro other draft known found
    rw [size_close] at known
    rw [start]
    exact recalls.start_le other draft known found
  · intro other draft known found why
    rw [size_close] at known
    rw [kind] at why
    rw [start]
    exact recalls.unmoved other draft known found (why.imp_right (List.mem_cons_of_mem id))
  · intro other later known
    rw [size_close] at known
    rw [kind]
    exact recalls.kinds other later known
  · intro other member
    rw [stops other (Nat.ne_of_lt (numbered.open_lt member))]
    exact recalls.unended other (List.mem_cons_of_mem id member)
  · intro other member
    rw [kind]
    exact recalls.notComment other (List.mem_cons_of_mem id member)
  · intro other comment
    rw [kind] at comment
    have apart : other ≠ id := by
      rintro rfl
      exact recalls.notComment other List.mem_cons_self comment
    rw [stops other apart, children]
    exact recalls.comments other comment

/-- Finishing a region moves the start of brackets alone, and only back. -/
theorem finish (recalls : Recalls outline openings opened)
    (numbered : Numbered outline (id :: opened) merged) :
    Recalls (outline.finish id) openings opened := by
  have finishes := outline.finish_finishes numbered
    fun comment => (recalls.comments id comment).2
  have kinds := finishes.kind_eq
  refine ⟨?_, ?_, ?_, ?_, ?_, ?_, ?_, ?_, ?_⟩
  · rw [size_finish]
    exact recalls.size_le
  · rw [kinds]
    exact recalls.root
  · intro other draft known found
    rw [size_finish] at known
    rw [kinds]
    exact recalls.kind other draft known found
  · intro other draft known found
    rw [size_finish] at known
    exact Nat.le_trans finishes.start_le (recalls.start_le other draft known found)
  · intro other draft known found why
    rw [size_finish] at known
    rw [kinds] at why
    have before := recalls.unmoved other draft known found why
    rw [finishes.start_eq, before]
    by_cases same : other = id
    · subst same
      obtain ⟨later, -⟩ := numbered.inside_facts numbered.inside_head
      rcases recalls.kinds other (Nat.zero_lt_of_lt later) known with bracket | others
      · rcases why with notBracket | member
        · exact absurd bracket notBracket
        · exact absurd (numbered.open_lt member) (Nat.lt_irrefl other)
      · exact Or.inr others
    · exact Or.inl same
  · intro other later known
    rw [size_finish] at known
    rw [kinds]
    exact recalls.kinds other later known
  · intro other member
    rw [finishes.stop?_of_ne_comment (recalls.notComment other member)]
    exact recalls.unended other member
  · intro other member
    rw [kinds]
    exact recalls.notComment other member
  · intro other comment
    rw [kinds] at comment
    obtain ⟨ended, childless⟩ := recalls.comments other comment
    have outside : other ≠ opened.headD rootId := by
      rintro rfl
      exact recalls.head_notComment comment
    rw [finishes.children_of_ne outside]
    exact ⟨finishes.stop?_ne_none (fun comment => (recalls.comments id comment).1) ended,
      childless⟩

end Recalls

end Outline

namespace Scan

open Outline (Numbered Recalls Finishes rootId)

variable {rules : BraceRules} {tokens : List Token} {document : Document}
  {scan after : Scan Bool} {next : Cursor}

/-- What holds of a scan on its way through a text: it follows the tokens, accounts for every
number, and has started the first of the openings, so that the others are still to come. -/
structure Reached (rules : BraceRules) (tokens : List Token) (document : Document)
    (scan : Scan Bool) : Prop extends Tracks tokens document scan where
  accounted : scan.Accounted
  recalls : Recalls scan.outline (rules.openings document tokens) scan.opened
  ahead : (rules.openings document tokens).drop scan.outline.size = rules.openingsFrom scan.cursor
  started : ∀ id draft, rootId < id → id < scan.outline.size →
    (rules.openings document tokens)[id]? = some draft → scan.cursor.Clears draft.start

namespace Reached

theorem start (rules : BraceRules) (announced : Bool) (document : Document)
    (tokens : List Token) :
    Reached rules tokens document
      (Scan.start (Dialect.brace rules) announced document tokens) := by
  refine ⟨⟨Cursor.ofTokens_sound document tokens, Cursor.ofTokens_document document tokens, rfl⟩,
    start_accounted _ _ _ _, Recalls.blank document, rfl, ?_⟩
  intro id draft inner known
  exact absurd inner (Nat.not_lt.2 (Nat.le_of_lt_succ known))

theorem open_lt_size (reached : Reached rules tokens document scan) {id : Nat}
    (member : id ∈ scan.opened) : id < scan.outline.size := by
  obtain ⟨merged, numbered⟩ := reached.accounted.numbered
  obtain ⟨_, -, known, -⟩ := numbered.stacked.facts_of_mem id member
  exact known

theorem ahead_of_unstarted (reached : Reached rules tokens document scan)
    (moved : scan.cursor.advance? = some next) (unstarted : rules.start? scan.cursor = none) :
    (rules.openings document tokens).drop scan.outline.size = rules.openingsFrom next := by
  rw [reached.ahead, rules.openingsFrom_of_advance moved, unstarted]
  rfl

/-- A region that starts here is the next of the openings. -/
theorem ahead_of_starts (reached : Reached rules tokens document scan)
    (moved : scan.cursor.advance? = some next) {draft : Draft}
    (starts : rules.start? scan.cursor = some draft) :
    (rules.openings document tokens)[scan.outline.size]? = some draft ∧
      (rules.openings document tokens).drop (scan.outline.size + 1) = rules.openingsFrom next := by
  have ahead : (rules.openings document tokens).drop scan.outline.size =
      draft :: rules.openingsFrom next := by
    rw [reached.ahead, rules.openingsFrom_of_advance moved, starts]
    rfl
  constructor
  · have first := congrArg List.head? ahead
    rwa [List.head?_drop, List.head?_cons] at first
  · have rest := congrArg List.tail ahead
    rwa [List.tail_drop, List.tail_cons] at rest

theorem add (reached : Reached rules tokens document scan)
    (moved : scan.cursor.advance? = some next) {draft : Draft}
    (starts : rules.start? scan.cursor = some draft) (role : Region.Role) :
    Recalls (scan.outline.add { draft with role := role } scan.parent)
      (rules.openings document tokens) scan.opened := by
  obtain ⟨merged, numbered⟩ := reached.accounted.numbered
  refine reached.recalls.add role numbered (reached.ahead_of_starts moved starts).1 ?_
    (BraceRules.start?_comment_iff reached.sound starts).1
  rcases BraceRules.start?_kind reached.sound starts with ⟨-, bracket | named⟩ | ⟨-, comment⟩
  · exact Or.inl bracket
  · exact Or.inr (Or.inl named)
  · exact Or.inr (Or.inr comment)

/-- The regions that have begun lie behind once the cursor has moved on. -/
theorem started_of_advance (reached : Reached rules tokens document scan)
    (moved : scan.cursor.advance? = some next) {id : Nat} {draft : Draft} (inner : rootId < id)
    (known : id < scan.outline.size)
    (opening : (rules.openings document tokens)[id]? = some draft) :
    next.Clears draft.start :=
  (reached.started id draft inner known opening).advance moved

theorem started_of_starts (reached : Reached rules tokens document scan)
    (moved : scan.cursor.advance? = some next) {first : Draft}
    (starts : rules.start? scan.cursor = some first) {id : Nat} {draft : Draft}
    (inner : rootId < id) (known : id < scan.outline.size + 1)
    (opening : (rules.openings document tokens)[id]? = some draft) :
    next.Clears draft.start := by
  by_cases new : id = scan.outline.size
  · rw [new, (reached.ahead_of_starts moved starts).1] at opening
    cases opening
    rw [(BraceRules.start?_begins reached.sound starts).start_eq]
    exact (Cursor.Clears.ofSound reached.sound).advance moved
  · exact reached.started_of_advance moved inner (by omega) opening

theorem step (reached : Reached rules tokens document scan)
    (moved : scan.cursor.advance? = some next) :
    Reached rules tokens document (scan.step (Dialect.brace rules) next) := by
  have act := step_act rules scan next
  have tracks := reached.toTracks.turn moved (act.turn reached.sound)
  have accounted := reached.accounted.step (Dialect.brace rules) next
  obtain ⟨merged, numbered⟩ := reached.accounted.numbered
  generalize scan.step (Dialect.brace rules) next = after at act tracks accounted
  cases act with
  | pass announced unstarted _ =>
    refine ⟨tracks, accounted, reached.recalls, reached.ahead_of_unstarted moved unstarted, ?_⟩
    intro id draft inner known opening
    exact reached.started_of_advance moved inner known opening
  | start draft role starts unended =>
    obtain ⟨opening, ahead⟩ := reached.ahead_of_starts moved starts
    have new := scan.outline.region_add_self { draft with role := role } scan.parent
    refine ⟨tracks, accounted, (reached.add moved starts role).push ?_ ?_, ?_, ?_⟩
    · rw [new]
      exact unended
    · intro found same
      cases Option.some.inj (opening.symm.trans same)
      rw [new]
    · rw [Outline.size_add]
      exact ahead
    · rw [Outline.size_add]
      intro id found inner known here
      exact reached.started_of_starts moved starts inner known here
  | comment draft role starts ended =>
    refine ⟨tracks, accounted, (reached.add moved starts role).finish (numbered.add _), ?_, ?_⟩
    · rw [Outline.size_finish, Outline.size_add]
      exact (reached.ahead_of_starts moved starts).2
    · rw [Outline.size_finish, Outline.size_add]
      intro id found inner known here
      exact reached.started_of_starts moved starts inner known here
  | close id outer stop innermost unstarted closes =>
    have recalls := reached.recalls
    rw [innermost] at recalls numbered
    refine ⟨tracks, accounted, (recalls.close numbered stop).finish (numbered.close id stop),
      ?_, ?_⟩
    · rw [Outline.size_finish, Outline.size_close]
      exact reached.ahead_of_unstarted moved unstarted
    · rw [Outline.size_finish, Outline.size_close]
      intro other found inner known here
      exact reached.started_of_advance moved inner known here

theorem finishes_comment (reached : Reached rules tokens document scan)
    (moved : scan.cursor.advance? = some next) {draft : Draft}
    (starts : rules.start? scan.cursor = some draft) (role : Region.Role) :
    Finishes (scan.outline.add { draft with role := role } scan.parent) scan.parent
      scan.outline.size
      ((scan.outline.add { draft with role := role } scan.parent).finish scan.outline.size) := by
  obtain ⟨merged, numbered⟩ := reached.accounted.numbered
  exact Outline.finish_finishes (numbered.add _)
    fun comment => ((reached.add moved starts role).comments _ comment).2

theorem finishes_close (reached : Reached rules tokens document scan) {id : Nat}
    {outer : List Nat} (innermost : scan.opened = id :: outer) (stop : Nat) :
    Finishes (scan.outline.close id stop) (outer.headD rootId) id
      ((scan.outline.close id stop).finish id) := by
  obtain ⟨merged, numbered⟩ := reached.accounted.numbered
  have recalls := reached.recalls
  rw [innermost] at recalls numbered
  exact Outline.finish_finishes (numbered.close id stop)
    fun comment => ((recalls.close numbered stop).comments id comment).2

theorem region_finishAll (reached : Reached rules tokens document scan) (other : Nat) :
    (scan.outline.finishAll scan.opened).region other = { scan.outline.region other with
      children := (scan.outline.region other).children ++
        (scan.outline.openInside scan.opened other).toArray } := by
  obtain ⟨merged, numbered⟩ := reached.accounted.numbered
  exact numbered.stacked.region_finishAll reached.recalls.unended other

/-- An entry of a list was there before the open regions were finished, or it is the open region
at the end of the list. -/
theorem entry_finishAll (reached : Reached rules tokens document scan)
    {outer index id : Nat}
    (here : ((scan.outline.finishAll scan.opened).region outer).children[index]? = some id) :
    (scan.outline.region outer).children[index]? = some id ∨
      (id ∈ scan.opened ∧ (scan.outline.region id).parent? = some outer) ∧
        index = (scan.outline.region outer).children.size := by
  obtain ⟨merged, numbered⟩ := reached.accounted.numbered
  rw [reached.region_finishAll] at here
  dsimp only at here
  by_cases old : index < (scan.outline.region outer).children.size
  · rw [Array.getElem?_append_left old] at here
    exact Or.inl here
  · rw [Array.getElem?_append_right (Nat.le_of_not_lt old)] at here
    have isOpen : id ∈ scan.outline.openInside scan.opened outer :=
      List.mem_toArray.1 (Array.mem_of_getElem? here)
    obtain ⟨member, linked⟩ := Outline.mem_openInside.1 isOpen
    rw [numbered.stacked.openInside_eq member linked] at here
    have first : index - (scan.outline.region outer).children.size < 1 :=
      (Array.getElem?_eq_some_iff.1 here).1
    exact Or.inr ⟨⟨member, linked⟩, by omega⟩

/-- Once the open regions are finished, a region lists what lies directly inside it. -/
theorem lists_finishAll (reached : Reached rules tokens document scan) {outer id : Nat} :
    (scan.outline.finishAll scan.opened).Lists outer id ↔
      scan.outline.Inside scan.opened outer id := by
  unfold Outline.Lists Outline.Inside Outline.Lists
  rw [reached.region_finishAll, ← Outline.mem_openInside]
  simp only [Array.mem_append, List.mem_toArray]

theorem draft_finishAll (reached : Reached rules tokens document scan) (id : Nat) :
    ((scan.outline.finishAll scan.opened).region id).toDraft =
      (scan.outline.region id).toDraft := by
  rw [reached.region_finishAll]

theorem known_of_lists (reached : Reached rules tokens document scan) {outer id : Nat}
    (lists : (scan.outline.finishAll scan.opened).Lists outer id) :
    rootId < id ∧ id < scan.outline.size := by
  obtain ⟨merged, numbered⟩ := reached.accounted.numbered
  obtain ⟨later, used, -⟩ := numbered.inside_facts (reached.lists_finishAll.1 lists)
  exact ⟨Nat.zero_lt_of_lt later, used⟩

theorem childless_finishAll (reached : Reached rules tokens document scan) (id : Nat)
    (comment : ((scan.outline.finishAll scan.opened).region id).kind = .comment) :
    ((scan.outline.finishAll scan.opened).region id).children = #[] := by
  rw [reached.region_finishAll] at comment ⊢
  have none : scan.outline.openInside scan.opened id = [] := by
    apply List.eq_nil_iff_forall_not_mem.2
    intro inner member
    obtain ⟨isOpen, linked⟩ := Outline.mem_openInside.1 member
    obtain ⟨merged, numbered⟩ := reached.accounted.numbered
    rcases numbered.stacked.parent_open isOpen linked with rfl | around
    · exact nomatch comment.symm.trans reached.recalls.root
    · exact reached.recalls.notComment id around comment
  dsimp only at comment ⊢
  rw [(reached.recalls.comments id comment).2, none]
  rfl

end Reached

/-- What holds at the start of a scan and is kept by every step of those that can come about holds
at its end. -/
theorem braceRun_reached (rules : BraceRules) (announced : Bool) (document : Document)
    (tokens : List Token) (holds : Scan Bool → Prop)
    (first : holds (Scan.start (Dialect.brace rules) announced document tokens))
    (kept : ∀ scan next after, Reached rules tokens document scan →
      scan.cursor.advance? = some next → Act rules scan next after →
      Reached rules tokens document after → holds scan → holds after) :
    Reached rules tokens document (braceRun rules announced document tokens) ∧
      holds (braceRun rules announced document tokens) := by
  refine run_induction (Dialect.brace rules)
    (fun scan => Reached rules tokens document scan ∧ holds scan) ?_ _
    ⟨Reached.start rules announced document tokens, first⟩
  rintro scan next ⟨reached, before⟩ moved
  have further := reached.step moved
  exact ⟨further, kept scan next _ reached moved (step_act rules scan next) further before⟩

theorem run_reached (rules : BraceRules) (announced : Bool) (document : Document)
    (tokens : List Token) :
    Reached rules tokens document (braceRun rules announced document tokens) :=
  (braceRun_reached rules announced document tokens (fun _ => True) trivial
    fun _ _ _ _ _ _ _ _ => trivial).1

/-- A run ends where the cursor does not stop any more. -/
theorem braceRun_stops (rules : BraceRules) (announced : Bool) (document : Document)
    (tokens : List Token) : (braceRun rules announced document tokens).cursor.stops = [] := by
  apply Cursor.stops_of_atEnd
  have atEnd : (braceRun rules announced document tokens).cursor.atEnd = true := run_atEnd _ _
  unfold Cursor.advance?
  rw [if_pos atEnd]

end Scan

end CodeFolding
