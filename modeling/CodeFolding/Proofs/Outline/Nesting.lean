import CodeFolding.Proofs.Outline.Drained
import Mathlib.Logic.Relation

set_option autoImplicit false

namespace CodeFolding

namespace Outline

/-- `inner` is the last region that `outer` lists. -/
def ListsLast (outline : Outline) (outer inner : Nat) : Prop :=
  (outline.region outer).children.back? = some inner

/-- The listed regions lie strictly inside one another. A region without an end is the last one
of its list and lies in regions without an end only, so that all of them form one chain. -/
structure StrictlyNested (outline : Outline) : Prop where
  linked : ∀ outer inner, outline.Lists outer inner →
    (outline.region inner).parent? = some outer
  filled : ∀ outer inner stop, outline.Lists outer inner →
    (outline.region inner).stop? = some stop →
    (outline.region inner).start < stop ∧ stop ≤ outline.document.length
  begins : ∀ outer inner, outline.Lists outer inner → outer ≠ rootId →
    (outline.region outer).start < (outline.region inner).start
  ends : ∀ outer inner last, outline.Lists outer inner →
    (outline.region outer).stop? = some last →
    ∃ stop, (outline.region inner).stop? = some stop ∧ stop < last
  endless : ∀ ancestor inner, Relation.TransGen outline.Lists ancestor inner →
    (outline.region inner).stop? = none → (outline.region ancestor).stop? = none
  last : ∀ outer inner, outline.Lists outer inner →
    (outline.region inner).stop? = none → outline.ListsLast outer inner
  chain : ∃ chain : List Nat, (rootId :: chain).IsChain outline.ListsLast ∧
    ∀ outer inner, outline.Lists outer inner →
      ((outline.region inner).stop? = none ↔ inner ∈ chain)

/-- If regions with an end list regions with an end only, no ancestor of a region without an end
has one. -/
theorem unended_of_transGen {outline : Outline} {ancestor inner : Nat}
    (ends : ∀ outer inner last, outline.Lists outer inner →
      (outline.region outer).stop? = some last →
      ∃ stop, (outline.region inner).stop? = some stop ∧ stop < last)
    (path : Relation.TransGen outline.Lists ancestor inner)
    (unended : (outline.region inner).stop? = none) :
    (outline.region ancestor).stop? = none := by
  have step : ∀ {outer inner}, outline.Lists outer inner →
      (outline.region inner).stop? = none → (outline.region outer).stop? = none := by
    intro outer inner lists unended
    cases found : (outline.region outer).stop? with
    | none => rfl
    | some last =>
      obtain ⟨stop, ended, -⟩ := ends outer inner last lists found
      exact nomatch unended.symm.trans ended
  induction path with
  | single lists => exact step lists unended
  | tail _ lists ih => exact ih (step lists unended)

section Finished

variable {outline : Outline} {position : Nat} {opened : List Nat}

/-- The open regions and the root, from the inside out, each inside the next. -/
theorem Opened.isChain_parent (valid : Opened outline position opened) (among : List Nat)
    (part : ∀ id ∈ opened, id ∈ among) :
    (opened ++ [rootId]).IsChain fun inner outer =>
      inner ∈ among ∧ (outline.region inner).parent? = some outer := by
  induction valid with
  | nil => exact List.IsChain.singleton rootId
  | @cons id rest around waiting ih =>
    have inner := ih fun other member => part other (List.mem_cons_of_mem id member)
    have linked : id ∈ among ∧ (outline.region id).parent? = some (rest.headD rootId) :=
      ⟨part id List.mem_cons_self, waiting.linked⟩
    cases rest with
    | nil => exact List.IsChain.cons_cons linked inner
    | cons next further => exact List.IsChain.cons_cons linked inner

theorem Opened.lists_finishAll (valid : Opened outline position opened) {outer inner : Nat} :
    (outline.finishAll opened).Lists outer inner ↔
      inner ∈ (outline.region outer).children ∨
        inner ∈ opened ∧ (outline.region inner).parent? = some outer := by
  unfold Lists
  rw [valid.region_finishAll, ← mem_openInside]
  simp only [Array.mem_append, List.mem_toArray]

theorem Opened.listsLast_finishAll (valid : Opened outline position opened) {outer inner : Nat}
    (member : inner ∈ opened) (linked : (outline.region inner).parent? = some outer) :
    (outline.finishAll opened).ListsLast outer inner := by
  unfold ListsLast
  rw [valid.region_finishAll, valid.stacked.openInside_eq member linked]
  exact Array.back?_push

section StrictlyNested

variable (nested : Nested outline position opened) {outer inner : Nat}
include nested

theorem Nested.linked_of_lists (lists : (outline.finishAll opened).Lists outer inner) :
    (outline.region inner).parent? = some outer := by
  rcases nested.opened.lists_finishAll.1 lists with listed | ⟨-, inOuter⟩
  · exact (nested.listed outer inner listed).linked
  · exact inOuter

theorem Nested.begins_of_lists (lists : (outline.finishAll opened).Lists outer inner)
    (below : outer ≠ rootId) : (outline.region outer).start < (outline.region inner).start := by
  rcases nested.opened.lists_finishAll.1 lists with listed | ⟨member, inOuter⟩
  · exact (nested.listed outer inner listed).begins below
  · obtain ⟨parent, waiting⟩ := nested.opened.waiting_of_mem inner member
    cases Option.some.inj (inOuter.symm.trans waiting.linked)
    exact waiting.begins below

theorem Nested.filled_of_lists (lists : (outline.finishAll opened).Lists outer inner) {stop : Nat}
    (ended : (outline.region inner).stop? = some stop) :
    (outline.region inner).start < stop ∧ stop ≤ outline.document.length := by
  rcases nested.opened.lists_finishAll.1 lists with listed | ⟨member, -⟩
  · obtain ⟨found, same, filled, reached, -⟩ := (nested.listed outer inner listed).ends
    cases Option.some.inj (ended.symm.trans same)
    exact ⟨filled, Nat.le_trans reached nested.inside⟩
  · exact nomatch (nested.unended_of_open (Or.inr member)).symm.trans ended

theorem Nested.ends_of_lists (lists : (outline.finishAll opened).Lists outer inner) {last : Nat}
    (ended : (outline.region outer).stop? = some last) :
    ∃ stop, (outline.region inner).stop? = some stop ∧ stop < last := by
  rcases nested.opened.lists_finishAll.1 lists with listed | ⟨member, inOuter⟩
  · obtain ⟨stop, found, -, -, inside⟩ := (nested.listed outer inner listed).ends
    exact ⟨stop, found, inside last ended⟩
  · have unended := nested.unended_of_open (nested.opened.stacked.parent_open member inOuter)
    exact nomatch unended.symm.trans ended

theorem Nested.unended_iff_of_lists (lists : (outline.finishAll opened).Lists outer inner) :
    (outline.region inner).stop? = none ↔ inner ∈ opened := by
  constructor
  · intro unended
    rcases nested.opened.lists_finishAll.1 lists with listed | ⟨member, -⟩
    · exact absurd listed (nested.not_mem_children unended outer)
    · exact member
  · exact fun member => nested.unended_of_open (Or.inr member)

theorem Nested.isChain_listsLast :
    (rootId :: opened.reverse).IsChain (outline.finishAll opened).ListsLast := by
  have upwards := nested.opened.isChain_parent opened fun _ member => member
  have downwards : (opened ++ [rootId]).reverse = rootId :: opened.reverse := by
    rw [List.reverse_append, List.reverse_singleton, List.singleton_append]
  rw [← downwards, List.isChain_reverse]
  exact upwards.imp fun inner outer facts => nested.opened.listsLast_finishAll facts.1 facts.2

/-- The invariant of a scan makes an outline in which the regions lie strictly inside one another,
once the open regions are finished. -/
theorem Nested.strictlyNested : StrictlyNested (outline.finishAll opened) := by
  have draft := nested.opened.draft_finishAll
  have ends : ∀ outer inner last, (outline.finishAll opened).Lists outer inner →
      ((outline.finishAll opened).region outer).stop? = some last →
      ∃ stop, ((outline.finishAll opened).region inner).stop? = some stop ∧ stop < last := by
    intro outer inner last lists ended
    rw [draft] at ended ⊢
    exact nested.ends_of_lists lists ended
  refine ⟨?_, ?_, ?_, ends, fun _ _ => unended_of_transGen ends, ?_, opened.reverse,
    nested.isChain_listsLast, ?_⟩
  · intro outer inner lists
    rw [nested.opened.parent?_finishAll]
    exact nested.linked_of_lists lists
  · intro outer inner stop lists ended
    rw [draft] at ended ⊢
    rw [document_finishAll]
    exact nested.filled_of_lists lists ended
  · intro outer inner lists below
    rw [draft, draft]
    exact nested.begins_of_lists lists below
  · intro outer inner lists unended
    rw [draft] at unended
    exact nested.opened.listsLast_finishAll ((nested.unended_iff_of_lists lists).1 unended)
      (nested.linked_of_lists lists)
  · intro outer inner lists
    rw [draft, nested.unended_iff_of_lists lists, List.mem_reverse]

end StrictlyNested

end Finished

end Outline

/-- For every text and all tokens with bounds in order, the outline is one of that text and its
regions lie strictly inside one another. -/
theorem Dialect.brace_strictlyNested (rules : BraceRules) (announced : Bool)
    (document : Document) {tokens : List Token} (ordered : Token.Ordered tokens) :
    ((brace rules).outline announced document tokens).2.document = document ∧
      ((brace rules).outline announced document tokens).2.StrictlyNested := by
  refine ⟨document_outline_brace .., ?_⟩
  rw [outline_brace]
  exact (Scan.run_nested rules announced document ordered).strictlyNested

/-- Tokens out of order, overlapping, empty and out of range, over a block that is never closed. -/
def unclosedTokens : List Token :=
  [⟨⟨6, 8⟩, .comment⟩, ⟨⟨2, 9⟩, .string⟩, ⟨⟨0, 5⟩, .punctuation⟩, ⟨⟨4, 4⟩, .keyword⟩]

theorem Dialect.brace_strictlyNested_unclosed :
    Token.Ordered unclosedTokens ∧
    ((brace .unmarked).outline false (Document.ofString "\x7b\n[\n]\n//")
      unclosedTokens).2.StrictlyNested := by
  have ordered : Token.Ordered unclosedTokens := by decide
  exact ⟨ordered, (brace_strictlyNested .unmarked false _ ordered).2⟩

end CodeFolding
