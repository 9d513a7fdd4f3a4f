import CodeFolding.Proofs.Outline.Nesting
import CodeFolding.Proofs.Outline.Openings
import CodeFolding.Proofs.Outline.Preorder
import CodeFolding.Proofs.Outline.Siblings

set_option autoImplicit false

namespace CodeFolding

namespace Outline

/-- `first` has an end, and `second` begins behind it, or at the carriage return in front of it if
the end splits a break and `second` is a bracket. -/
def Behind (outline : Outline) (first second : Nat) : Prop :=
  ∃ stop, (outline.region first).stop? = some stop ∧
    stop ≤ (outline.region second).start + 1 ∧
    ((outline.region second).start < stop →
      outline.document.SplitsBreak stop ∧ (outline.region second).kind.IsBracket)

variable {outline : Outline} {first second third : Nat}

theorem Behind.of_le {stop : Nat} (ended : (outline.region first).stop? = some stop)
    (apart : stop ≤ (outline.region second).start) : outline.Behind first second :=
  ⟨stop, ended, by omega, fun overlap => absurd overlap (by omega)⟩

theorem Behind.trans (one : outline.Behind first second) (two : outline.Behind second third)
    (filled : ∀ stop, (outline.region second).stop? = some stop →
      (outline.region second).start < stop) : outline.Behind first third := by
  obtain ⟨stop, ended, near, -⟩ := one
  obtain ⟨last, lastEnds, lastNear, overlap⟩ := two
  have inside := filled last lastEnds
  refine ⟨stop, ended, by omega, ?_⟩
  intro shared
  -- The region between can share the carriage return only if it ends there, too.
  have same : last = stop := by omega
  rw [same] at overlap
  exact overlap shared

/-- What begins behind the start of a region that begins behind another one is apart from that. -/
theorem Behind.of_begins (one : outline.Behind first second)
    (begins : (outline.region second).start < (outline.region third).start) :
    outline.Behind first third := by
  obtain ⟨stop, ended, near, -⟩ := one
  exact .of_le ended (by omega)

section Siblings

variable {position : Nat} {opened merged : List Nat} {outer : Nat}
  (nested : Nested outline position opened)
include nested

theorem Nested.behind_of_follows (member : first ∈ (outline.region outer).children)
    (follows : Follows outline first second) : outline.Behind first second := by
  obtain ⟨stop, ended, -⟩ := (nested.listed outer first member).ends
  obtain ⟨near, overlap⟩ := follows.overlap stop ended
  exact ⟨stop, ended, near, fun shared => ⟨(overlap.1 shared).1, (overlap.1 shared).2.2⟩⟩

/-- Of the regions in a list, each lies behind all those in front of it. -/
theorem Nested.pairwise_behind (outer : Nat) :
    (outline.region outer).children.toList.Pairwise outline.Behind := by
  have chain := nested.inOrder outer
  have members : ∀ id ∈ (outline.region outer).children.toList,
      id ∈ (outline.region outer).children := fun id member => Array.mem_toList_iff.1 member
  generalize (outline.region outer).children.toList = list at chain members
  induction list with
  | nil => exact List.Pairwise.nil
  | cons id rest ih =>
    have tail := ih chain.tail fun other member => members other (List.mem_cons_of_mem id member)
    refine List.Pairwise.cons ?_ tail
    intro other member
    cases rest with
    | nil => exact absurd member List.not_mem_nil
    | cons next rest =>
      have follows := (List.isChain_cons_cons.1 chain).1
      have near := nested.behind_of_follows (members id List.mem_cons_self) follows
      rcases List.mem_cons.1 member with rfl | later
      · exact near
      · refine near.trans ((List.pairwise_cons.1 tail).1 other later) ?_
        intro stop ended
        have inList := members next (List.mem_cons_of_mem id List.mem_cons_self)
        obtain ⟨last, same, filled, -⟩ := (nested.listed outer next inList).ends
        cases Option.some.inj (ended.symm.trans same)
        exact filled

/-- Also when the open regions are finished, each region lies behind the siblings in front of it. -/
theorem Nested.behind_of_siblings (numbered : Numbered outline opened merged)
    (one : (outline.finishAll opened).Lists outer first)
    (two : (outline.finishAll opened).Lists outer second) (before : first < second) :
    (outline.finishAll opened).Behind first second := by
  have drafts := nested.opened.draft_finishAll
  unfold Behind
  rw [drafts, drafts, document_finishAll]
  change outline.Behind first second
  rcases nested.opened.lists_finishAll.1 one with oneListed | ⟨oneOpen, oneLinked⟩
  · rcases nested.opened.lists_finishAll.1 two with twoListed | ⟨twoOpen, twoLinked⟩
    · obtain ⟨i, iKnown, atI⟩ := List.getElem_of_mem (Array.mem_toList_iff.2 oneListed)
      obtain ⟨j, jKnown, atJ⟩ := List.getElem_of_mem (Array.mem_toList_iff.2 twoListed)
      have inOrder : i < j := by
        apply Decidable.byContradiction
        intro notBefore
        rcases Nat.eq_or_lt_of_le (Nat.le_of_not_lt notBefore) with same | behind
        · subst same
          omega
        · have lower := List.pairwise_iff_getElem.1 (numbered.sorted outer) j i jKnown iKnown behind
          omega
      have facts := List.pairwise_iff_getElem.1 (nested.pairwise_behind outer) i j iKnown jKnown
        inOrder
      rwa [atI, atJ] at facts
    · obtain ⟨stop, ended, -⟩ := (nested.listed outer first oneListed).ends
      obtain ⟨parent, waiting⟩ := nested.opened.waiting_of_mem second twoOpen
      cases Option.some.inj (twoLinked.symm.trans waiting.linked)
      exact .of_le ended ((waiting.behind first oneListed).2 stop ended)
  · obtain ⟨parent, waiting⟩ := nested.opened.waiting_of_mem first oneOpen
    cases Option.some.inj (oneLinked.symm.trans waiting.linked)
    rcases nested.opened.lists_finishAll.1 two with twoListed | ⟨twoOpen, twoLinked⟩
    · have earlier := (waiting.behind second twoListed).1
      omega
    · have alone := nested.opened.stacked.openInside_eq oneOpen oneLinked
      rw [nested.opened.stacked.openInside_eq twoOpen twoLinked] at alone
      have same := List.head_eq_of_cons_eq alone
      omega

end Siblings

theorem Numbered.le_of_reflTransGen {merged : List Nat} (numbered : Numbered outline [] merged)
    (path : Relation.ReflTransGen outline.Lists first second) : first ≤ second := by
  induction path with
  | refl => exact Nat.le_refl _
  | tail _ lists ih =>
    have later := (numbered.listed _ _ lists).1
    omega

/-- If siblings lie behind one another, any two listed regions do, unless the one contains the
other. -/
theorem StrictlyNested.contains_or_behind {merged : List Nat}
    (strict : outline.StrictlyNested) (numbered : Numbered outline [] merged)
    (siblings : ∀ outer first second, outline.Lists outer first → outline.Lists outer second →
      first < second → outline.Behind first second)
    (one : ∃ outer, outline.Lists outer first) (two : ∃ outer, outline.Lists outer second)
    (before : first < second) :
    Relation.TransGen outline.Lists first second ∨ outline.Behind first second := by
  -- Each step goes from one of the two regions to the one around it, which has a smaller number.
  induction total : first + second using Nat.strongRecOn generalizing first second with
  | ind total ih =>
    obtain ⟨around, lists⟩ := one
    obtain ⟨outer, inner⟩ := two
    have outerBefore := (numbered.listed outer second inner).1
    have aroundBefore := (numbered.listed around first lists).1
    rcases Nat.lt_trichotomy first outer with inside | same | outside
    · have further := numbered.exists_lists_of_lists inner (Nat.zero_lt_of_lt inside)
      rcases ih (first + outer) (by omega) ⟨around, lists⟩ further inside rfl with contains | behind
      · exact Or.inl (contains.tail inner)
      · exact Or.inr (behind.of_begins
          (strict.begins outer second inner (Nat.ne_of_gt (Nat.zero_lt_of_lt inside))))
    · subst same
      exact Or.inl (.single inner)
    · have within := numbered.uncrossed outer second around first (Or.inl inner) (Or.inl lists)
        outside before
      rcases Nat.eq_or_lt_of_le within with shared | deeper
      · subst shared
        exact Or.inr (siblings outer first second lists inner before)
      · have further := numbered.exists_lists_of_lists lists (Nat.zero_lt_of_lt deeper)
        rcases ih (around + second) (by omega) further ⟨outer, inner⟩ (by omega) rfl with
          contains | behind
        · -- The region around the first is deeper than that around the second.
          obtain ⟨parent, path, last⟩ := Relation.TransGen.tail'_iff.1 contains
          have same := numbered.inside_unique (Or.inl last) (Or.inl inner)
          have noLater := numbered.le_of_reflTransGen path
          omega
        · obtain ⟨last, lastEnds, near, -⟩ := behind
          obtain ⟨stop, ended, inLast⟩ := strict.ends around first last lists lastEnds
          exact Or.inr (.of_le ended (by omega))

theorem StrictlyNested.inside_of_transGen (strict : outline.StrictlyNested)
    (inner : ∀ outer id, outline.Lists outer id → id ≠ rootId) (known : first ≠ rootId)
    (contains : Relation.TransGen outline.Lists first second) :
    (outline.region first).start < (outline.region second).start ∧
      ∀ stop, (outline.region first).stop? = some stop →
        ∃ last, (outline.region second).stop? = some last ∧ last < stop := by
  induction contains with
  | single lists =>
    exact ⟨strict.begins _ _ lists known, fun stop ended => strict.ends _ _ stop lists ended⟩
  | @tail between second path lists ih =>
    obtain ⟨begins, ends⟩ := ih
    have around : between ≠ rootId := by
      obtain ⟨outer, -, last⟩ := Relation.TransGen.tail'_iff.1 path
      exact inner outer between last
    have further := strict.begins between second lists around
    refine ⟨by omega, ?_⟩
    intro stop ended
    obtain ⟨last, lastEnds, inside⟩ := ends stop ended
    obtain ⟨deepest, deepestEnds, deeper⟩ := strict.ends between second last lists lastEnds
    exact ⟨deepest, deepestEnds, by omega⟩

end Outline

/-- For every text and all tokens with bounds in order, of two regions the first contains the
second or lies in front of it. -/
theorem Dialect.contains_or_behind (rules : BraceRules) (announced : Bool) (document : Document)
    {tokens : List Token} (ordered : Token.Ordered tokens) {outline : Outline}
    (made : ((brace rules).outline announced document tokens).2 = outline) {first second : Nat}
    (one : ∃ outer, outline.Lists outer first) (two : ∃ outer, outline.Lists outer second)
    (before : first < second) :
    Relation.TransGen outline.Lists first second ∨ outline.Behind first second := by
  have nested := Scan.run_nested rules announced document ordered
  have reached := Scan.run_reached rules announced document tokens
  obtain ⟨merged, numbered⟩ := reached.accounted.numbered
  have finished := (brace rules).outline_numbered announced document tokens
  rw [outline_brace] at made finished
  subst made
  exact nested.strictlyNested.contains_or_behind finished
    (fun _ _ _ => nested.behind_of_siblings numbered) one two before

/-- If no comment and no directive ends inside a break, any two regions with ends are apart or lie
strictly one inside the other. -/
theorem Dialect.apart_or_inside (rules : BraceRules) (announced : Bool) (document : Document)
    {tokens : List Token} (ordered : Token.Ordered tokens)
    (whole : ∀ token ∈ tokens, token.kind = .comment ∨ token.kind = .directive →
      ¬ document.SplitsBreak token.stop) {outline : Outline}
    (made : ((brace rules).outline announced document tokens).2 = outline)
    {first second stop last : Nat}
    (one : ∃ outer, outline.Lists outer first) (two : ∃ outer, outline.Lists outer second)
    (before : first < second) (firstEnds : (outline.region first).stop? = some stop)
    (secondEnds : (outline.region second).stop? = some last) :
    stop ≤ (outline.region second).start ∨
      (outline.region first).start < (outline.region second).start ∧ last < stop := by
  have laminar := contains_or_behind rules announced document ordered made one two before
  have text := document_outline_brace rules announced document tokens
  have nested := Scan.run_nested rules announced document ordered
  have leaves := Scan.run_leaves rules announced document ordered
  have numbered := (brace rules).outline_numbered announced document tokens
  rw [made] at text numbered
  rw [outline_brace] at made
  rcases laminar with contains | ⟨_, ended, near, overlap⟩
  · have strict := nested.strictlyNested
    rw [made] at strict
    have inner : ∀ outer id, outline.Lists outer id → id ≠ Outline.rootId := by
      intro outer id lists
      exact Nat.ne_of_gt (Nat.zero_lt_of_lt (numbered.listed outer id lists).1)
    obtain ⟨around, lists⟩ := one
    obtain ⟨begins, ends⟩ := strict.inside_of_transGen inner (inner around first lists) contains
    obtain ⟨_, same, inside⟩ := ends stop firstEnds
    cases Option.some.inj (secondEnds.symm.trans same)
    exact Or.inr ⟨begins, inside⟩
  · cases Option.some.inj (firstEnds.symm.trans ended)
    apply Or.inl
    apply Decidable.byContradiction
    intro shared
    -- An end inside a break is the end of a comment or of a directive.
    have splits := (overlap (by omega)).1
    rw [text] at splits
    rw [← made, nested.opened.draft_finishAll] at firstEnds
    obtain ⟨token, member, kind, ends⟩ := leaves first stop firstEnds splits
    rw [← ends] at splits
    exact whole token member kind splits

end CodeFolding
