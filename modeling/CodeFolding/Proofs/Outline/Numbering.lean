import CodeFolding.Proofs.Outline.Moves

set_option autoImplicit false

namespace CodeFolding

namespace Outline

/-- `inner` lies directly inside `outer`: it is listed there, or it is open. -/
def Inside (outline : Outline) (opened : List Nat) (outer inner : Nat) : Prop :=
  outline.Lists outer inner ∨ inner ∈ opened ∧ (outline.region inner).parent? = some outer

/-- The open regions from the inside out, each directly inside the next one. -/
inductive Stacked (outline : Outline) : List Nat → Prop
  | nil : Stacked outline []
  | cons {id : Nat} {outer : List Nat} (around : Stacked outline outer)
      (known : id < outline.size) (later : outer.headD rootId < id)
      (linked : (outline.region id).parent? = some (outer.headD rootId)) :
      Stacked outline (id :: outer)

/-- The numbers of an outline in which the regions `opened` are open, from the inside out, and the
regions `merged` have become parts of others. -/
structure Numbered (outline : Outline) (opened merged : List Nat) : Prop where
  positive : 0 < outline.size
  stacked : Stacked outline opened
  unlisted : ∀ id ∈ opened, ∀ outer, ¬ outline.Lists outer id
  listed : ∀ outer inner, outline.Lists outer inner → outer < inner ∧ inner < outline.size ∧
    (outline.region inner).parent? = some outer
  sorted : ∀ outer, (outline.region outer).children.toList.Pairwise (· < ·)
  /-- What is numbered between a region and one inside it is not outside of the first. -/
  uncrossed : ∀ outer inner other between, outline.Inside opened outer inner →
    outline.Inside opened other between → outer < between → between < inner → outer ≤ other
  /-- What is numbered behind an open region is inside it. -/
  around : ∀ id ∈ opened, ∀ outer inner, outline.Inside opened outer inner → id < inner →
    id ≤ outer
  gone : ∀ id ∈ merged, rootId < id ∧ id < outline.size ∧
    (∀ outer, ¬ outline.Inside opened outer id) ∧ (outline.region id).children = #[]
  distinct : merged.Nodup
  accounted : ∀ id, rootId < id → id < outline.size →
    (∃ outer, outline.Inside opened outer id) ∨ id ∈ merged

namespace Stacked

variable {outline : Outline} {opened : List Nat}

theorem facts_of_mem (stacked : Stacked outline opened) :
    ∀ id ∈ opened, ∃ outer, outer < id ∧ id < outline.size ∧
      (outline.region id).parent? = some outer := by
  induction stacked with
  | nil => exact fun id member => absurd member List.not_mem_nil
  | cons _ known later linked ih =>
    intro id member
    rcases List.mem_cons.1 member with rfl | outer
    · exact ⟨_, later, known, linked⟩
    · exact ih id outer

theorem le_head (stacked : Stacked outline opened) :
    ∀ id ∈ opened, id ≤ opened.headD rootId := by
  induction stacked with
  | nil => exact fun id member => absurd member List.not_mem_nil
  | cons _ known later linked ih =>
    intro id member
    rcases List.mem_cons.1 member with rfl | outer
    · exact Nat.le_refl _
    · exact Nat.le_trans (ih id outer) (Nat.le_of_lt later)

/-- The open regions stay open in an outline that has their numbers and links them alike. -/
theorem transfer {changed : Outline} (stacked : Stacked outline opened)
    (sized : outline.size ≤ changed.size)
    (linked : ∀ id ∈ opened, (changed.region id).parent? = (outline.region id).parent?) :
    Stacked changed opened := by
  induction stacked with
  | nil => exact .nil
  | @cons id outer around known later link ih =>
    refine .cons (ih fun other member => linked other (List.mem_cons_of_mem id member))
      (Nat.lt_of_lt_of_le known sized) later ?_
    rw [linked id List.mem_cons_self]
    exact link

end Stacked

namespace Numbered

variable {outline : Outline} {opened merged : List Nat}

theorem inside_facts (numbered : Numbered outline opened merged) {outer inner : Nat}
    (inside : outline.Inside opened outer inner) :
    outer < inner ∧ inner < outline.size ∧ (outline.region inner).parent? = some outer := by
  rcases inside with lists | ⟨member, linked⟩
  · exact numbered.listed outer inner lists
  · obtain ⟨parent, later, known, same⟩ := numbered.stacked.facts_of_mem inner member
    cases Option.some.inj (linked.symm.trans same)
    exact ⟨later, known, same⟩

theorem inside_unique (numbered : Numbered outline opened merged) {outer other inner : Nat}
    (first : outline.Inside opened outer inner) (second : outline.Inside opened other inner) :
    outer = other :=
  Option.some.inj ((numbered.inside_facts first).2.2.symm.trans
    (numbered.inside_facts second).2.2)

theorem blank (document : Document) : Numbered (Outline.blank document) [] [] := by
  have childless : ∀ outer inner, ¬ (Outline.blank document).Lists outer inner := by
    intro outer inner lists
    cases outer with
    | zero => exact absurd lists (Array.not_mem_empty inner)
    | succ outer => exact absurd lists (Array.not_mem_empty inner)
  have outside : ∀ outer inner, ¬ (Outline.blank document).Inside [] outer inner := by
    rintro outer inner (lists | ⟨member, -⟩)
    · exact childless outer inner lists
    · exact absurd member List.not_mem_nil
  refine ⟨Nat.zero_lt_one, .nil, fun id member => absurd member List.not_mem_nil,
    fun outer inner lists => absurd lists (childless outer inner), ?_,
    fun outer inner _ _ inside => absurd inside (outside outer inner),
    fun id member => absurd member List.not_mem_nil,
    fun id member => absurd member List.not_mem_nil, List.nodup_nil, ?_⟩
  · intro outer
    cases outer with
    | zero => exact List.Pairwise.nil
    | succ outer => exact List.Pairwise.nil
  · intro id later known
    change id < 1 at known
    exact absurd later (by rw [rootId]; omega)

/-- Changes that leave numbers, lists and links alone keep the invariant. -/
theorem congr {changed : Outline} (numbered : Numbered outline opened merged)
    (size : changed.size = outline.size)
    (lists : ∀ id, (changed.region id).children = (outline.region id).children)
    (links : ∀ id, (changed.region id).parent? = (outline.region id).parent?) :
    Numbered changed opened merged := by
  have listed : ∀ outer inner, changed.Lists outer inner ↔ outline.Lists outer inner := by
    intro outer inner
    unfold Lists
    rw [lists]
  have inside : ∀ outer inner,
      changed.Inside opened outer inner ↔ outline.Inside opened outer inner := by
    intro outer inner
    unfold Inside
    rw [listed, links]
  refine ⟨?_, numbered.stacked.transfer (Nat.le_of_eq size.symm) fun id _ => links id, ?_, ?_, ?_,
    ?_, ?_, ?_, numbered.distinct, ?_⟩
  · rw [size]
    exact numbered.positive
  · simp only [listed]
    exact numbered.unlisted
  · simp only [listed, size, links]
    exact numbered.listed
  · simp only [lists]
    exact numbered.sorted
  · simp only [inside]
    exact numbered.uncrossed
  · simp only [inside]
    exact numbered.around
  · simp only [inside, size, lists]
    exact numbered.gone
  · simp only [inside, size]
    exact numbered.accounted

theorem inside_add (numbered : Numbered outline opened merged) (draft : Draft)
    (outer inner : Nat) :
    (outline.add draft (opened.headD rootId)).Inside (outline.size :: opened) outer inner ↔
      outline.Inside opened outer inner ∨
        inner = outline.size ∧ outer = opened.headD rootId := by
  have old : ∀ id ∈ opened, ((outline.add draft (opened.headD rootId)).region id).parent? =
      (outline.region id).parent? := by
    intro id member
    obtain ⟨_, -, known, -⟩ := numbered.stacked.facts_of_mem id member
    rw [outline.region_add_other draft _ (Nat.ne_of_lt known)]
  have new := outline.region_add_self draft (opened.headD rootId)
  unfold Inside Lists
  rw [children_add]
  constructor
  · rintro (lists | ⟨member, linked⟩)
    · exact Or.inl (Or.inl lists)
    · rcases List.mem_cons.1 member with rfl | before
      · rw [new] at linked
        exact Or.inr ⟨rfl, (Option.some.inj linked).symm⟩
      · rw [old inner before] at linked
        exact Or.inl (Or.inr ⟨before, linked⟩)
  · rintro ((lists | ⟨before, linked⟩) | ⟨rfl, rfl⟩)
    · exact Or.inl lists
    · refine Or.inr ⟨List.mem_cons_of_mem _ before, ?_⟩
      rw [old inner before]
      exact linked
    · refine Or.inr ⟨List.mem_cons_self, ?_⟩
      rw [new]

theorem head_lt_size (numbered : Numbered outline opened merged) :
    opened.headD rootId < outline.size := by
  cases opened with
  | nil => exact numbered.positive
  | cons id outer =>
    obtain ⟨_, -, known, -⟩ := numbered.stacked.facts_of_mem id List.mem_cons_self
    exact known

theorem add (numbered : Numbered outline opened merged) (draft : Draft) :
    Numbered (outline.add draft (opened.headD rootId)) (outline.size :: opened) merged := by
  have inside := numbered.inside_add draft
  have head := numbered.head_lt_size
  have old : ∀ id, id < outline.size →
      (outline.add draft (opened.headD rootId)).region id = outline.region id :=
    fun id known => outline.region_add_other draft _ (Nat.ne_of_lt known)
  have lists : ∀ outer inner, (outline.add draft (opened.headD rootId)).Lists outer inner ↔
      outline.Lists outer inner := by
    intro outer inner
    unfold Lists
    rw [children_add]
  refine ⟨?_, ?_, ?_, ?_, ?_, ?_, ?_, ?_, numbered.distinct, ?_⟩
  · rw [size_add]
    omega
  · refine .cons (numbered.stacked.transfer (by rw [size_add]; omega) ?_) (by rw [size_add]; omega)
      head (by rw [outline.region_add_self])
    intro id member
    obtain ⟨_, -, known, -⟩ := numbered.stacked.facts_of_mem id member
    rw [old id known]
  · intro id member outer listed
    rw [lists] at listed
    rcases List.mem_cons.1 member with rfl | before
    · exact absurd (numbered.listed outer _ listed).2.1 (Nat.lt_irrefl _)
    · exact numbered.unlisted id before outer listed
  · intro outer inner listed
    rw [lists] at listed
    obtain ⟨later, known, linked⟩ := numbered.listed outer inner listed
    rw [old inner known, size_add]
    exact ⟨later, by omega, linked⟩
  · intro outer
    rw [children_add]
    exact numbered.sorted outer
  · intro outer inner other between first second above below
    rcases (inside outer inner).1 first with first | ⟨rfl, rfl⟩
    · rcases (inside other between).1 second with second | ⟨rfl, -⟩
      · exact numbered.uncrossed outer inner other between first second above below
      · have known := (numbered.inside_facts first).2.1
        omega
    · rcases (inside other between).1 second with second | ⟨rfl, -⟩
      · -- What has a number behind the innermost open region lies inside it.
        cases opened with
        | nil => exact Nat.zero_le _
        | cons id outer =>
          exact numbered.around id List.mem_cons_self other between second above
      · exact absurd below (Nat.lt_irrefl _)
  · intro id member outer inner contained later
    rcases (inside outer inner).1 contained with before | ⟨rfl, rfl⟩
    · rcases List.mem_cons.1 member with rfl | open'
      · have known := (numbered.inside_facts before).2.1
        omega
      · exact numbered.around id open' outer inner before later
    · rcases List.mem_cons.1 member with rfl | open'
      · exact absurd later (Nat.lt_irrefl _)
      · exact numbered.stacked.le_head id open'
  · intro id member
    obtain ⟨later, known, outside, childless⟩ := numbered.gone id member
    rw [size_add, old id known]
    refine ⟨later, by omega, ?_, childless⟩
    intro outer contained
    rcases (inside outer id).1 contained with before | ⟨rfl, -⟩
    · exact outside outer before
    · exact absurd known (Nat.lt_irrefl _)
  · intro id later known
    rw [size_add] at known
    by_cases new : id = outline.size
    · exact Or.inl ⟨_, (inside _ id).2 (Or.inr ⟨new, rfl⟩)⟩
    · rcases numbered.accounted id later (by omega) with ⟨outer, before⟩ | dropped
      · exact Or.inl ⟨outer, (inside outer id).2 (Or.inl before)⟩
      · exact Or.inr dropped

theorem close (numbered : Numbered outline opened merged) (id stop : Nat) :
    Numbered (outline.close id stop) opened merged := by
  refine numbered.congr (size_close ..) (fun other => ?_) (fun other => ?_)
  · refine outline.field_modify id other Region.children ?_
    exact fun _ => rfl
  · refine outline.field_modify id other Region.parent? ?_
    exact fun _ => rfl

section Finish

variable {id : Nat}

theorem inside_head (numbered : Numbered outline (id :: opened) merged) :
    outline.Inside (id :: opened) (opened.headD rootId) id := by
  rcases numbered.stacked with _ | ⟨-, -, -, linked⟩
  exact Or.inr ⟨List.mem_cons_self, linked⟩

theorem head_lt (numbered : Numbered outline (id :: opened) merged) :
    opened.headD rootId < id :=
  (numbered.inside_facts numbered.inside_head).1

theorem open_lt (numbered : Numbered outline (id :: opened) merged) {other : Nat}
    (member : other ∈ opened) : other < id := by
  rcases numbered.stacked with _ | ⟨around, -, later, -⟩
  exact Nat.lt_of_le_of_lt (around.le_head other member) later

/-- What is listed so far has a smaller number than the innermost open region, unless it is listed
there. -/
theorem listed_lt (numbered : Numbered outline (id :: opened) merged) {outer inner : Nat}
    (lists : outline.Lists outer inner) (earlier : outer < id) : inner < id := by
  have apart : inner ≠ id := by
    rintro rfl
    exact numbered.unlisted inner List.mem_cons_self outer lists
  have behind := numbered.around id List.mem_cons_self outer inner (Or.inl lists)
  omega

theorem lists_of_inside (numbered : Numbered outline (id :: opened) merged) {inner : Nat}
    (inside : outline.Inside (id :: opened) id inner) : outline.Lists id inner := by
  have later := (numbered.inside_facts inside).1
  rcases inside with lists | ⟨member, -⟩
  · exact lists
  · rcases List.mem_cons.1 member with rfl | outer
    · exact absurd later (Nat.lt_irrefl _)
    · have before := numbered.open_lt outer
      omega

theorem lists_settle (numbered : Numbered outline (id :: opened) merged)
    (previous? : Option Nat) (outer inner : Nat) :
    (outline.settle id (opened.headD rootId) previous?).Lists outer inner ↔
      outline.Lists outer inner ∨ outer = opened.headD rootId ∧ inner = id := by
  obtain ⟨later, known, -⟩ := numbered.inside_facts numbered.inside_head
  unfold Lists
  by_cases same : outer = opened.headD rootId
  · rw [same, outline.region_settle_parent previous? (Nat.lt_trans later known)
      (Nat.ne_of_gt later)]
    simp only [Array.mem_push, true_and]
  · rw [outline.children_settle_other id _ previous? same]
    simp only [same, false_and, or_false]

/-- Settling a region moves it from the open regions to the list of the region around it. -/
theorem inside_settle (numbered : Numbered outline (id :: opened) merged)
    (previous? : Option Nat) (outer inner : Nat) :
    (outline.settle id (opened.headD rootId) previous?).Inside opened outer inner ↔
      outline.Inside (id :: opened) outer inner := by
  have linked := (numbered.inside_facts numbered.inside_head).2.2
  unfold Inside
  rw [numbered.lists_settle, outline.parent?_settle]
  constructor
  · rintro ((lists | ⟨rfl, rfl⟩) | ⟨member, inOuter⟩)
    · exact Or.inl lists
    · exact Or.inr ⟨List.mem_cons_self, linked⟩
    · exact Or.inr ⟨List.mem_cons_of_mem id member, inOuter⟩
  · rintro (lists | ⟨member, inOuter⟩)
    · exact Or.inl (Or.inl lists)
    · rcases List.mem_cons.1 member with rfl | before
      · exact Or.inl (Or.inr ⟨Option.some.inj (inOuter.symm.trans linked), rfl⟩)
      · exact Or.inr ⟨before, inOuter⟩

theorem settle (numbered : Numbered outline (id :: opened) merged) (previous? : Option Nat) :
    Numbered (outline.settle id (opened.headD rootId) previous?) opened merged := by
  have lists := numbered.lists_settle previous?
  have inside := numbered.inside_settle previous?
  obtain ⟨later, known, linked⟩ := numbered.inside_facts numbered.inside_head
  have parentKnown : opened.headD rootId < outline.size := Nat.lt_trans later known
  refine ⟨?_, ?_, ?_, ?_, ?_, ?_, ?_, ?_, numbered.distinct, ?_⟩
  · rw [size_settle]
    exact numbered.positive
  · rcases numbered.stacked with _ | ⟨around, -, -, -⟩
    exact around.transfer (Nat.le_of_eq (size_settle ..).symm)
      fun other _ => outline.parent?_settle id _ previous? other
  · intro other member outer listed
    rcases (lists outer other).1 listed with before | ⟨-, rfl⟩
    · exact numbered.unlisted other (List.mem_cons_of_mem id member) outer before
    · exact absurd (numbered.open_lt member) (Nat.lt_irrefl _)
  · intro outer inner listed
    rw [size_settle, outline.parent?_settle]
    rcases (lists outer inner).1 listed with before | ⟨rfl, rfl⟩
    · exact numbered.listed outer inner before
    · exact ⟨later, known, linked⟩
  · intro outer
    by_cases same : outer = opened.headD rootId
    · rw [same, outline.region_settle_parent previous? parentKnown (Nat.ne_of_gt later),
        Array.toList_push, List.pairwise_append]
      refine ⟨numbered.sorted _, List.pairwise_singleton _ _, ?_⟩
      intro sibling member last isLast
      rw [List.mem_singleton.1 isLast]
      exact numbered.listed_lt (Array.mem_toList_iff.1 member) later
    · rw [outline.children_settle_other id _ previous? same]
      exact numbered.sorted outer
  · simp only [inside]
    exact numbered.uncrossed
  · simp only [inside]
    exact fun other member => numbered.around other (List.mem_cons_of_mem id member)
  · intro other member
    obtain ⟨positive, used, outside, childless⟩ := numbered.gone other member
    have apart : other ≠ opened.headD rootId := by
      rintro rfl
      cases opened with
      | nil => exact absurd positive (Nat.lt_irrefl _)
      | cons innermost outer =>
        obtain ⟨parent, -, -, around⟩ := numbered.stacked.facts_of_mem innermost
          (List.mem_cons_of_mem id List.mem_cons_self)
        exact outside parent (Or.inr ⟨List.mem_cons_of_mem id List.mem_cons_self, around⟩)
    simp only [inside, size_settle, outline.children_settle_other id _ previous? apart]
    exact ⟨positive, used, outside, childless⟩
  · simp only [inside, size_settle]
    exact numbered.accounted

theorem le_last (numbered : Numbered outline opened merged) {outer inner last : Nat}
    (isLast : (outline.region outer).children.back? = some last)
    (lists : outline.Lists outer inner) : inner ≤ last := by
  have increasing := numbered.sorted outer
  rw [← Array.getLast?_toList, List.getLast?_eq_some_iff] at isLast
  obtain ⟨front, split⟩ := isLast
  unfold Lists at lists
  rw [← Array.mem_toList_iff, split] at lists
  rw [split, List.pairwise_append] at increasing
  rcases List.mem_append.1 lists with before | same
  · exact Nat.le_of_lt (increasing.2.2 inner before last List.mem_cons_self)
  · exact Nat.le_of_eq (List.mem_singleton.1 same)

theorem ne_last (numbered : Numbered outline opened merged) {outer parent index first second last}
    (isLast : (outline.region parent).children.back? = some last)
    (here : (outline.region outer).children[index]? = some first)
    (behind : (outline.region outer).children[index + 1]? = some second) : first ≠ last := by
  rintro rfl
  have same := numbered.inside_unique (Or.inl (Array.mem_of_getElem? here))
    (Or.inl (Array.mem_of_back? isLast))
  subst same
  have noLater := numbered.le_last isLast (Array.mem_of_getElem? behind)
  obtain ⟨known, atIndex⟩ := Array.getElem?_eq_some_iff.1 here
  obtain ⟨further, next⟩ := Array.getElem?_eq_some_iff.1 behind
  have increasing := List.pairwise_iff_getElem.1 (numbered.sorted outer) index (index + 1) known
    further (Nat.lt_succ_self index)
  rw [Array.getElem_toList, Array.getElem_toList, atIndex, next] at increasing
  omega

theorem parent?_absorb (numbered : Numbered outline opened merged) (target id other : Nat) :
    ((outline.absorb target id).region other).parent? =
      if other ∈ (outline.region id).children then some target
      else (outline.region other).parent? :=
  outline.parent?_absorb target other fun child member => (numbered.listed id child member).2.1

section Absorb

variable {last : Nat} (numbered : Numbered outline (id :: opened) merged)
  (isLast : (outline.region (opened.headD rootId)).children.back? = some last)
include numbered isLast

/-- A region is merged into one with a smaller number inside the same region. -/
theorem absorb_facts : outline.Lists (opened.headD rootId) last ∧ opened.headD rootId < last ∧
    last < id ∧ id < outline.size := by
  have lists : outline.Lists (opened.headD rootId) last := Array.mem_of_back? isLast
  obtain ⟨later, known, -⟩ := numbered.inside_facts numbered.inside_head
  exact ⟨lists, (numbered.listed _ last lists).1, numbered.listed_lt lists later, known⟩

theorem lists_absorb (outer inner : Nat) :
    (outline.absorb last id).Lists outer inner ↔
      outer ≠ id ∧ outline.Lists outer inner ∨ outer = last ∧ outline.Lists id inner := by
  obtain ⟨-, -, earlier, known⟩ := numbered.absorb_facts isLast
  have apart : last ≠ id := Nat.ne_of_lt earlier
  unfold Lists
  rw [outline.children_absorb (Nat.lt_trans earlier known) apart]
  by_cases taker : outer = last
  · subst taker
    simp only [↓reduceIte, Array.mem_append, ne_eq, apart, not_false_eq_true, true_and]
  · by_cases gone : outer = id
    · simp only [gone, Ne.symm apart, ↓reduceIte, Array.not_mem_empty, ne_eq, not_true_eq_false,
        false_and, or_self]
    · simp only [taker, gone, ↓reduceIte, ne_eq, not_false_eq_true, true_and, false_and, or_false]

/-- Merging a region leaves the others where they are, but those inside it go to the region that
it is merged into. -/
theorem inside_absorb (outer inner : Nat) :
    (outline.absorb last id).Inside opened outer inner ↔
      inner ≠ id ∧ outer ≠ id ∧ outline.Inside (id :: opened) outer inner ∨
        outer = last ∧ outline.Lists id inner := by
  have stays : ∀ other ∈ opened, ((outline.absorb last id).region other).parent? =
      (outline.region other).parent? := by
    intro other member
    rw [numbered.parent?_absorb]
    exact if_neg (numbered.unlisted other (List.mem_cons_of_mem id member) id)
  unfold Inside
  rw [numbered.lists_absorb isLast]
  constructor
  · rintro ((⟨outside, lists⟩ | taken) | ⟨member, linked⟩)
    · refine Or.inl ⟨?_, outside, Or.inl lists⟩
      rintro rfl
      exact numbered.unlisted inner List.mem_cons_self outer lists
    · exact Or.inr taken
    · rw [stays inner member] at linked
      have contained : outline.Inside (id :: opened) outer inner :=
        Or.inr ⟨List.mem_cons_of_mem id member, linked⟩
      have before := numbered.open_lt member
      have later := (numbered.inside_facts contained).1
      exact Or.inl ⟨by omega, by omega, contained⟩
  · rintro (⟨different, outside, lists | ⟨member, linked⟩⟩ | taken)
    · exact Or.inl (Or.inl ⟨outside, lists⟩)
    · have before := (List.mem_cons.1 member).resolve_left different
      refine Or.inr ⟨before, ?_⟩
      rw [stays inner before]
      exact linked
    · exact Or.inl (Or.inr taken)

theorem absorb_uncrossed {outer inner other between : Nat}
    (first : (outline.absorb last id).Inside opened outer inner)
    (second : (outline.absorb last id).Inside opened other between)
    (above : outer < between) (below : between < inner) : outer ≤ other := by
  obtain ⟨listsLast, afterParent, earlier, -⟩ := numbered.absorb_facts isLast
  have uncrossed := numbered.uncrossed
  rw [numbered.inside_absorb isLast] at first second
  rcases first with ⟨innerStays, outerStays, first⟩ | ⟨rfl, taken⟩
  · rcases second with ⟨-, -, second⟩ | ⟨rfl, taken⟩
    · exact uncrossed outer inner other between first second above below
    · -- The region between was inside the merged one, so that one comes behind `outer` too.
      have behind := (numbered.listed id between taken).1
      have notAfter := uncrossed outer inner id between first (Or.inl taken) above below
      have around := uncrossed outer inner _ id first numbered.inside_head (by omega) (by omega)
      omega
  · rcases second with ⟨betweenStays, otherStays, second⟩ | ⟨rfl, -⟩
    · by_cases behind : id < between
      · have inMerged := uncrossed id inner other between (Or.inl taken) second behind below
        omega
      · -- Between the two siblings there is only what lies inside the first.
        apply Decidable.byContradiction
        intro outside
        have notInside := uncrossed other between _ outer second (Or.inl listsLast) (by omega) above
        have inParent := uncrossed _ id other between numbered.inside_head second (by omega)
          (by omega)
        have same : other = opened.headD rootId := Nat.le_antisymm notInside inParent
        subst same
        rcases second with lists | ⟨member, -⟩
        · have noLater := numbered.le_last isLast lists
          omega
        · have open' := (List.mem_cons.1 member).resolve_left betweenStays
          rcases numbered.stacked with _ | ⟨stacked, -, -, -⟩
          have noLater := stacked.le_head between open'
          omega
    · exact Nat.le_refl _

theorem absorb_sorted (outer : Nat) :
    ((outline.absorb last id).region outer).children.toList.Pairwise (· < ·) := by
  obtain ⟨-, -, earlier, known⟩ := numbered.absorb_facts isLast
  rw [outline.children_absorb (Nat.lt_trans earlier known) (Nat.ne_of_lt earlier)]
  split
  · rw [Array.toList_append, List.pairwise_append]
    refine ⟨numbered.sorted last, numbered.sorted id, ?_⟩
    intro left inLast right inMerged
    have before := numbered.listed_lt (Array.mem_toList_iff.1 inLast) earlier
    have behind := (numbered.listed id right (Array.mem_toList_iff.1 inMerged)).1
    omega
  · split
    · exact List.Pairwise.nil
    · exact numbered.sorted outer

theorem absorb_listed {outer inner : Nat} (lists : (outline.absorb last id).Lists outer inner) :
    outer < inner ∧ inner < outline.size ∧
      ((outline.absorb last id).region inner).parent? = some outer := by
  obtain ⟨-, -, earlier, -⟩ := numbered.absorb_facts isLast
  rw [numbered.parent?_absorb]
  rcases (numbered.lists_absorb isLast outer inner).1 lists with ⟨outside, before⟩ | ⟨rfl, taken⟩
  · obtain ⟨later, known, linked⟩ := numbered.listed outer inner before
    have notTaken : inner ∉ (outline.region id).children := by
      intro taken
      exact outside (numbered.inside_unique (Or.inl before) (Or.inl taken))
    rw [if_neg notTaken]
    exact ⟨later, known, linked⟩
  · obtain ⟨later, known, -⟩ := numbered.listed id inner taken
    exact ⟨by omega, known, if_pos taken⟩

theorem absorb_gone {other : Nat} (member : other ∈ merged ++ [id]) :
    rootId < other ∧ other < outline.size ∧
      (∀ outer, ¬ (outline.absorb last id).Inside opened outer other) ∧
      ((outline.absorb last id).region other).children = #[] := by
  obtain ⟨listsLast, afterParent, earlier, known⟩ := numbered.absorb_facts isLast
  have inside := numbered.inside_absorb isLast
  rw [outline.children_absorb (Nat.lt_trans earlier known) (Nat.ne_of_lt earlier)]
  rcases List.mem_append.1 member with before | now
  · obtain ⟨positive, used, outside, childless⟩ := numbered.gone other before
    have notLast : other ≠ last := by
      rintro rfl
      exact outside _ (Or.inl listsLast)
    refine ⟨positive, used, ?_, ?_⟩
    · intro outer contained
      rcases (inside outer other).1 contained with ⟨-, -, old⟩ | ⟨-, taken⟩
      · exact outside outer old
      · exact outside id (Or.inl taken)
    · rw [if_neg notLast, childless, ite_self]
  · rw [List.mem_singleton.1 now, if_neg (Nat.ne_of_gt earlier), if_pos rfl]
    refine ⟨Nat.zero_lt_of_lt earlier, known, ?_, rfl⟩
    intro outer contained
    rcases (inside outer id).1 contained with ⟨stays, -⟩ | ⟨-, taken⟩
    · exact stays rfl
    · exact absurd (numbered.listed id id taken).1 (Nat.lt_irrefl _)

theorem absorb : Numbered (outline.absorb last id) opened (merged ++ [id]) := by
  obtain ⟨listsLast, afterParent, earlier, known⟩ := numbered.absorb_facts isLast
  have inside := numbered.inside_absorb isLast
  refine ⟨?_, ?_, ?_, ?_, numbered.absorb_sorted isLast, ?_, ?_, ?_, ?_, ?_⟩
  · rw [size_absorb]
    exact numbered.positive
  · rcases numbered.stacked with _ | ⟨around, -, -, -⟩
    refine around.transfer (Nat.le_of_eq (size_absorb ..).symm) ?_
    intro other member
    rw [numbered.parent?_absorb]
    exact if_neg (numbered.unlisted other (List.mem_cons_of_mem id member) id)
  · intro other member outer lists
    rcases (numbered.lists_absorb isLast outer other).1 lists with ⟨-, before⟩ | ⟨-, taken⟩
    · exact numbered.unlisted other (List.mem_cons_of_mem id member) outer before
    · exact numbered.unlisted other (List.mem_cons_of_mem id member) id taken
  · intro outer inner lists
    rw [size_absorb]
    exact numbered.absorb_listed isLast lists
  · intro outer inner other between first second above below
    exact numbered.absorb_uncrossed isLast first second above below
  · intro other member outer inner contained later
    rcases (inside outer inner).1 contained with ⟨-, -, before⟩ | ⟨rfl, -⟩
    · exact numbered.around other (List.mem_cons_of_mem id member) outer inner before later
    · rcases numbered.stacked with _ | ⟨stacked, -, -, -⟩
      have noLater := stacked.le_head other member
      omega
  · intro other member
    rw [size_absorb]
    exact numbered.absorb_gone isLast member
  · have new : id ∉ merged := by
      intro member
      exact (numbered.gone id member).2.2.1 _ numbered.inside_head
    rw [List.nodup_append]
    refine ⟨numbered.distinct, List.pairwise_singleton _ _, ?_⟩
    intro other member last' same
    rw [List.mem_singleton.1 same]
    rintro rfl
    exact new member
  · intro other later used
    rw [size_absorb] at used
    by_cases same : other = id
    · rw [same]
      exact Or.inr (List.mem_append_right merged List.mem_cons_self)
    · rcases numbered.accounted other later used with ⟨outer, before⟩ | dropped
      · by_cases moved : outer = id
        · subst moved
          exact Or.inl ⟨last, (inside last other).2 (Or.inr ⟨rfl, numbered.lists_of_inside before⟩)⟩
        · exact Or.inl ⟨outer, (inside outer other).2 (Or.inl ⟨same, moved, before⟩)⟩
      · exact Or.inr (List.mem_append_left [id] dropped)

end Absorb

/-- Finishing the innermost open region keeps the invariant, and the record tells whether it was
merged. -/
theorem finish {σ : Type} (numbered : Numbered outline (id :: opened) merged)
    (dialect : Dialect σ) {done : σ × List Call} (recorded : Call.merges done.2 = merged) :
    Numbered (dialect.recorded.finish done outline id).2 opened
      (Call.merges (dialect.recorded.finish done outline id).1.2) := by
  have linked := (numbered.inside_facts numbered.inside_head).2.2
  rcases dialect.recorded_finish_cases done linked with
    ⟨settled, same⟩ | ⟨last, isLast, absorbed, more⟩
  · rw [settled, same, recorded]
    exact numbered.settle _
  · rw [absorbed, more, recorded]
    exact numbered.absorb isLast

end Finish

end Numbered

end Outline

namespace Scan

open Outline (Numbered)

variable {σ : Type} (dialect : Dialect σ)

/-- The invariant of a scan that keeps a record. -/
def Counts (scan : Scan (σ × List Call)) : Prop :=
  Numbered scan.outline scan.opened (Call.merges scan.state.2)

theorem start_counts (state : σ) (document : Document) (tokens : List Token) :
    (Scan.start dialect.recorded (state, []) document tokens).Counts :=
  Numbered.blank document

theorem Counts.step {scan : Scan (σ × List Call)} (counts : scan.Counts) (next : Cursor) :
    (scan.step dialect.recorded next).Counts := by
  have move := step_move dialect.recorded scan next
  generalize scan.step dialect.recorded next = after at move
  unfold Counts at counts
  cases move with
  | @complete started state first draft starts found ended done finished =>
    have quiet : Call.merges state.2 = Call.merges scan.state.2 := by
      rw [Dialect.record_of_found found, Dialect.record_of_start starts]
      simp [Call.merges]
    have kept := (counts.add draft).finish dialect quiet
    change Numbered (dialect.recorded.finish state (scan.outline.add draft scan.parent) _).2 _
      (Call.merges (dialect.recorded.finish state (scan.outline.add draft scan.parent) _).1.2)
      at kept
    rw [finished] at kept
    rw [Counts, Dialect.record_resume, Call.merges_resume]
    exact kept
  | @unended started state first draft starts found unended =>
    have quiet : Call.merges (dialect.recorded.resume state).2 = Call.merges scan.state.2 := by
      rw [Dialect.record_resume, Dialect.record_of_found found, Dialect.record_of_start starts]
      simp [Call.merges]
    rw [Counts, quiet]
    exact counts.add draft
  | @close quiet state stop id outer unstarted closes innermost done finished =>
    have quiet : Call.merges state.2 = Call.merges scan.state.2 := by
      rw [Dialect.record_of_close closes, Dialect.record_of_start unstarted]
      simp [Call.merges]
    rw [innermost] at counts
    have kept := (counts.close id stop).finish dialect quiet
    rw [finished] at kept
    rw [Counts, Dialect.record_resume, Call.merges_resume]
    exact kept
  | stray unstarted closes outermost =>
    rw [Counts, Dialect.record_of_close closes, Dialect.record_of_start unstarted]
    simpa [Call.merges] using counts
  | pass unstarted unclosed =>
    rw [Counts, Dialect.record_of_close unclosed, Dialect.record_of_start unstarted]
    simpa [Call.merges] using counts

theorem run_counts (state : σ) (document : Document) (tokens : List Token) :
    ((Scan.start dialect.recorded (state, []) document tokens).run dialect.recorded).Counts :=
  run_induction dialect.recorded Counts (fun _ next counts _ => counts.step dialect next) _
    (start_counts dialect state document tokens)

theorem Counts.drain {scan : Scan (σ × List Call)} (counts : scan.Counts) :
    Numbered (scan.drain dialect.recorded).2 []
      (Call.merges (scan.drain dialect.recorded).1.2) := by
  obtain ⟨cursor, outline, opened, done⟩ := scan
  unfold Counts at counts
  dsimp only [Scan.drain] at counts ⊢
  induction opened generalizing outline done with
  | nil => exact counts
  | cons id outer ih =>
    rw [List.foldl_cons]
    exact ih _ _ (counts.finish dialect rfl)

end Scan

/-- In every dialect, the numbers of an outline that are not in use belong to the regions that were
merged. -/
theorem Dialect.outline_numbered {σ : Type} (dialect : Dialect σ) (state : σ)
    (document : Document) (tokens : List Token) :
    (dialect.outline state document tokens).2.Numbered []
      (Call.merges (dialect.record state document tokens)) := by
  have counts := (Scan.run_counts dialect state document tokens).drain dialect
  change (dialect.recorded.outline (state, []) document tokens).2.Numbered []
    (Call.merges (dialect.recorded.outline (state, []) document tokens).1.2) at counts
  rw [dialect.recorded_outline] at counts
  exact counts

end CodeFolding
