import CodeFolding.Proofs.Outline.Numbering
import Mathlib.Data.List.Nodup
import Mathlib.Data.List.Perm.Basic

set_option autoImplicit false

namespace CodeFolding

namespace Outline

/-- The walk through the regions `pending` and all regions inside them ends, and meets the regions
`order`. Nothing bounds the number of its steps. -/
inductive Visits (outline : Outline) : List Nat → List Nat → Prop
  | done : Visits outline [] []
  | next {id : Nat} {pending order : List Nat}
      (rest : Visits outline ((outline.region id).children.toList ++ pending) order) :
      Visits outline (id :: pending) (id :: order)

/-- A walk that ends is not cut short by a bound that its length does not reach. -/
theorem Visits.walk_eq {outline : Outline} {pending order : List Nat}
    (visits : Visits outline pending order) {bound : Nat} (enough : order.length ≤ bound) :
    outline.walk bound pending = order := by
  induction visits generalizing bound with
  | done => cases bound <;> rfl
  | next rest ih =>
    rw [List.length_cons] at enough
    cases bound with
    | zero => omega
    | succ bound => rw [walk, ih (by omega)]

/-- What holds of the regions of an outline and the regions `merged` that have become parts of
others. -/
structure TreeShaped (outline : Outline) (merged : List Nat) : Prop where
  once : ∀ outer, (outline.region outer).children.toList.Nodup
  unique : ∀ outer other inner, outline.Lists outer inner → outline.Lists other inner →
    outer = other
  linked : ∀ outer inner, outline.Lists outer inner →
    (outline.region inner).parent? = some outer ∧ outer < inner ∧ inner < outline.size
  ends : outline.Visits (outline.region rootId).children.toList outline.descendants
  mem_descendants : ∀ id, id ∈ outline.descendants ↔ ∃ outer, outline.Lists outer id
  increasing : outline.descendants.Pairwise (· < ·)
  mem_merged : ∀ id, id ∈ merged ↔
    id ≠ rootId ∧ id < outline.size ∧ id ∉ outline.descendants
  childless : ∀ id ∈ merged, (outline.region id).children = #[]
  size_eq : outline.size = 1 + outline.descendants.length + merged.length

namespace Numbered

variable {outline : Outline} {merged : List Nat}

theorem inside_iff_lists {outer inner : Nat} :
    outline.Inside [] outer inner ↔ outline.Lists outer inner := by
  simp only [Inside, List.not_mem_nil, false_and, or_false]

/-- Once no region is open, every region that lists another is the root or listed itself. -/
theorem exists_lists_of_lists (numbered : Numbered outline [] merged) {outer inner : Nat}
    (lists : outline.Lists outer inner) (below : rootId < outer) :
    ∃ further, outline.Lists further outer := by
  obtain ⟨later, known, -⟩ := numbered.listed outer inner lists
  rcases numbered.accounted outer below (Nat.lt_trans later known) with ⟨further, inside⟩ | gone
  · exact ⟨further, inside_iff_lists.1 inside⟩
  · unfold Lists at lists
    rw [(numbered.gone outer gone).2.2.2] at lists
    exact absurd lists (Array.not_mem_empty inner)

/-- The regions to come when a walk has met all those with numbers below `bound`: those inside the
ones that it has met, from left to right. -/
structure Ahead (outline : Outline) (bound : Nat) (pending : List Nat) : Prop where
  increasing : pending.Pairwise (· < ·)
  mem_iff : ∀ id, id ∈ pending ↔ bound ≤ id ∧ ∃ outer, outer < bound ∧ outline.Lists outer id

/-- Of the listed regions from `bound` on, the first one is to come next. -/
theorem exists_ahead_le (numbered : Numbered outline [] merged) {bound : Nat}
    {pending : List Nat} (positive : 0 < bound) (ahead : Ahead outline bound pending) {id : Nat}
    (reached : bound ≤ id) (listed : ∃ outer, outline.Lists outer id) :
    ∃ next ∈ pending, next ≤ id := by
  induction id using Nat.strongRecOn with
  | ind id ih =>
    obtain ⟨outer, lists⟩ := listed
    by_cases met : outer < bound
    · exact ⟨id, (ahead.mem_iff id).2 ⟨reached, outer, met, lists⟩, Nat.le_refl _⟩
    · have earlier := (numbered.listed outer id lists).1
      have further := numbered.exists_lists_of_lists lists
        (Nat.lt_of_lt_of_le positive (Nat.le_of_not_lt met))
      obtain ⟨next, member, before⟩ := ih outer earlier (Nat.le_of_not_lt met) further
      exact ⟨next, member, by omega⟩

/-- A step of the walk: the regions inside the one that is met come before all others. -/
theorem Ahead.step (numbered : Numbered outline [] merged) {bound id : Nat}
    {pending : List Nat} (positive : 0 < bound) (ahead : Ahead outline bound (id :: pending)) :
    Ahead outline (id + 1) ((outline.region id).children.toList ++ pending) := by
  obtain ⟨first, increasing⟩ := List.pairwise_cons.1 ahead.increasing
  obtain ⟨reached, -⟩ := (ahead.mem_iff id).1 List.mem_cons_self
  have later : ∀ other ∈ pending, ∃ outer, outer < bound ∧ outline.Lists outer other := by
    intro other member
    exact ((ahead.mem_iff other).1 (List.mem_cons_of_mem id member)).2
  refine ⟨List.pairwise_append.2 ⟨numbered.sorted id, increasing, ?_⟩, ?_⟩
  · intro inner inId other member
    obtain ⟨outer, met, lists⟩ := later other member
    have behind := first other member
    have apart : inner ≠ other := by
      rintro rfl
      have same := numbered.inside_unique (Or.inl (Array.mem_toList_iff.1 inId)) (Or.inl lists)
      omega
    apply Decidable.byContradiction
    intro notBefore
    -- A region numbered between `id` and one inside it would be inside `id` as well.
    have crossed := numbered.uncrossed id inner outer other
      (Or.inl (Array.mem_toList_iff.1 inId)) (Or.inl lists) behind (by omega)
    omega
  · intro other
    rw [List.mem_append, Array.mem_toList_iff]
    constructor
    · rintro (inId | member)
      · exact ⟨(numbered.listed id other inId).1, id, Nat.lt_succ_self id, inId⟩
      · obtain ⟨outer, met, lists⟩ := later other member
        exact ⟨first other member, outer, by omega, lists⟩
    · rintro ⟨behind, outer, met, lists⟩
      by_cases inside : outer = id
      · exact Or.inl (inside ▸ lists)
      · have notYet : outer < bound := by
          apply Decidable.byContradiction
          intro unmet
          have further := numbered.exists_lists_of_lists lists
            (Nat.lt_of_lt_of_le positive (Nat.le_of_not_lt unmet))
          obtain ⟨next, member, before⟩ :=
            numbered.exists_ahead_le positive ahead (Nat.le_of_not_lt unmet) further
          rcases List.mem_cons.1 member with rfl | rest
          · omega
          · have afterId := first next rest
            omega
        have member := (ahead.mem_iff other).2 ⟨by omega, outer, notYet, lists⟩
        rcases List.mem_cons.1 member with rfl | rest
        · omega
        · exact Or.inr rest

theorem exists_visits (numbered : Numbered outline [] merged) (bound : Nat)
    {pending : List Nat} (positive : 0 < bound) (ahead : Ahead outline bound pending) :
    ∃ order, outline.Visits pending order ∧ order.Pairwise (· < ·) ∧
      ∀ id, id ∈ order ↔ bound ≤ id ∧ ∃ outer, outline.Lists outer id := by
  induction steps : outline.size - bound using Nat.strongRecOn generalizing bound pending with
  | ind steps ih =>
    cases pending with
    | nil =>
      refine ⟨[], .done, List.Pairwise.nil, ?_⟩
      intro id
      constructor
      · exact fun member => absurd member List.not_mem_nil
      · rintro ⟨reached, listed⟩
        obtain ⟨_, member, -⟩ := numbered.exists_ahead_le positive ahead reached listed
        exact absurd member List.not_mem_nil
    | cons id pending =>
      obtain ⟨reached, outer, met, lists⟩ := (ahead.mem_iff id).1 List.mem_cons_self
      have known := (numbered.listed outer id lists).2.1
      obtain ⟨order, visits, increasing, mem_order⟩ := ih (outline.size - (id + 1)) (by omega)
        (id + 1) (Nat.succ_pos id) (ahead.step numbered positive) rfl
      refine ⟨id :: order, .next visits, List.pairwise_cons.2 ⟨?_, increasing⟩, ?_⟩
      · exact fun other member => ((mem_order other).1 member).1
      · intro other
        rw [List.mem_cons, mem_order]
        constructor
        · rintro (rfl | ⟨behind, listed⟩)
          · exact ⟨reached, outer, lists⟩
          · exact ⟨by omega, listed⟩
        · rintro ⟨reached, listed⟩
          obtain ⟨next, member, before⟩ := numbered.exists_ahead_le positive ahead reached listed
          have least : id ≤ next := by
            rcases List.mem_cons.1 member with rfl | rest
            · exact Nat.le_refl _
            · exact Nat.le_of_lt ((List.pairwise_cons.1 ahead.increasing).1 next rest)
          rcases Nat.eq_or_lt_of_le (Nat.le_trans least before) with same | behind
          · exact Or.inl same.symm
          · exact Or.inr ⟨behind, listed⟩

theorem ahead_root (numbered : Numbered outline [] merged) :
    Ahead outline 1 (outline.region rootId).children.toList := by
  refine ⟨numbered.sorted rootId, ?_⟩
  intro id
  rw [Array.mem_toList_iff]
  constructor
  · intro lists
    exact ⟨(numbered.listed rootId id lists).1, rootId, Nat.zero_lt_one, lists⟩
  · rintro ⟨-, outer, isRoot, lists⟩
    cases Nat.lt_one_iff.1 isRoot
    exact lists

/-- The numbers in use are the root's, those of the listed regions and those of the merged
ones. -/
theorem size_eq (numbered : Numbered outline [] merged) {order : List Nat}
    (increasing : order.Pairwise (· < ·))
    (mem_order : ∀ id, id ∈ order ↔ ∃ outer, outline.Lists outer id) :
    outline.size = 1 + order.length + merged.length := by
  have positive := numbered.positive
  have apart : List.Disjoint order merged := by
    intro id listed gone
    obtain ⟨outer, lists⟩ := (mem_order id).1 listed
    exact (numbered.gone id gone).2.2.1 outer (Or.inl lists)
  have numbers : (List.range' 1 (outline.size - 1)).Perm (order ++ merged) := by
    refine (List.perm_ext_iff_of_nodup List.nodup_range' ?_).2 ?_
    · exact List.Nodup.append (increasing.imp Nat.ne_of_lt) numbered.distinct apart
    · intro id
      rw [List.mem_range'_1, List.mem_append, mem_order]
      constructor
      · rintro ⟨reached, known⟩
        rcases numbered.accounted id reached (by omega) with ⟨outer, inside⟩ | gone
        · exact Or.inl ⟨outer, inside_iff_lists.1 inside⟩
        · exact Or.inr gone
      · rintro (⟨outer, lists⟩ | gone)
        · obtain ⟨later, known, -⟩ := numbered.listed outer id lists
          omega
        · obtain ⟨later, known, -⟩ := numbered.gone id gone
          change 0 < id at later
          omega
  have lengths := numbers.length_eq
  rw [List.length_range', List.length_append] at lengths
  omega

theorem treeShaped (numbered : Numbered outline [] merged) : TreeShaped outline merged := by
  obtain ⟨order, visits, increasing, mem_order⟩ :=
    numbered.exists_visits 1 Nat.zero_lt_one numbered.ahead_root
  have mem_order : ∀ id, id ∈ order ↔ ∃ outer, outline.Lists outer id := by
    intro id
    rw [mem_order]
    constructor
    · exact fun facts => facts.2
    · rintro ⟨outer, lists⟩
      exact ⟨Nat.zero_lt_of_lt (numbered.listed outer id lists).1, outer, lists⟩
  have size := numbered.size_eq increasing mem_order
  have same : outline.descendants = order := visits.walk_eq (by omega)
  refine ⟨fun outer => (numbered.sorted outer).imp Nat.ne_of_lt, ?_, ?_, ?_, ?_, ?_, ?_, ?_, ?_⟩
  · intro outer other inner first second
    exact numbered.inside_unique (Or.inl first) (Or.inl second)
  · intro outer inner lists
    obtain ⟨later, known, linked⟩ := numbered.listed outer inner lists
    exact ⟨linked, later, known⟩
  · rw [same]
    exact visits
  · rw [same]
    exact mem_order
  · rw [same]
    exact increasing
  · intro id
    rw [same, mem_order]
    constructor
    · intro gone
      obtain ⟨later, known, outside, -⟩ := numbered.gone id gone
      refine ⟨Nat.ne_of_gt later, known, ?_⟩
      rintro ⟨outer, lists⟩
      exact outside outer (Or.inl lists)
    · rintro ⟨notRoot, known, unlisted⟩
      rcases numbered.accounted id (Nat.pos_of_ne_zero notRoot) known with ⟨outer, inside⟩ | gone
      · exact absurd ⟨outer, inside_iff_lists.1 inside⟩ unlisted
      · exact gone
  · exact fun id gone => (numbered.gone id gone).2.2.2
  · rw [same]
    exact size

end Numbered

end Outline

/-- In every dialect, for every text and all tokens, the regions of the outline form a tree whose
walk ends and meets them in the order in which they began. The regions that it leaves out are
those that the dialect had merged into others. A dialect hands over the draft of a region, which
has nothing inside it yet. -/
theorem Dialect.outline_treeShaped {σ : Type} (dialect : Dialect σ) (state : σ)
    (document : Document) (tokens : List Token) :
    (dialect.outline state document tokens).2.TreeShaped
      (Call.merges (dialect.record state document tokens)) :=
  (dialect.outline_numbered state document tokens).treeShaped

end CodeFolding
