import CodeFolding.Span

set_option autoImplicit false

namespace CodeFolding

namespace Span

/-- The bounds are in order, and no greater than `length`. -/
def Within (length : Nat) (span : Span) : Prop :=
  span.start ≤ span.stop ∧ span.stop ≤ length

instance (length : Nat) (span : Span) : Decidable (span.Within length) :=
  inferInstanceAs (Decidable (span.start ≤ span.stop ∧ span.stop ≤ length))

theorem contains_iff (span : Span) (offset : Nat) :
    span.contains offset = true ↔ span.start ≤ offset ∧ offset < span.stop := by
  simp only [contains, Bool.and_eq_true, decide_eq_true_eq]

theorem encloses_iff (outer inner : Span) :
    outer.encloses inner = true ↔ outer.start ≤ inner.start ∧ inner.stop ≤ outer.stop := by
  simp only [encloses, Bool.and_eq_true, decide_eq_true_eq]

theorem le_trans (first second third : Span) (one : first.le second = true)
    (two : second.le third = true) : first.le third = true := by
  simp only [le, Bool.or_eq_true, Bool.and_eq_true, beq_iff_eq, decide_eq_true_eq] at one two ⊢
  omega

theorem le_total (first second : Span) : (first.le second || second.le first) = true := by
  simp only [le, Bool.or_eq_true, Bool.and_eq_true, beq_iff_eq, decide_eq_true_eq]
  omega

theorem ordered_within {a b length : Nat} (first : a ≤ length) (second : b ≤ length) :
    (ordered a b).Within length := by
  refine ⟨ordered_start_le_stop a b, ?_⟩
  rw [ordered_stop]
  omega

theorem cover_within {left right : Span} {length : Nat} (first : left.Within length)
    (second : right.Within length) : (cover left right).Within length := by
  obtain ⟨leftOrder, leftStop⟩ := first
  obtain ⟨rightOrder, rightStop⟩ := second
  refine ⟨?_, ?_⟩
  · rw [cover_start, cover_stop]
    omega
  · rw [cover_stop]
    omega

/-- A bounding span that grows encloses what it began with and all that it takes in. -/
theorem foldl_cover_encloses (spans : List Span) (first : Span) :
    (spans.foldl cover first).encloses first = true ∧
      ∀ span ∈ spans, (spans.foldl cover first).encloses span = true := by
  induction spans generalizing first with
  | nil =>
    refine ⟨?_, fun span member => absurd member List.not_mem_nil⟩
    exact (encloses_iff first first).2 ⟨Nat.le_refl _, Nat.le_refl _⟩
  | cons next rest ih =>
    rw [List.foldl_cons]
    obtain ⟨begun, inside⟩ := ih (cover first next)
    simp only [encloses_iff, cover_start, cover_stop] at begun inside ⊢
    refine ⟨by omega, ?_⟩
    intro span member
    rcases List.mem_cons.1 member with rfl | later
    · omega
    · exact inside span later

theorem foldl_cover_within {spans : List Span} {first : Span} {length : Nat}
    (begun : first.Within length) (inside : ∀ span ∈ spans, span.Within length) :
    (spans.foldl cover first).Within length := by
  induction spans generalizing first with
  | nil => exact begun
  | cons next rest ih =>
    refine ih (cover_within begun (inside next List.mem_cons_self)) ?_
    exact fun span member => inside span (List.mem_cons_of_mem next member)

theorem coverAll_eq_none_iff (spans : List Span) : coverAll spans = none ↔ spans = [] := by
  cases spans with
  | nil => exact ⟨fun _ => rfl, fun _ => rfl⟩
  | cons span rest => simp only [coverAll, reduceCtorEq]

theorem coverAll_encloses {spans : List Span} {outer span : Span}
    (bounding : coverAll spans = some outer) (member : span ∈ spans) :
    outer.encloses span = true := by
  cases spans with
  | nil => exact absurd member List.not_mem_nil
  | cons first rest =>
    cases bounding
    obtain ⟨begun, inside⟩ := foldl_cover_encloses rest first
    rcases List.mem_cons.1 member with rfl | later
    · exact begun
    · exact inside span later

theorem coverAll_within {spans : List Span} {outer : Span} {length : Nat}
    (bounding : coverAll spans = some outer) (inside : ∀ span ∈ spans, span.Within length) :
    outer.Within length := by
  cases spans with
  | nil => exact nomatch bounding
  | cons first rest =>
    cases bounding
    refine foldl_cover_within (inside first List.mem_cons_self) ?_
    exact fun span member => inside span (List.mem_cons_of_mem first member)

/-- What has to be shown anew is bounded by all spans, old and new: the old ones that stay are
among the new ones. -/
theorem mem_changed_spans (old new : List Span) (span : Span) :
    span ∈ without old new ++ without new old ++ new ↔ span ∈ old ∨ span ∈ new := by
  simp only [without, List.mem_append, List.mem_filter, Bool.not_eq_true', List.contains_eq_mem,
    decide_eq_false_iff_not]
  by_cases inNew : span ∈ new
  · simp only [inNew, or_true]
  · simp only [inNew, not_false_eq_true, and_true, false_and, or_false]

theorem changed_encloses {old new : List Span} {outer span : Span}
    (bounding : changed old new = some outer) (member : span ∈ old ∨ span ∈ new) :
    outer.encloses span = true :=
  coverAll_encloses bounding ((mem_changed_spans old new span).2 member)

theorem changed_within {old new : List Span} {outer : Span} {length : Nat}
    (bounding : changed old new = some outer)
    (inside : ∀ span, span ∈ old ∨ span ∈ new → span.Within length) : outer.Within length :=
  coverAll_within bounding fun span member =>
    inside span ((mem_changed_spans old new span).1 member)

theorem changed_eq_none_iff (old new : List Span) :
    changed old new = none ↔ old = [] ∧ new = [] := by
  unfold changed
  rw [coverAll_eq_none_iff]
  constructor
  · intro none
    have absent : ∀ span, ¬ (span ∈ old ∨ span ∈ new) := by
      intro span member
      have found := (mem_changed_spans old new span).2 member
      rw [none] at found
      exact absurd found List.not_mem_nil
    refine ⟨List.eq_nil_iff_forall_not_mem.2 ?_, List.eq_nil_iff_forall_not_mem.2 ?_⟩
    · exact fun span member => absent span (Or.inl member)
    · exact fun span member => absent span (Or.inr member)
  · rintro ⟨rfl, rfl⟩
    rfl

theorem exists_changed_encloses {old new : List Span} {span : Span}
    (member : span ∈ old ∨ span ∈ new) :
    ∃ outer, changed old new = some outer ∧ outer.encloses span = true := by
  cases bounding : changed old new with
  | none =>
    obtain ⟨rfl, rfl⟩ := (changed_eq_none_iff old new).1 bounding
    rcases member with member | member <;> exact absurd member List.not_mem_nil
  | some outer => exact ⟨outer, rfl, changed_encloses bounding member⟩

end Span

end CodeFolding
