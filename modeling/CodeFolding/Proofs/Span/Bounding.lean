import CodeFolding.Proofs.Span

set_option autoImplicit false

namespace CodeFolding

namespace Span

/-- Whether the span is in exactly one of two lists. -/
def Differs (old new : List Span) (span : Span) : Prop :=
  span ∈ old ∧ span ∉ new ∨ span ∈ new ∧ span ∉ old

/-- Starts and stops grow apart independently of each other. -/
theorem foldl_cover (spans : List Span) (first : Span) :
    spans.foldl cover first =
      ⟨(spans.map start).foldl min first.start, (spans.map stop).foldl max first.stop⟩ := by
  induction spans generalizing first with
  | nil => rfl
  | cons next rest ih =>
    rw [List.foldl_cons, ih, cover_start, cover_stop]
    rfl

theorem coverAll_bounds (spans : List Span) :
    (coverAll spans).map start = (spans.map start).min? ∧
      (coverAll spans).map stop = (spans.map stop).max? := by
  cases spans with
  | nil => exact ⟨rfl, rfl⟩
  | cons first rest =>
    rw [coverAll, foldl_cover]
    exact ⟨rfl, rfl⟩

theorem eq_of_bounds {left right : Option Span} (starts : left.map start = right.map start)
    (stops : left.map stop = right.map stop) : left = right := by
  cases left with
  | none =>
    cases right with
    | none => rfl
    | some span => exact nomatch starts
  | some span =>
    cases right with
    | none => exact nomatch starts
    | some other =>
      have start : span.start = other.start := Option.some.inj starts
      have stop : span.stop = other.stop := Option.some.inj stops
      rw [Option.some.injEq, Span.mk.injEq]
      exact ⟨start, stop⟩

theorem min?_congr {left right : List Nat} (same : ∀ n, n ∈ left ↔ n ∈ right) :
    left.min? = right.min? := by
  apply Option.ext
  intro least
  simp only [List.min?_eq_some_iff, same]

theorem max?_congr {left right : List Nat} (same : ∀ n, n ∈ left ↔ n ∈ right) :
    left.max? = right.max? := by
  apply Option.ext
  intro greatest
  simp only [List.max?_eq_some_iff, same]

theorem coverAll_congr {left right : List Span} (same : ∀ span, span ∈ left ↔ span ∈ right) :
    coverAll left = coverAll right := by
  have starts : ∀ n, n ∈ left.map start ↔ n ∈ right.map start := by
    intro n
    simp only [List.mem_map, same]
  have stops : ∀ n, n ∈ left.map stop ↔ n ∈ right.map stop := by
    intro n
    simp only [List.mem_map, same]
  apply eq_of_bounds
  · rw [(coverAll_bounds left).1, (coverAll_bounds right).1, min?_congr starts]
  · rw [(coverAll_bounds left).2, (coverAll_bounds right).2, max?_congr stops]

theorem changed_eq_coverAll (old new : List Span) : changed old new = coverAll (old ++ new) := by
  apply coverAll_congr
  intro span
  rw [mem_changed_spans, List.mem_append]

/-- The differences between two lists, whatever list they are given as, and the new list are the
spans of both. -/
theorem mem_append_of_differs {old new differences : List Span}
    (all : ∀ span, span ∈ differences ↔ Differs old new span) (span : Span) :
    span ∈ differences ++ new ↔ span ∈ old ++ new := by
  rw [List.mem_append, List.mem_append, all, Differs]
  by_cases inNew : span ∈ new
  · simp only [inNew, or_true]
  · simp only [inNew, not_false_eq_true, and_true, false_and, or_false]

/-- What bounds all spans bounds their bounding span. -/
theorem encloses_coverAll {spans : List Span} {outer other : Span}
    (bounding : coverAll spans = some outer) (all : ∀ span ∈ spans, other.encloses span = true) :
    other.encloses outer = true := by
  obtain ⟨starts, stops⟩ := coverAll_bounds spans
  rw [bounding, Option.map_some] at starts stops
  obtain ⟨first, isFirst, start⟩ := List.mem_map.1 (List.min?_mem starts.symm)
  obtain ⟨last, isLast, stop⟩ := List.mem_map.1 (List.max?_mem stops.symm)
  have before := (encloses_iff _ _).1 (all first isFirst)
  have behind := (encloses_iff _ _).1 (all last isLast)
  rw [encloses_iff, ← start, ← stop]
  exact ⟨before.1, behind.2⟩

/-- How `whole` bounds the spans of two lists: by the least start and the greatest stop, in whatever
order the differences between the lists are taken, and alike for all lists of the same spans. -/
structure Bounds (old new : List Span) (whole : Option Span) : Prop where
  none_iff : whole = none ↔ old = [] ∧ new = []
  start_eq : whole.map start = ((old ++ new).map start).min?
  stop_eq : whole.map stop = ((old ++ new).map stop).max?
  anyOrder : ∀ differences : List Span, (∀ span, span ∈ differences ↔ Differs old new span) →
    coverAll (differences ++ new) = whole
  encloses : ∀ outer, whole = some outer → ∀ span, Differs old new span →
    outer.encloses span = true
  least : (∀ span ∈ old ++ new, span.start ≤ span.stop) → ∀ outer, whole = some outer →
    outer.start ≤ outer.stop ∧ (∀ span ∈ old ++ new, outer.encloses span = true) ∧
      ∀ other : Span, (∀ span ∈ old ++ new, other.encloses span = true) →
        other.encloses outer = true
  symmetric : changed new old = whole
  sameSpans : ∀ older newer : List Span, (∀ span, span ∈ older ↔ span ∈ old) →
    (∀ span, span ∈ newer ↔ span ∈ new) → changed older newer = whole

/-- What has to be shown anew is the least span around all spans, old and new. -/
theorem changed_bounds (old new : List Span) : Bounds old new (changed old new) := by
  have whole := changed_eq_coverAll old new
  have bounds := coverAll_bounds (old ++ new)
  rw [← whole] at bounds
  refine ⟨changed_eq_none_iff old new, bounds.1, bounds.2, ?_, ?_, ?_, ?_, ?_⟩
  · intro differences all
    rw [whole]
    exact coverAll_congr (mem_append_of_differs all)
  · intro outer bounding span differs
    exact changed_encloses bounding (differs.imp And.left And.left)
  · intro inOrder outer bounding
    rw [whole] at bounding
    have all : ∀ span ∈ old ++ new, outer.encloses span = true :=
      fun span member => coverAll_encloses bounding member
    refine ⟨?_, all, fun other others => encloses_coverAll bounding others⟩
    have filled : old ++ new ≠ [] := by
      intro empty
      rw [empty] at bounding
      exact nomatch bounding
    obtain ⟨span, member⟩ := List.exists_mem_of_ne_nil _ filled
    have around := (encloses_iff _ _).1 (all span member)
    have between := inOrder span member
    omega
  · rw [whole, changed_eq_coverAll]
    apply coverAll_congr
    intro span
    rw [List.mem_append, List.mem_append, or_comm]
  · intro older newer sameOld sameNew
    rw [whole, changed_eq_coverAll]
    apply coverAll_congr
    intro span
    rw [List.mem_append, List.mem_append, sameOld, sameNew]

-- Spans that stay count as well, and the bounds may come from different lists.
example : changed [⟨3, 8⟩, ⟨12, 20⟩] [⟨5, 9⟩, ⟨12, 20⟩] = some ⟨3, 20⟩ := by decide

end Span

end CodeFolding
