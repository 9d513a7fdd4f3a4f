set_option autoImplicit false

namespace CodeFolding

/-- The offsets from `start` up to and without `stop`. The bounds of a span that a caller wrote
down need not be in order; the spans made by `Span.ordered` are. -/
structure Span where
  start : Nat
  stop : Nat
deriving DecidableEq, Inhabited, Repr

namespace Span

/-- The span between two offsets given in either order. -/
def ordered (a b : Nat) : Span :=
  ⟨min a b, max a b⟩

def point (offset : Nat) : Span :=
  ordered offset offset

def length (span : Span) : Nat :=
  span.stop - span.start

def isEmpty (span : Span) : Bool :=
  span.start == span.stop

def contains (span : Span) (offset : Nat) : Bool :=
  span.start ≤ offset && offset < span.stop

def encloses (outer inner : Span) : Bool :=
  outer.start ≤ inner.start && inner.stop ≤ outer.stop

def overlaps (left right : Span) : Bool :=
  left.start < right.stop && right.start < left.stop

def cover (left right : Span) : Span :=
  ⟨min left.start right.start, max left.stop right.stop⟩

/-- Spans in order of their starts, and of their stops where the starts agree. -/
def order (left right : Span) : Ordering :=
  (compare left.start right.start).then (compare left.stop right.stop)

/-- Whether `left` comes no later than `right` in that order. -/
def le (left right : Span) : Bool :=
  left.start < right.start || (left.start == right.start && left.stop ≤ right.stop)

/-- The least span around all spans of a list, if there are any. -/
def coverAll : List Span → Option Span
  | [] => none
  | span :: rest => some (rest.foldl cover span)

/-- The spans of `spans` that `others` does not have. -/
def without (spans others : List Span) : List Span :=
  spans.filter fun span => !others.contains span

/-- What has to be shown anew when the spans `old` give way to `new`: the least span around
those in exactly one of the lists and around all of `new`. -/
def changed (old new : List Span) : Option Span :=
  coverAll (without old new ++ without new old ++ new)

@[simp] theorem ordered_start (a b : Nat) : (ordered a b).start = min a b := rfl

@[simp] theorem ordered_stop (a b : Nat) : (ordered a b).stop = max a b := rfl

@[simp] theorem cover_start (left right : Span) :
    (cover left right).start = min left.start right.start := rfl

@[simp] theorem cover_stop (left right : Span) :
    (cover left right).stop = max left.stop right.stop := rfl

theorem ordered_start_le_stop (a b : Nat) : (ordered a b).start ≤ (ordered a b).stop := by
  simp only [ordered_start, ordered_stop]
  omega

theorem ordered_of_le (a b : Nat) (inOrder : a ≤ b) : ordered a b = ⟨a, b⟩ := by
  simp only [ordered, Nat.min_eq_left inOrder, Nat.max_eq_right inOrder]

end Span

end CodeFolding
