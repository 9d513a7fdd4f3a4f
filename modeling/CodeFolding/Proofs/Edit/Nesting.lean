import CodeFolding.Proofs.Edit
import CodeFolding.Publisher

set_option autoImplicit false

namespace CodeFolding

/-- A map that keeps the structure of the spans that satisfy `fits`. -/
structure Span.KeepsNesting (fits : Span → Prop) (image : Span → Span) : Prop where
  inOrder : ∀ span, span.start ≤ span.stop → (image span).start ≤ (image span).stop
  empty : ∀ span, fits span → span.start = span.stop → (image span).start = (image span).stop
  behind : ∀ first second, fits first → fits second → first.start ≤ first.stop →
    second.start ≤ second.stop → first.stop ≤ second.start →
    (image first).stop ≤ (image second).start
  encloses : ∀ outer inner, fits outer → fits inner → outer.start ≤ outer.stop →
    inner.start ≤ inner.stop → outer.encloses inner = true →
    (image inner).start ≠ (image inner).stop → (image outer).encloses (image inner) = true

namespace Span.KeepsNesting

theorem id (fits : Span → Prop) : KeepsNesting fits fun span => span :=
  ⟨fun _ inOrder => inOrder, fun _ _ empty => empty, fun _ _ _ _ _ _ behind => behind,
    fun _ _ _ _ _ _ encloses _ => encloses⟩

end Span.KeepsNesting

open CodeFolding.Span (KeepsNesting)

namespace Edit

-- Empty spans at an edge are the exception: they go behind the inserted text.
example : (⟨5, "", "ab"⟩ : Edit).moveSpan ⟨0, 5⟩ = ⟨0, 5⟩ ∧
    (⟨5, "", "ab"⟩ : Edit).moveSpan ⟨5, 5⟩ = ⟨7, 7⟩ := by decide

/-- Where edits take a span one after the other. -/
def moveAll (edits : List Edit) (span : Span) : Span :=
  edits.foldl (fun span edit => edit.moveSpan span) span

/-- The edits take the span nowhere behind the greatest offset. -/
def Addressable : List Edit → Span → Prop
  | [], _ => True
  | edit :: rest, span =>
    (edit.exactSpan span).stop ≤ maxOffset ∧ Addressable rest (edit.moveSpan span)

/-- Edits made one after the other, each within the text that the earlier ones leave, which take a
text from one length to another. Offsets are words, so that no text has more than `maxOffset`
characters. -/
inductive Leads : Nat → List Edit → Nat → Prop
  | nil {length : Nat} (addressable : length ≤ maxOffset) : Leads length [] length
  | cons {length last : Nat} {edit : Edit} {rest : List Edit} (addressable : length ≤ maxOffset)
      (inside : edit.start + edit.deleted.length ≤ length)
      (further : Leads (length - edit.deleted.length + edit.inserted.length) rest last) :
      Leads length (edit :: rest) last

namespace Leads

variable {length last : Nat} {edits : List Edit} {span : Span}

theorem length_le (leads : Leads length edits last) : length ≤ maxOffset := by
  cases leads with
  | nil addressable => exact addressable
  | cons addressable => exact addressable

theorem moveAll_within (leads : Leads length edits last) (within : span.Within length) :
    (moveAll edits span).Within last := by
  induction leads generalizing span with
  | nil => exact within
  | @cons length last edit rest addressable inside further ih =>
    exact ih (edit.moveSpan_within inside addressable within)

theorem addressable (leads : Leads length edits last) (within : span.Within length) :
    Addressable edits span := by
  induction leads generalizing span with
  | nil => trivial
  | @cons length last edit rest addressable inside further ih =>
    have image := edit.exactSpan_within inside addressable within
    exact ⟨Nat.le_trans image.2 further.length_le,
      ih (edit.moveSpan_within inside addressable within)⟩

end Leads

end Edit

namespace Revision

end Revision

end CodeFolding
