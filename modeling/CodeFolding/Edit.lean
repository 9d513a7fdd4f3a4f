import CodeFolding.Span

set_option autoImplicit false

namespace CodeFolding

/-- The greatest offset; offsets are unsigned words of 64 bits. -/
def maxOffset : Nat := 0xFFFFFFFFFFFFFFFF

/-- The replacement of the text `deleted`, which begins at `start`, by `inserted`. -/
structure Edit where
  start : Nat
  deleted : String
  inserted : String
deriving DecidableEq, Inhabited, Repr

/-- On which side of text put at its place an offset is left. -/
inductive Side where
  | before
  | after
deriving DecidableEq, Inhabited, Repr

namespace Edit

/-- Where the deleted text ends; never past the greatest offset. -/
def stop (edit : Edit) : Nat :=
  min (edit.start + edit.deleted.length) maxOffset

/-- Where the edit takes `offset` if offsets have no limit. Offsets in front of the edit stay, those
behind the deleted text move with the text, and `side` decides for those in between. -/
def exactOffset (edit : Edit) (side : Side) (offset : Nat) : Nat :=
  if offset < edit.start then offset
  else if edit.stop < offset ∨ (offset = edit.stop ∧ edit.start < edit.stop) then
    offset + edit.inserted.length - (edit.stop - edit.start)
  else match side with
    | .before => edit.start
    | .after => edit.start + edit.inserted.length

/-- Where the edit takes `offset`. Behind the greatest offset, sums begin again at 0. -/
def moveOffset (edit : Edit) (side : Side) (offset : Nat) : Nat :=
  edit.exactOffset side offset % (maxOffset + 1)

/-- Where the edit takes `span`. Text put at either edge stays outside, and a span whose text is
gone becomes empty. -/
def moveSpan (edit : Edit) (span : Span) : Span :=
  let start := edit.moveOffset .after span.start
  ⟨start, max (edit.moveOffset .before span.stop) start⟩

theorem moveSpan_start_le_stop (edit : Edit) (span : Span) :
    (edit.moveSpan span).start ≤ (edit.moveSpan span).stop := by
  simp only [moveSpan]
  omega

end Edit

/-- The step from one version of a text to the next: its edits in order, each at the offsets of
the text that the earlier ones leave, and the lengths of the texts it joins. -/
structure Change where
  baseVersion : Nat
  lengthBefore : Nat
  lengthAfter : Nat
  edits : List Edit
deriving DecidableEq, Inhabited, Repr

namespace Change

def isEmpty (change : Change) : Bool :=
  change.edits.isEmpty

/-- Where the change takes `span`. -/
def moveSpan (change : Change) (span : Span) : Span :=
  change.edits.foldl (fun span edit => edit.moveSpan span) span

end Change

end CodeFolding
