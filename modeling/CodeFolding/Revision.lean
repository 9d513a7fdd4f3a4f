import CodeFolding.Document
import CodeFolding.Edit

set_option autoImplicit false

namespace CodeFolding

/-- The reason why a span cannot be carried over: the changes between the two versions are not
at hand. -/
structure Gap where
  source : Nat
  target : Nat
deriving DecidableEq, Inhabited, Repr

def Gap.message (gap : Gap) : String :=
  s!"no delta history from version {gap.source} to version {gap.target}"

/-- A text, its version, and the latest changes that led to it, oldest first. -/
structure Revision where
  document : Document
  version : Nat
  history : List Change

namespace Revision

/-- A text that remembers no changes. -/
def detached (document : Document) (version : Nat) : Revision :=
  ⟨document, version, []⟩

instance : Inhabited Revision := ⟨detached default 0⟩

/-- Carries `span` through `changes`, which have to continue `version` without a gap; the result
comes with the version it belongs to. -/
def follow (version : Nat) (span : Span) : List Change → Option (Nat × Span)
  | [] => some (version, span)
  | change :: rest =>
    if change.baseVersion = version then follow (version + 1) (change.moveSpan span) rest
    else none

/-- The image in this revision of a span of the version `source`. -/
def carry (revision : Revision) (span : Span) (source : Nat) : Except Gap Span :=
  if source = revision.version then .ok span
  else if revision.version < source then .error ⟨source, revision.version⟩
  else match revision.history.dropWhile (fun change => change.baseVersion != source) with
    | [] => .error ⟨source, revision.version⟩
    | changes =>
      match follow source span changes with
      | some (version, image) =>
        if version = revision.version then .ok image else .error ⟨source, revision.version⟩
      | none => .error ⟨source, revision.version⟩

@[simp] theorem carry_self (revision : Revision) (span : Span) :
    revision.carry span revision.version = .ok span := by
  simp only [carry, if_true]

end Revision

end CodeFolding
