import CodeFolding.Outline.Preview
import CodeFolding.Revision

set_option autoImplicit false

namespace CodeFolding

/-- What a display needs to show one region. -/
structure Fold where
  span : Span
  kind : Region.Kind
  collapsed : Bool
  isDefinition : Bool
  placeholder : String
  preview : String
deriving DecidableEq, Inhabited, Repr

/-- An outline of a revision with the regions it lists, where it differs from the one before, and
whether it counts as the first one. Editions are numbered in the order of publication. -/
structure Publication where
  edition : Nat
  revision : Revision
  outline : Outline
  listed : List Nat
  changed : Option Span
  isInitial : Bool

namespace Publication

/-- What is published before anything else: the outline of an empty text. -/
def blank : Publication where
  edition := 0
  revision := Revision.detached default 0
  outline := Outline.blank default
  listed := []
  changed := none
  isInitial := false

instance : Inhabited Publication := ⟨blank⟩

def version (publication : Publication) : Nat :=
  publication.revision.version

def spans (publication : Publication) : List Span :=
  publication.listed.filterMap fun id => (publication.outline.region id).span?

/-- The listed regions that share a line with `span`. -/
def overlapping (publication : Publication) (span : Span) : List Nat :=
  let outline := publication.outline
  let first := outline.document.lineOf span.start
  let last := outline.document.lineOf span.stop
  publication.listed.filter fun id =>
    outline.startLine id ≤ last && (outline.stopLine? id).any fun line => first ≤ line

/-- The listed regions with their spans carried over to `revision`, a later one. -/
def carried (publication : Publication) (revision : Revision) : Except Gap (List (Nat × Span)) :=
  let complete := publication.listed.filterMap fun id =>
    (publication.outline.region id).span?.map fun span => (id, span)
  complete.mapM fun (id, span) => do
    return (id, ← revision.carry span publication.version)

/-- The listed regions that share a line with `span`, which is a span of `revision`, a later one,
and their spans there. -/
def overlappingIn (publication : Publication) (revision : Revision) (span : Span) :
    Except Gap (List (Nat × Span)) := do
  let document := revision.document
  let first := document.lineOf span.start
  let last := document.lineOf span.stop
  let carried ← publication.carried revision
  return carried.filter fun (_, moved) =>
    document.lineOf moved.start ≤ last && first ≤ document.lineOf moved.stop

/-- What a display needs to show a region at `span`. Regions start out collapsed on the first
publication alone. -/
def fold (publication : Publication) (settings : Settings) (id : Nat) (span : Span) : Fold :=
  let outline := publication.outline
  { span := span
    kind := (outline.region id).kind
    collapsed := publication.isInitial && outline.isCollapsed settings id
    isDefinition := outline.isDefinition id
    placeholder := outline.placeholder id
    preview := outline.preview settings.tabSize id }

def folds (publication : Publication) (span : Span) (settings : Settings) : List Fold :=
  (publication.overlapping span).filterMap fun id =>
    (publication.outline.region id).span?.map (publication.fold settings id)

/-- The folds that share a line with `span`, which is a span of `revision`, a later one. -/
def foldsIn (publication : Publication) (revision : Revision) (span : Span)
    (settings : Settings) : Except Gap (List Fold) := do
  let hits ← publication.overlappingIn revision span
  return hits.map fun (id, moved) => publication.fold settings id moved

end Publication

end CodeFolding
