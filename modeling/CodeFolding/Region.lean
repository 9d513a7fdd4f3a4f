import CodeFolding.Span

set_option autoImplicit false

namespace CodeFolding

namespace Region

/-- What kind of region it is. The region around everything has the kind `document`. -/
inductive Kind where
  | document
  | block
  | array
  | named
  | comment
  | custom (label : String)
deriving DecidableEq, Inhabited, Repr

inductive Role where
  | plain
  | function
deriving DecidableEq, Inhabited, Repr

end Region

/-- A region as a dialect proposes it. It has no end as long as it is open. -/
structure Draft where
  start : Nat
  kind : Region.Kind
  stop? : Option Nat := none
  role : Region.Role := .plain
  name? : Option String := none
deriving DecidableEq, Inhabited, Repr

def Draft.isComplete (draft : Draft) : Bool :=
  draft.stop?.isSome

/-- A region in its outline, with the numbers of the region around it and of those inside it. -/
structure Region extends Draft where
  parent? : Option Nat := none
  children : Array Nat := #[]
deriving DecidableEq, Inhabited, Repr

namespace Region

/-- The region around everything; it never ends. -/
def root : Region :=
  { start := 0, kind := .document }

def span? (region : Region) : Option Span :=
  region.stop?.map (Span.ordered region.start)

end Region

end CodeFolding
