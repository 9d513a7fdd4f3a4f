import CodeFolding.Dialect

set_option autoImplicit false

namespace CodeFolding

namespace Script

/-- A region that starts at the position `position`. -/
structure Opening where
  position : Nat
  draft : Draft
deriving DecidableEq, Inhabited, Repr

/-- The end of a region that is closed at the position `position`, of any kind or of one. -/
structure Closing where
  position : Nat
  stop : Nat
  kind? : Option Region.Kind
deriving DecidableEq, Inhabited, Repr

inductive Merging where
  | always
  | never
  | sameKind
  | comments
deriving DecidableEq, Inhabited, Repr

inductive Event where
  | observe (position : Nat)
  | start (position : Nat)
  | close (position : Nat) (kind : Region.Kind)
  | merge (last id : Nat)
  | found (start : Nat)
  | resume
deriving DecidableEq, Inhabited, Repr

def Merging.merges (merging : Merging) (outline : Outline) (last id : Nat) : Bool :=
  match merging with
  | always => true
  | never => false
  | sameKind => (outline.region last).kind == (outline.region id).kind
  | comments => outline.commentsAdjoin last id

end Script

/-- The tables of a dialect. Of several entries that fit, the first one counts. -/
structure Script where
  openings : List Script.Opening
  closings : List Script.Closing
  merging : Script.Merging
deriving Inhabited, Repr

namespace Script

def start? (script : Script) (position : Nat) : Option Draft :=
  (script.openings.find? fun entry => entry.position == position).map Opening.draft

def close? (script : Script) (position : Nat) (kind : Region.Kind) : Option Nat :=
  (script.closings.find? fun entry =>
    entry.position == position && entry.kind?.all (· == kind)).map Closing.stop

end Script

/-- The dialect of a script. Its state is the record of events so far. -/
def Dialect.scripted (script : Script) : Dialect (Array Script.Event) where
  observe record cursor := record.push (.observe cursor.position)
  start record cursor := (record.push (.start cursor.position), script.start? cursor.position)
  found record draft := (record.push (.found draft.start), draft)
  close record region cursor :=
    (record.push (.close cursor.position region.kind), script.close? cursor.position region.kind)
  merge record outline last id :=
    (record.push (.merge last id), script.merging.merges outline last id)
  resume record := record.push .resume

end CodeFolding
