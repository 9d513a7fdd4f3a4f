import CodeFolding.Document
import CodeFolding.Region

set_option autoImplicit false

namespace CodeFolding

/-- A text and its regions. The number of a region is its index; number zero is the region around
everything. -/
structure Outline where
  document : Document
  regions : Array Region

namespace Outline

def rootId : Nat := 0

def blank (document : Document) : Outline :=
  ⟨document, #[Region.root]⟩

instance : Inhabited Outline := ⟨blank default⟩

/-- How many numbers are in use, the root and the regions merged into others included. -/
def size (outline : Outline) : Nat :=
  outline.regions.size

def isBlank (outline : Outline) : Bool :=
  outline.size == 1

def region (outline : Outline) (id : Nat) : Region :=
  outline.regions.getD id Region.root

def region? (outline : Outline) (id : Nat) : Option Region :=
  outline.regions[id]?

def modify (outline : Outline) (id : Nat) (change : Region → Region) : Outline :=
  { outline with regions := outline.regions.modify id change }

/-- Adds a region inside `parent`, which does not list it yet. Its number is the old size. -/
def add (outline : Outline) (draft : Draft) (parent : Nat) : Outline :=
  { outline with regions := outline.regions.push { draft with parent? := some parent } }

/-- Ends a region at `stop`, or at its start if that comes later. -/
def close (outline : Outline) (id stop : Nat) : Outline :=
  outline.modify id fun region => { region with stop? := some (max stop region.start) }

def setStart (outline : Outline) (id start : Nat) : Outline :=
  outline.modify id fun region => { region with start := start }

/-- Lists `child` as the last region inside `parent`. -/
def enlist (outline : Outline) (parent child : Nat) : Outline :=
  outline.modify parent fun region => { region with children := region.children.push child }

def setParent (outline : Outline) (parent child : Nat) : Outline :=
  outline.modify child fun region => { region with parent? := some parent }

/-- Merges one region into another, which takes over its end and the regions inside it. -/
def absorb (outline : Outline) (target merged : Nat) : Outline :=
  let gone := outline.region merged
  let outline := outline.modify merged fun region => { region with children := #[] }
  let outline := gone.children.foldl (fun outline child => outline.setParent target child) outline
  outline.modify target fun region =>
    { region with stop? := gone.stop?, children := region.children ++ gone.children }

/-- The numbers of `pending` and of all regions inside them, each region in front of those inside
it. At most `bound` numbers are given. -/
def walk (outline : Outline) : Nat → List Nat → List Nat
  | 0, _ => []
  | _ + 1, [] => []
  | bound + 1, id :: pending =>
    id :: walk outline bound ((outline.region id).children.toList ++ pending)

/-- The numbers of all regions inside the root, from left to right, each region in front of those
inside it. -/
def descendants (outline : Outline) : List Nat :=
  outline.walk outline.size (outline.region rootId).children.toList

@[simp] theorem size_modify (outline : Outline) (id : Nat) (change : Region → Region) :
    (outline.modify id change).size = outline.size := by
  simp only [size, modify, Array.size_modify]

@[simp] theorem size_add (outline : Outline) (draft : Draft) (parent : Nat) :
    (outline.add draft parent).size = outline.size + 1 := by
  simp only [size, add, Array.size_push]

@[simp] theorem document_modify (outline : Outline) (id : Nat) (change : Region → Region) :
    (outline.modify id change).document = outline.document := rfl

@[simp] theorem document_add (outline : Outline) (draft : Draft) (parent : Nat) :
    (outline.add draft parent).document = outline.document := rfl

end Outline

end CodeFolding
