/-!
The room that an automaton takes while it is laid out. Its states are numbered from zero on. A
state takes 32 bytes, an arrow in a list of arrows with bytes on them 8 more, and an arrow in a
list of arrows without 4.
-/

set_option autoImplicit false

namespace CodeFolding

namespace Automaton

/-- What has been laid out: the number of states, and the room that lists of arrows take. -/
structure Draft where
  states : Nat
  lists : Nat
deriving DecidableEq, Inhabited, Repr

namespace Draft

def start : Draft :=
  ⟨0, 0⟩

def room (draft : Draft) : Nat :=
  32 * draft.states + draft.lists

/-- Automata that take more than ten mebibytes are refused. -/
def limit : Nat :=
  10485760

def checked? (draft : Draft) : Option Draft :=
  if draft.room ≤ limit then some draft else none

end Draft

/-- A step in laying out an automaton. It fails when the automaton gets too large, so that no step
behind it is taken. -/
abbrev Build := StateT Draft Option

def addStates (count : Nat) : Build Unit := fun draft => do
  return ((), ← ({ draft with states := draft.states + count } : Draft).checked?)

/-- Adds a state with a list of arrows that takes the given room, and gives its number. -/
def addState (list : Nat) : Build Nat := fun draft => do
  return (draft.states, ← (⟨draft.states + 1, draft.lists + list⟩ : Draft).checked?)

def lengthen (room : Nat) : Build Unit := fun draft => do
  return ((), ← ({ draft with lists := draft.lists + room } : Draft).checked?)

/-- The room of a list of arrows with bytes on them. -/
def labelled (count : Nat) : Nat :=
  8 * count

/-- The room of a list of arrows without bytes on them. -/
def unlabelled (count : Nat) : Nat :=
  4 * count

def repeated (part : Build Unit) : Nat → Build Unit
  | 0 => pure ()
  | count + 1 => do
    part
    repeated part count

end Automaton

end CodeFolding
