import CodeFolding.Automaton.Draft
import CodeFolding.Charset.Encoded
import Std.Data.TreeMap.Basic

set_option autoImplicit false

namespace CodeFolding

namespace Automaton

def digest (parts : List Nat) : UInt64 :=
  parts.foldl (fun sum part => (sum ^^^ part.toUInt64) * 1099511628211) 14695981039346656037

/-- The states that are remembered, by the number of a slot: what the state is for, and which it
is. A slot has room for one state, the latest. -/
abbrev Memory := Std.TreeMap Nat (List Nat × Nat)

/-- A step in laying out an automaton with the states remembered so far. -/
abbrev Recall := StateT Memory Build

/-- The state for `purpose`, or a new one with the given list of arrows if there is none among the
`slots`. -/
def stateFor (slots : Nat) (purpose : List Nat) (list : Nat) : Recall Nat := fun memory => do
  let slot := (digest purpose).toNat % slots
  match memory[slot]? with
  | some (known, state) => if known = purpose then return (state, memory) else
    let state ← addState list
    return (state, memory.insert slot (purpose, state))
  | none =>
    let state ← addState list
    return (state, memory.insert slot (purpose, state))

/-- The state that reads the given sequences, which have no more ranges than `places`, and leads
to `target`. States are the same if their arrows are. -/
def readForwards (target : Nat) : Nat → List Charset.ByteRanges → Recall Nat
  | 0, _ => pure target
  | places + 1, sequences => do
    let arrows ← (Charset.byFirst sequences).mapM fun (range, rests) => do
      let next ← if rests.any List.isEmpty then pure target
        else readForwards target places rests
      return [range.1, range.2, next]
    stateFor 10000 arrows.flatten (labelled arrows.length)

/-- The state that reads the ranges from the last to the first and then goes on with `next`.
States are the same if they read the same range and go on with the same state. -/
def readBackwards (next : Nat) : Charset.ByteRanges → Recall Nat
  | [] => pure next
  | (low, high) :: rest => do
    let state ← stateFor 1000 [next, low, high] 0
    readBackwards state rest

/-- Lays out the automaton for a character of the set. ASCII characters need one state with an
arrow for every range. -/
def addCharset (backwards : Bool) (set : Charset) : Build Unit :=
  if set.bounds.all (· ≤ 0x80) then do
    addStates 1
    discard (addState (labelled set.ranges.length))
  else if backwards then do
    addStates 1
    let next ← addState 0
    discard ((set.encoded.forM fun sequence => do
      discard (readBackwards next sequence)
      lengthen (unlabelled 1)).run ∅)
  else do
    let target ← addState 0
    discard ((readForwards target 4 set.encoded).run ∅)

end Automaton

end CodeFolding
