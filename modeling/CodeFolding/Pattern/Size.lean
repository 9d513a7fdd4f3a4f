import CodeFolding.Automaton.Charset
import CodeFolding.Pattern.Compose

set_option autoImplicit false

namespace CodeFolding

namespace Automaton

def bytes (chars : List Char) : List UInt8 :=
  (String.ofList chars).toUTF8.toList

/-- The words between those that are empty. An empty word in front counts only once. -/
def wordRuns (words : List (List UInt8)) : List (List (List UInt8)) :=
  match words.dropWhile List.isEmpty with
  | [] => []
  | rest => (if words.length = rest.length then [] else [[]]) ++ rest.splitOnP List.isEmpty

/-- Lays out a choice between words, which share their beginnings. From a state there is a way to
every run of words and, between two runs, one to the end. No word has more than `length` bytes. -/
def addWords : Nat → List (List UInt8) → Build Unit
  | 0, _ => pure ()
  | length + 1, words =>
    match wordRuns words with
    | [] => pure ()
    | runs => do
      runs.forM fun run => do
        let heads := (run.filterMap List.head?).eraseDups
        heads.forM fun head =>
          addWords length (run.filterMap fun word =>
            if word.head? = some head then some word.tail else none)
        match heads.length with
        | 0 => pure ()
        | 1 => addStates 1
        | count => discard (addState (labelled count))
      let ways := (runs.filter fun run => !run.isEmpty).length + (runs.length - 1)
      discard (addState (unlabelled ways))

def text? : Pattern → Option (List Char)
  | .text chars => some chars
  | _ => none

/-- The texts that the pattern is a choice between, if all alternatives are texts. -/
def texts? (pattern : Pattern) : Option (List (List Char)) :=
  pattern.alternatives.mapM text?

def addTexts (backwards : Bool) (texts : List (List Char)) : Build Unit := do
  let words := texts.map fun chars => if backwards then (bytes chars).reverse else bytes chars
  addStates 1
  addWords ((words.map List.length).foldl max 0) words

/-- Where a part of a pattern stands in a choice: it is no part of one, it begins with the second
alternative, or with a later one. -/
inductive Place where
  | whole
  | second
  | later
deriving DecidableEq, Inhabited, Repr

/-- The state where the ways of a choice part, and the one where they meet, follow the second
alternative. -/
def addFork : Place → Build Unit
  | .second => do
    addStates 2
    lengthen (unlabelled 2)
  | .later => lengthen (unlabelled 1)
  | .whole => pure ()

/-- Lays out a repetition, given how to lay out a round. `takesCharacters` says that a round is
never empty. -/
def addRounds (round : Build Unit) (takesCharacters : Bool) :
    (least : Nat) → (most : Option Nat) → Build Unit
  | 0, some 1 => do
    discard (addState (unlabelled 2))
    round
    addStates 1
  | 0, none =>
    if takesCharacters then do
      discard (addState (unlabelled 2))
      round
    else do
      round
      addStates 3
      lengthen (unlabelled 4)
  | least, none => do
    repeated round least
    discard (addState (unlabelled 2))
  | least, some most => do
    if least = 0 then addStates 1
    repeated round least
    if least < most then
      addStates 1
      repeated (do
        discard (addState (unlabelled 2))
        round) (most - least)

/-- Lays out the automaton of a pattern. Groups matter only when a text is read from its
beginning. -/
def add (backwards : Bool) (place : Place) : Pattern → Build Unit
  | .empty => do
    addStates 1
    addFork place
  | .text chars => do
    addStates (String.ofList chars).utf8ByteSize
    addFork place
  | .oneOf set => do
    addCharset backwards set
    addFork place
  | .boundary _ => do
    addStates 1
    addFork place
  | .group _ body => do
    if backwards then add backwards .whole body
    else
      addStates 1
      add backwards .whole body
      addStates 1
    addFork place
  | .seq first second => do
    if backwards then
      add backwards .whole second
      add backwards .whole first
    else
      add backwards .whole first
      add backwards .whole second
    addFork place
  | .alt first second =>
    match place, texts? (.alt first second) with
    | .whole, some texts => addTexts backwards texts
    | .whole, none => do
      add backwards .whole first
      add backwards .second second
    | place, _ => do
      add backwards .whole first
      addFork place
      add backwards .later second
  | .loop body least most _ => do
    addRounds (add backwards .whole body) body.takesCharacters least most
    addFork place

/-- Lays out the automaton that looks for a pattern: a part that passes over what is in front of a
match, unless matches are only at the edge of the text, the pattern, and the state for a match. -/
def addSearch (backwards : Bool) (pattern : Pattern) : Build Unit := do
  if if backwards then pattern.endsAtEnd else pattern.beginsAtStart then addStates 1
  else
    addStates 3
    lengthen (unlabelled 2 + labelled 1)
  add backwards .whole (.group 0 pattern)
  addStates 1

/-- More room than the automaton of a pattern takes, found without laying it out. A character has
up to four bytes, and the bytes of the characters in a range fall into 16 sequences of ranges at
most. -/
def roomBound : Pattern → Nat
  | .empty => 256
  | .text chars => 512 * (chars.length + 1)
  | .oneOf set => 1024 * (set.bounds.length + 1)
  | .boundary _ => 256
  | .group _ body => roomBound body + 256
  | .seq first second => roomBound first + roomBound second + 256
  | .alt first second => roomBound first + roomBound second + 256
  | .loop body least most _ => (roomBound body + 256) * (max 1 (most.getD least) + 1)

/-- Whether the pattern is a choice between so many texts that they are looked for without an
automaton. -/
def isWordList (pattern : Pattern) : Bool :=
  (texts? pattern).any (3000 ≤ ·.length)

end Automaton

/-- Whether the automata that look for the pattern, if there are any, are small enough. Where a
bound on their room tells, they are not laid out. -/
def Pattern.isSmall (pattern : Pattern) : Bool :=
  Automaton.roomBound (.group 0 pattern) + 256 ≤ Automaton.Draft.limit ||
    Automaton.isWordList pattern ||
    [false, true].all fun backwards =>
      ((Automaton.addSearch backwards pattern).run .start).isSome

end CodeFolding
