import CodeFolding.Unicode.Word

set_option autoImplicit false

namespace CodeFolding

/-- A condition on a place with regard to words. -/
inductive WordEdge where
  | edge
  | noEdge
  | start
  | stop
  | notAfterWord
  | notBeforeWord
deriving DecidableEq, Inhabited, Repr

def WordEdge.holds : WordEdge → (before after : Bool) → Bool
  | edge, before, after => before != after
  | noEdge, before, after => before == after
  | start, before, after => !before && after
  | stop, before, after => before && !after
  | notAfterWord, before, _ => !before
  | notBeforeWord, _, after => !after

/-- A condition on a place between two characters. Lines are divided by line feeds; with `returns`,
also by carriage returns, and by both together. Words are those of ASCII or of all scripts. -/
inductive Boundary where
  | textStart
  | textEnd
  | lineStart (returns : Bool)
  | lineEnd (returns : Bool)
  | word (condition : WordEdge) (ascii : Bool)
deriving DecidableEq, Inhabited, Repr

/-- Whether `c` is a word character, of ASCII or of all scripts. -/
def isWordCharacter (ascii : Bool) (c : Char) : Bool :=
  if ascii then c.isAlphanum || c == '_' else Unicode.wordCharacters.contains c

/-- Whether the condition holds in front of the character at `position`. -/
def Boundary.holds (boundary : Boundary) (input : Array Char) (position : Nat) : Bool :=
  let before? := if position = 0 then none else input[position - 1]?
  let after? := input[position]?
  match boundary with
  | textStart => position == 0
  | textEnd => position == input.size
  | lineStart returns =>
    position == 0 || before? == some '\n' ||
      (returns && before? == some '\r' && after? != some '\n')
  | lineEnd returns =>
    position == input.size || (returns && after? == some '\r') ||
      (after? == some '\n' && !(returns && before? == some '\r'))
  | word condition ascii =>
    condition.holds (before?.any (isWordCharacter ascii)) (after?.any (isWordCharacter ascii))

/-- What a pattern is made of. In a repetition, `most` is the greatest number of rounds if there
is one, and `greedy` says whether more rounds are preferred to fewer. -/
inductive Pattern where
  | empty
  | text (chars : List Char)
  | oneOf (set : Charset)
  | boundary (boundary : Boundary)
  | group (index : Nat) (body : Pattern)
  | seq (first second : Pattern)
  | alt (first second : Pattern)
  | loop (body : Pattern) (least : Nat) (most : Option Nat) (greedy : Bool)
deriving DecidableEq, Inhabited, Repr

namespace Pattern

/-- The least number of characters in a match. A pattern with an empty set somewhere in it has
none. -/
def leastLength : Pattern → Option Nat
  | empty => some 0
  | text chars => some chars.length
  | oneOf set => if set = .none then none else some 1
  | boundary _ => some 0
  | group _ body => body.leastLength
  | seq first second => do return (← first.leastLength) + (← second.leastLength)
  | alt first second => do return min (← first.leastLength) (← second.leastLength)
  | loop body least _ _ => body.leastLength.map (· * least)

/-- Whether no match takes a character, and there may be one. -/
def takesNothing : Pattern → Bool
  | empty => true
  | text chars => chars.isEmpty
  | oneOf _ => false
  | boundary _ => true
  | group _ body => body.takesNothing
  | seq first second => first.takesNothing && second.takesNothing
  | alt first second => first.takesNothing && second.takesNothing
  | loop body _ most _ => most.isSome && body.takesNothing

def takesCharacters (pattern : Pattern) : Bool :=
  pattern.leastLength.any (0 < ·)

/-- Whether every match is known to begin at the beginning of the text. -/
def beginsAtStart : Pattern → Bool
  | boundary condition => condition = .textStart
  | group _ body => body.beginsAtStart
  | seq first second =>
    first.beginsAtStart || (first.takesNothing && second.beginsAtStart)
  | alt first second => first.beginsAtStart && second.beginsAtStart
  | loop body least _ _ => 0 < least && body.beginsAtStart
  | _ => false

/-- Whether every match is known to end at the end of the text. -/
def endsAtEnd : Pattern → Bool
  | boundary condition => condition = .textEnd
  | group _ body => body.endsAtEnd
  | seq first second => second.endsAtEnd || (second.takesNothing && first.endsAtEnd)
  | alt first second => first.endsAtEnd && second.endsAtEnd
  | loop body least _ _ => 0 < least && body.endsAtEnd
  | _ => false

def lastGroup : Pattern → Nat
  | group index body => max index body.lastGroup
  | seq first second => max first.lastGroup second.lastGroup
  | alt first second => max first.lastGroup second.lastGroup
  | loop body _ _ _ => body.lastGroup
  | _ => 0

def shiftGroups (offset : Nat) : Pattern → Pattern
  | group index body => group (offset + index) (body.shiftGroups offset)
  | seq first second => seq (first.shiftGroups offset) (second.shiftGroups offset)
  | alt first second => alt (first.shiftGroups offset) (second.shiftGroups offset)
  | loop body least most greedy => loop (body.shiftGroups offset) least most greedy
  | pattern => pattern

end Pattern

end CodeFolding
