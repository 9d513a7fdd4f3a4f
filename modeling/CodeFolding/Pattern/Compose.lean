import CodeFolding.Pattern.Basic

/-!
How patterns are put together. Equal parts get equal forms: a sequence has no sequence, no empty
pattern and no two texts next to each other as its elements, an alternative is no choice, and what
all alternatives of a choice begin with stands once in front of it. The order in which the ways to
match are tried follows these forms.
-/

set_option autoImplicit false

namespace CodeFolding

namespace Pattern

def ofSet (set : Charset) : Pattern :=
  match set.single? with
  | some c => text [c]
  | none => oneOf set

/-- What the pattern is a sequence of. -/
def elements : Pattern → List Pattern
  | empty => []
  | seq first second => first :: second.elements
  | pattern => [pattern]

def alternatives : Pattern → List Pattern
  | alt first second => first :: second.alternatives
  | pattern => [pattern]

/-- Makes one text of texts next to each other. -/
def joinTexts : List Pattern → List Pattern
  | [] => []
  | pattern :: rest =>
    match pattern, joinTexts rest with
    | text front, text back :: rest => text (front ++ back) :: rest
    | pattern, rest => pattern :: rest

def ofElements : List Pattern → Pattern
  | [] => empty
  | [pattern] => pattern
  | pattern :: rest => seq pattern (ofElements rest)

def ofAlternatives : List Pattern → Pattern
  | [] => empty
  | [pattern] => pattern
  | pattern :: rest => alt pattern (ofAlternatives rest)

def sequence (patterns : List Pattern) : Pattern :=
  ofElements (joinTexts (patterns.flatMap elements))

def character? : Pattern → Option Charset
  | text [c] => some (.single c)
  | _ => none

def set? : Pattern → Option Charset
  | oneOf set => some set
  | _ => none

/-- One set for alternatives all of which are single characters, or all of which are sets. -/
def commonSet? (patterns : List Pattern) : Option Charset :=
  (patterns.mapM character? <|> patterns.mapM set?).map (·.foldl Charset.union .none)

/-- A choice between alternatives with different beginnings. -/
def choiceOf (patterns : List Pattern) : Pattern :=
  match patterns.flatMap alternatives with
  | [] => empty
  | [pattern] => pattern
  | patterns =>
    match commonSet? patterns with
    | some set => ofSet set
    | none => ofAlternatives patterns

/-- What two lists begin with alike. -/
def sharedStart : List Pattern → List Pattern → List Pattern
  | left :: lefts, right :: rights => if left = right then left :: sharedStart lefts rights else []
  | _, _ => []

/-- The elements of a pattern that is a sequence of two or more. -/
def row? : Pattern → Option (List Pattern)
  | seq first second => some (seq first second).elements
  | _ => none

/-- What all of the alternatives begin with, and what follows in each; nothing if there is no such
beginning. -/
def factored? (patterns : List Pattern) : Option (List Pattern × List (List Pattern)) :=
  match patterns.mapM row? with
  | some (row :: rows) =>
    match rows.foldl sharedStart row with
    | [] => none
    | start => some (start, (row :: rows).map (·.drop start.length))
  | _ => none

def choice (patterns : List Pattern) : Pattern :=
  match factored? (patterns.flatMap alternatives) with
  | some (start, row :: other :: rows) =>
    sequence (start ++ [choiceOf ((row :: other :: rows).map sequence)])
  | _ => choiceOf patterns

/-- Between `least` and `most` rounds of `body`. A body that takes no character is matched once at
most, and no round at all is no group either. -/
def times (body : Pattern) (least : Nat) (most : Option Nat) (greedy : Bool) : Pattern :=
  let (least, most) :=
    if body.takesNothing then (min least 1, some (min (most.getD 1) 1)) else (least, most)
  if most = some 0 then empty
  else if least = 1 ∧ most = some 1 then body
  else loop body least most greedy

end Pattern

end CodeFolding
