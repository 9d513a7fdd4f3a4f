import CodeFolding.Pattern.Plan
import CodeFolding.Span
import Std.Data.TreeSet.Basic

/-!
Where a plan matches in a text. The ways to match are tried in the order of preference, and the
first that succeeds is taken. No decision is taken twice at the same position: the first time led
to no match, or the second is part of it and would lead in a circle.
-/

set_option autoImplicit false

namespace CodeFolding

namespace Plan

/-- The decisions that have been taken, each by its position and its mark. -/
abbrev Trail := Std.TreeSet (Nat × Nat) (compareLex (compareOn Prod.fst) (compareOn Prod.snd))

/-- A computation that may fail and that remembers the decisions on its way. What comes behind a
failure still knows the decisions before it. -/
abbrev Attempt (α : Type) := OptionT (StateM Trail) α

/-- Takes the decision `mark` at `position`, unless it was taken before. -/
def decideAt (mark position : Nat) : Attempt Unit := fun trail =>
  match trail.containsThenInsert (position, mark) with
  | (true, trail) => (none, trail)
  | (false, trail) => (some (), trail)

/-- How far a match has come, and the groups it has closed, the latest first. -/
structure Progress where
  position : Nat
  groups : List (Nat × Span)
deriving DecidableEq, Inhabited, Repr

/-- A way to match part of a plan: given where it begins and what remains to be matched. -/
abbrev Matcher (α : Type) := Progress → (Progress → Attempt α) → Attempt α

def hasText (input : Array Char) : List Char → Nat → Bool
  | [], _ => true
  | c :: rest, position => input[position]? == some c && hasText input rest (position + 1)

/-- The first of two ways that succeeds; `inOrder` says that `first` comes first. -/
def either {α : Type} (inOrder : Bool) (first second : Attempt α) : Attempt α :=
  if inOrder then first <|> second else second <|> first

/-- Any number of rounds of `body`. Every round moves on, so that there are no more than `fuel` of
them, where `fuel` counts the positions from the current one to the end. -/
def repeated {α : Type} (body : Matcher α) (mark : Nat) (greedy : Bool)
    (next : Progress → Attempt α) : Nat → Progress → Attempt α
  | 0, _ => failure
  | fuel + 1, progress => do
    decideAt mark progress.position
    either greedy (body progress (repeated body mark greedy next fuel)) (next progress)

/-- Matches the plan from `progress` on and then `next`. -/
def run {α : Type} (input : Array Char) : Plan → Matcher α
  | empty, progress, next => next progress
  | text chars, progress, next =>
    if hasText input chars progress.position then
      next { progress with position := progress.position + chars.length }
    else failure
  | oneOf set, progress, next =>
    if input[progress.position]?.any set.contains then
      next { progress with position := progress.position + 1 }
    else failure
  | boundary condition, progress, next =>
    if condition.holds input progress.position then next progress else failure
  | group index body, progress, next =>
    run input body progress fun later =>
      next { later with groups := (index, ⟨progress.position, later.position⟩) :: later.groups }
  | seq first second, progress, next =>
    run input first progress fun later => run input second later next
  | alt first second, progress, next =>
    run input first progress next <|> run input second progress next
  | once mark body, progress, next => do
    decideAt mark progress.position
    run input body progress next
  | star mark body greedy, progress, next =>
    repeated (fun progress next => run input body progress next) mark greedy next
      (input.size + 1 - progress.position) progress

/-- A span that a plan matches, and what its groups hold, the latest first. -/
structure Match extends Span where
  groups : List (Nat × Span)
deriving DecidableEq, Inhabited, Repr

/-- What the group `index` holds, unless it took no part in the match. -/
def Match.group? (found : Match) (index : Nat) : Option Span :=
  found.groups.lookup index

/-- Where the search for the next match begins. -/
def Match.behind (found : Match) : Nat :=
  if found.isEmpty then found.stop + 1 else found.stop

/-- The match that begins at `position`. -/
def matchAt (plan : Plan) (input : Array Char) (position : Nat) : Attempt Match :=
  plan.run input ⟨position, []⟩ fun done => pure ⟨⟨position, done.position⟩, done.groups⟩

/-- The first match that begins at one of the `count` positions from `position` on. -/
def matchAmong (plan : Plan) (input : Array Char) : Nat → Nat → Attempt Match
  | 0, _ => failure
  | count + 1, position =>
    plan.matchAt input position <|> matchAmong plan input count (position + 1)

/-- The first match that begins at `position` or behind it. -/
def searchFrom? (plan : Plan) (input : Array Char) (position : Nat) : Option Match :=
  ((plan.matchAmong input (input.size + 1 - position) position).run ∅).1

def search? (plan : Plan) (input : Array Char) : Option Match :=
  plan.searchFrom? input 0

def isFoundIn (plan : Plan) (input : Array Char) : Bool :=
  (plan.search? input).isSome

/-- All matches from `position` on, each behind the one before. `touching` says that a match that
is not empty ends at `position`; an empty match there is passed over. -/
def matchesFrom (plan : Plan) (input : Array Char) (position : Nat) (touching : Bool) :
    List Match :=
  match plan.searchFrom? input position with
  | none => []
  | some found =>
    let rest := if position < found.behind ∧ position ≤ input.size then
        matchesFrom plan input found.behind (!found.isEmpty)
      else []
    if touching && found.isEmpty && found.start == position then rest else found :: rest
termination_by input.size + 1 - position

def allMatches (plan : Plan) (input : Array Char) : List Match :=
  plan.matchesFrom input 0 false

end Plan

end CodeFolding
