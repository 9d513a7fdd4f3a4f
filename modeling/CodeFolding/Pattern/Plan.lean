import CodeFolding.Pattern.Basic

set_option autoImplicit false

namespace CodeFolding

/-- How to match a pattern. Of two alternatives, `first` is tried before `second`. What has a mark
is tried only once from any position: the body of `once`, and the decision of `star`, before every
round of its body, whether there is another one. -/
inductive Plan where
  | empty
  | text (chars : List Char)
  | oneOf (set : Charset)
  | boundary (boundary : Boundary)
  | group (index : Nat) (body : Plan)
  | seq (first second : Plan)
  | alt (first second : Plan)
  | once (mark : Nat) (body : Plan)
  | star (mark : Nat) (body : Plan) (greedy : Bool)
deriving DecidableEq, Inhabited, Repr

namespace Plan

/-- Makes a plan whose marks begin with a given number, and gives the number behind its last
mark. -/
abbrev Maker := Nat → Plan × Nat

def optional (mark : Nat) (body : Plan) (greedy : Bool) : Plan :=
  once mark (if greedy then alt body empty else alt empty body)

def exactly (body : Maker) : Nat → Maker
  | 0, mark => (empty, mark)
  | count + 1, mark =>
    let (first, mark) := body mark
    let (rest, mark) := exactly body count mark
    (seq first rest, mark)

def upTo (body : Maker) (greedy : Bool) : Nat → Maker
  | 0, mark => (empty, mark)
  | count + 1, mark =>
    let (first, behind) := body (mark + 1)
    let (rest, behind) := upTo body greedy count behind
    (optional mark (seq first rest) greedy, behind)

/-- One or more rounds. The first has the marks of the later ones. -/
def oneOrMore (body : Maker) (greedy : Bool) : Maker := fun mark =>
  let (round, behind) := body (mark + 1)
  (seq round (star mark round greedy), behind)

/-- Any number of rounds. Where a round may be empty, the first round is a matter of its own. -/
def zeroOrMore (body : Maker) (takesCharacters greedy : Bool) : Maker := fun mark =>
  if takesCharacters then
    let (round, behind) := body (mark + 1)
    (star mark round greedy, behind)
  else
    let (rounds, behind) := oneOrMore body greedy (mark + 1)
    (optional mark rounds greedy, behind)

def followedBy (first second : Maker) : Maker := fun mark =>
  let (before, mark) := first mark
  let (after, mark) := second mark
  (seq before after, mark)

def rounds (body : Maker) (takesCharacters : Bool) (least : Nat) (most : Option Nat)
    (greedy : Bool) : Maker :=
  match least, most with
  | least, some most => followedBy (exactly body least) (upTo body greedy (most - least))
  | 0, none => zeroOrMore body takesCharacters greedy
  | least + 1, none => followedBy (exactly body least) (oneOrMore body greedy)

/-- The plan of a pattern. A choice has one mark for all its alternatives; `inside` says that the
pattern is the later part of a choice that has got its mark. -/
def ofPattern (inside : Bool) : Pattern → Maker
  | .empty, mark => (empty, mark)
  | .text chars, mark => (text chars, mark)
  | .oneOf set, mark => (oneOf set, mark)
  | .boundary condition, mark => (boundary condition, mark)
  | .group index body, mark =>
    let (body, mark) := ofPattern false body mark
    (group index body, mark)
  | .seq first second, mark =>
    followedBy (fun mark => ofPattern false first mark) (fun mark => ofPattern false second mark)
      mark
  | .alt first second, mark =>
    let (first, behind) := ofPattern false first (if inside then mark else mark + 1)
    let (second, behind) := ofPattern true second behind
    (if inside then alt first second else once mark (alt first second), behind)
  | .loop body least most greedy, mark =>
    rounds (fun mark => ofPattern false body mark) body.takesCharacters least most greedy mark

end Plan

def Pattern.plan (pattern : Pattern) : Plan :=
  (Plan.ofPattern false pattern 0).1

end CodeFolding
