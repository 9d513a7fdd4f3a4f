set_option autoImplicit false

namespace CodeFolding

/-- A set of characters, given by the code points where membership changes, in increasing order:
the characters from the first bound on are in the set, those from the second on are not, and so
on. -/
structure Charset where
  bounds : List Nat
deriving DecidableEq, Inhabited, Repr

namespace Charset

/-- Whether `code` is in the set with the given bounds, if what lies below all of them counts as
`inside`. -/
def within (inside : Bool) : List Nat → Nat → Bool
  | [], _ => inside
  | bound :: rest, code => if code < bound then inside else within (!inside) rest code

/-- Whether the set has the character with the given code point. -/
def holds (set : Charset) (code : Nat) : Bool :=
  within false set.bounds code

def contains (set : Charset) (c : Char) : Bool :=
  set.holds c.toNat

def none : Charset :=
  ⟨[]⟩

/-- Every character; surrogates are not characters. -/
def any : Charset :=
  ⟨[0, 0xD800, 0xE000, 0x110000]⟩

/-- A bound at `code` unless nothing changes there. -/
def boundAt (code : Nat) (before after : Bool) (rest : List Nat) : List Nat :=
  if before = after then rest else code :: rest

/-- The bounds of the set of all code points where `operation` holds of being in the one set and
being in the other. Every step passes a bound, so that the number of bounds is enough `fuel`. -/
def mergeBounds (operation : Bool → Bool → Bool) :
    Nat → Bool → Bool → List Nat → List Nat → List Nat
  | 0, _, _, _, _ => []
  | _ + 1, _, _, [], [] => []
  | fuel + 1, inLeft, inRight, a :: left, [] =>
    boundAt a (operation inLeft inRight) (operation (!inLeft) inRight)
      (mergeBounds operation fuel (!inLeft) inRight left [])
  | fuel + 1, inLeft, inRight, [], b :: right =>
    boundAt b (operation inLeft inRight) (operation inLeft (!inRight))
      (mergeBounds operation fuel inLeft (!inRight) [] right)
  | fuel + 1, inLeft, inRight, a :: left, b :: right =>
    if a < b then
      boundAt a (operation inLeft inRight) (operation (!inLeft) inRight)
        (mergeBounds operation fuel (!inLeft) inRight left (b :: right))
    else if b < a then
      boundAt b (operation inLeft inRight) (operation inLeft (!inRight))
        (mergeBounds operation fuel inLeft (!inRight) (a :: left) right)
    else
      boundAt a (operation inLeft inRight) (operation (!inLeft) (!inRight))
        (mergeBounds operation fuel (!inLeft) (!inRight) left right)

/-- The set of all code points where `operation` holds of being in `left` and being in `right`. It
must not hold of being in neither. -/
def merge (operation : Bool → Bool → Bool) (left right : Charset) : Charset :=
  ⟨mergeBounds operation (left.bounds.length + right.bounds.length) false false left.bounds
    right.bounds⟩

def union (left right : Charset) : Charset :=
  merge (· || ·) left right

def inter (left right : Charset) : Charset :=
  merge (· && ·) left right

def diff (left right : Charset) : Charset :=
  merge (fun inLeft inRight => inLeft && !inRight) left right

def symmDiff (left right : Charset) : Charset :=
  merge (· != ·) left right

def complement (set : Charset) : Charset :=
  any.diff set

def negateIf (negated : Bool) (set : Charset) : Charset :=
  if negated then set.complement else set

def range (first last : Nat) : Charset :=
  inter any ⟨[first, last + 1]⟩

def single (c : Char) : Charset :=
  ⟨[c.toNat, c.toNat + 1]⟩

/-- The union of ranges in increasing order, no two of which touch. -/
def ofRanges (ranges : List (Nat × Nat)) : Charset :=
  ⟨ranges.flatMap fun range => [range.1, range.2 + 1]⟩

/-- Ranges in increasing order, with those that touch made into one. -/
def joinRanges : List (Nat × Nat) → List (Nat × Nat)
  | [] => []
  | (first, last) :: rest =>
    match joinRanges rest with
    | [] => [(first, last)]
    | (next, later) :: more =>
      if last + 1 = next then (first, later) :: more else (first, last) :: (next, later) :: more

/-- The union of runs in increasing order, each with every `step`-th code point from its first to
its last. -/
def ofSteps (runs : List (Nat × Nat × Nat)) : Charset :=
  ofRanges (joinRanges (runs.flatMap fun (first, last, step) =>
    if step = 1 then [(first, last)]
    else (List.range ((last - first) / step + 1)).map fun index =>
      (first + index * step, first + index * step)))

def ofCodes (codes : List Nat) : Charset :=
  codes.foldl (fun set code => set.union (range code code)) none

/-- The ranges between bounds, of code points that follow each other. -/
def rangesBetween : List Nat → List (Nat × Nat)
  | first :: behind :: rest => (first, behind - 1) :: rangesBetween rest
  | _ => []

def ranges (set : Charset) : List (Nat × Nat) :=
  rangesBetween set.bounds

/-- The character of a set that has one alone. -/
def single? (set : Charset) : Option Char :=
  match set.bounds with
  | [first, behind] => if behind = first + 1 then some (Char.ofNat first) else .none
  | _ => .none

/-- A set of ranges in increasing order has what one of the ranges has. -/
theorem holds_ofRanges (ranges : List (Nat × Nat)) (code : Nat)
    (filled : ∀ range ∈ ranges, range.1 ≤ range.2)
    (apart : ranges.Pairwise fun range later => range.2 < later.1) :
    (ofRanges ranges).holds code =
      ranges.any fun range => decide (range.1 ≤ code) && decide (code ≤ range.2) := by
  induction ranges with
  | nil => rfl
  | cons range rest ih =>
    obtain ⟨above, restApart⟩ := List.pairwise_cons.mp apart
    have rule := ih (fun later inRest => filled later (List.mem_cons_of_mem _ inRest)) restApart
    have own := filled range List.mem_cons_self
    simp only [holds, ofRanges] at rule
    simp only [holds, ofRanges, List.flatMap_cons, List.cons_append, List.nil_append, within,
      Bool.not_false, Bool.not_true, rule, List.any_cons]
    by_cases below : code < range.1
    · have outside : rest.any (fun later => decide (later.1 ≤ code) && decide (code ≤ later.2)) =
          false := by
        simp only [List.any_eq_false, Bool.and_eq_true, decide_eq_true_eq]
        intro later inRest
        have := above later inRest
        omega
      simp [below, outside, Nat.not_le.mpr below]
    · have same : code < range.2 + 1 ↔ code ≤ range.2 := by omega
      simp only [below, same, Nat.not_lt.mp below, if_false, decide_true, Bool.true_and]
      by_cases inside : code ≤ range.2
      · simp [inside]
      · simp [inside]

end Charset

end CodeFolding
