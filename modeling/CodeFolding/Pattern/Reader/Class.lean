import CodeFolding.Pattern.Reader.Escape

set_option autoImplicit false

namespace CodeFolding

namespace Pattern

namespace Reader

/-- The operations between the parts of a bracketed set. -/
inductive SetOperation where
  | inter
  | diff
  | symmDiff
deriving DecidableEq, Inhabited, Repr

def SetOperation.apply : SetOperation → Charset → Charset → Charset
  | inter => Charset.inter
  | diff => Charset.diff
  | symmDiff => Charset.symmDiff

/-- A set inside brackets, and how deep it is nested: a bracket, an operation and a union of two
or more items are one step each. -/
structure Nested where
  set : Charset
  depth : Nat
deriving Inhabited, Repr

/-- A bracket that is still open: whether it is negated, what stands in front of the last
operation, and the union of what came after it, with the number of its items. -/
structure OpenSet where
  negated : Bool
  operand : Option (Nested × SetOperation)
  items : Nested
  count : Nat
deriving Inhabited, Repr

/-- The complement of the set where `negated` asks for it. It is not a set of characters where a
pattern is not Unicode. -/
def negated? (flags : Flags) (negated : Bool) (set : Charset) : Option Charset :=
  if negated && !flags.unicode then none else some (set.negateIf negated)

namespace OpenSet

def start (negated : Bool) : OpenSet :=
  ⟨negated, none, ⟨.none, 0⟩, 0⟩

def add (level : OpenSet) (item : Nested) : OpenSet :=
  { level with
    items := ⟨level.items.set.union item.set, max level.items.depth item.depth⟩
    count := level.count + 1 }

def value (flags : Flags) (level : OpenSet) : Nested :=
  let items := { level.items with
    depth := if level.count < 2 then level.items.depth else level.items.depth + 1 }
  match level.operand with
  | none => items
  | some (left, operation) =>
    ⟨operation.apply (flags.fold left.set) (flags.fold items.set),
      max left.depth items.depth + 1⟩

/-- Goes on behind an operation. -/
def operate (flags : Flags) (level : OpenSet) (operation : SetOperation) : OpenSet :=
  { start level.negated with operand := some (level.value flags, operation) }

def close? (flags : Flags) (level : OpenSet) : Option Nested :=
  let value := level.value flags
  (negated? flags level.negated (flags.fold value.set)).map fun set => ⟨set, value.depth + 1⟩

end OpenSet

/-- Reads hyphens at the beginning of a bracket, which stand for themselves. Every step reads a
character, so that the length of the text is enough `fuel`. -/
def leadingHyphens (flags : Flags) : Nat → OpenSet → List Char → OpenSet × List Char
  | 0, level, written => (level, written)
  | fuel + 1, level, written =>
    match flags.skip written with
    | '-' :: rest => leadingHyphens flags fuel (level.add ⟨.single '-', 0⟩) rest
    | rest => (level, rest)

/-- Reads the beginning of a bracket: a caret, hyphens, and a closing bracket that stands for
itself because nothing is in front of it. -/
def openBracket (flags : Flags) (text : List Char) : OpenSet × List Char :=
  let (negated, rest) := match flags.skip text with
    | '^' :: rest => (true, rest)
    | rest => (false, rest)
  let (level, rest) := leadingHyphens flags rest.length (.start negated) rest
  match level.count, flags.skip rest with
  | 0, ']' :: rest => (level.add ⟨.single ']', 0⟩, rest)
  | _, rest => (level, rest)

/-- The sets with a name of their own inside brackets. -/
def asciiSet? : String → Option Charset
  | "alnum" => some (.ofRanges [(0x30, 0x39), (0x41, 0x5A), (0x61, 0x7A)])
  | "alpha" => some (.ofRanges [(0x41, 0x5A), (0x61, 0x7A)])
  | "ascii" => some (.ofRanges [(0x00, 0x7F)])
  | "blank" => some (.ofRanges [(0x09, 0x09), (0x20, 0x20)])
  | "cntrl" => some (.ofRanges [(0x00, 0x1F), (0x7F, 0x7F)])
  | "digit" => some asciiDigits
  | "graph" => some (.ofRanges [(0x21, 0x7E)])
  | "lower" => some (.ofRanges [(0x61, 0x7A)])
  | "print" => some (.ofRanges [(0x20, 0x7E)])
  | "punct" => some (.ofRanges [(0x21, 0x2F), (0x3A, 0x40), (0x5B, 0x60), (0x7B, 0x7E)])
  | "space" => some asciiBlanks
  | "upper" => some (.ofRanges [(0x41, 0x5A)])
  | "word" => some asciiWord
  | "xdigit" => some (.ofRanges [(0x30, 0x39), (0x41, 0x46), (0x61, 0x66)])
  | _ => none

/-- A named set behind its opening bracket, as far as it is one: the set, whether it is negated,
and what follows. -/
def namedSet? (rest : List Char) : Option (Charset × Bool × List Char) :=
  match rest with
  | ':' :: rest =>
    let (negated, rest) := match rest with
      | '^' :: rest => (true, rest)
      | rest => (false, rest)
    match rest.dropWhile (· != ':') with
    | ':' :: ']' :: behind => do
      let set ← asciiSet? (String.ofList (rest.takeWhile (· != ':')))
      return (set, negated, behind)
    | _ => none
  | _ => none

/-- One item inside brackets: a character, or the set an escape stands for. -/
def setItem? (flags : Flags) : List Char → Option (Escape × List Char)
  | [] => none
  | '\\' :: rest => do
    let (escape, rest) ← escape? flags rest
    match escape with
    | .boundary _ => none
    | escape => return (escape, rest)
  | c :: rest => some (.char c, rest)

/-- Whether `c` may stand in a bracket: where a pattern is not Unicode, only ASCII may. -/
def isItem (flags : Flags) (c : Char) : Bool :=
  flags.unicode || c.toNat < 0x80

/-- The set an item stands for. -/
def itemSet? (flags : Flags) : Escape → Option Charset
  | .char c => if isItem flags c then some (.single c) else none
  | .oneOf set => some set
  | .boundary _ => none

/-- The character behind a hyphen. A number sign in front of it is passed over with the blanks. -/
def behindHyphen? (flags : Flags) (rest : List Char) : Option Char :=
  if flags.verbose then
    match rest.dropWhile Unicode.isBlank with
    | '#' :: rest => (rest.dropWhile Unicode.isBlank).head?
    | rest => rest.head?
  else rest.head?

/-- An item or a range of characters. A hyphen makes a range unless the bracket closes or another
hyphen follows. -/
def setRange? (flags : Flags) (text : List Char) : Option (Charset × List Char) := do
  let (first, rest) ← setItem? flags text
  match flags.skip rest with
  | '-' :: behind =>
    if behindHyphen? flags behind = some ']' ∨ behindHyphen? flags behind = some '-' then
      return (← itemSet? flags first, '-' :: behind)
    else
      let (last, rest) ← setItem? flags (flags.skip behind)
      match first, last with
      | .char a, .char b =>
        if a ≤ b ∧ isItem flags a ∧ isItem flags b then
          return (.range a.toNat b.toNat, rest)
        else none
      | _, _ => none
  | rest => return (← itemSet? flags first, rest)

/-- Reads a bracketed set up to the end of the outermost bracket. `level` is the innermost open
bracket and `outer` are those around it. Every step reads a character, so that the length of the
text is enough `fuel`. -/
def brackets? (flags : Flags) :
    Nat → OpenSet → List OpenSet → List Char → Option (Nested × List Char)
  | 0, _, _, _ => none
  | fuel + 1, level, outer, written =>
    match flags.skip written with
    | [] => none
    | ']' :: rest => do
      let closed ← level.close? flags
      match outer with
      | [] => return (closed, rest)
      | up :: outer => brackets? flags fuel (up.add closed) outer rest
    | '[' :: rest =>
      match namedSet? rest with
      | some (set, negated, rest) => do
        let set ← negated? flags negated (flags.fold set)
        brackets? flags fuel (level.add ⟨set, 0⟩) outer rest
      | none =>
        let (inner, rest) := openBracket flags rest
        brackets? flags fuel inner (level :: outer) rest
    | '&' :: '&' :: rest => brackets? flags fuel (level.operate flags .inter) outer rest
    | '-' :: '-' :: rest => brackets? flags fuel (level.operate flags .diff) outer rest
    | '~' :: '~' :: rest => brackets? flags fuel (level.operate flags .symmDiff) outer rest
    | written => do
      let (set, rest) ← setRange? flags written
      brackets? flags fuel (level.add ⟨set, 0⟩) outer rest

/-- Reads a bracketed set behind its opening bracket. -/
def bracketed? (flags : Flags) (fuel : Nat) (rest : List Char) : Option (Nested × List Char) :=
  let (level, rest) := openBracket flags rest
  brackets? flags fuel level [] rest

end Reader

end Pattern

end CodeFolding
