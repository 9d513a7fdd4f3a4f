import CodeFolding.Pattern.Reader.Class
import CodeFolding.Pattern.Size

set_option autoImplicit false

namespace CodeFolding

namespace Pattern

/-- A pattern as it was read: how deep it is nested, how many groups it opens, the names among them
with the numbers of their groups, and whether its text ends inside a comment. A group, a repetition,
a bracket, a sequence and a choice are one step of nesting each. -/
structure Written where
  pattern : Pattern
  depth : Nat
  groupCount : Nat
  names : List (String × Nat)
  endsInComment : Bool
deriving DecidableEq, Inhabited, Repr

namespace Written

/-- Patterns that are nested deeper are refused. -/
def depthLimit : Nat :=
  250

/-- Whether the pattern is neither nested too deep nor too large. -/
def isModest (written : Written) : Bool :=
  written.depth ≤ depthLimit && written.pattern.isSmall

end Written

namespace Reader

/-- Part of a pattern and how deep it is nested. -/
structure Piece where
  pattern : Pattern
  depth : Nat
deriving Inhabited, Repr

/-- Pieces put together: one step deeper than the deepest if there are two or more. -/
def Piece.join (compose : List Pattern → Pattern) (pieces : List Piece) : Piece :=
  let depth := (pieces.map Piece.depth).foldl max 0
  ⟨compose (pieces.map Piece.pattern), if pieces.length < 2 then depth else depth + 1⟩

/-- Part of a branch: a piece, or a setting of flags, which cannot be repeated. -/
inductive Item where
  | ofPiece (piece : Piece)
  | setting
deriving Inhabited, Repr

def Item.toPiece : Item → Piece
  | ofPiece piece => piece
  | setting => ⟨empty, 0⟩

/-- A group that is still open: its number if it captures, the flags outside it, the branches
that are complete and the items of the current one, the latest first. -/
structure OpenGroup where
  index : Option Nat
  outside : Flags
  branches : List Piece
  items : List Item
deriving Inhabited, Repr

namespace OpenGroup

def branch (level : OpenGroup) : Piece :=
  Piece.join sequence (level.items.reverse.map Item.toPiece)

def nextBranch (level : OpenGroup) : OpenGroup :=
  { level with branches := level.branch :: level.branches, items := [] }

def push (level : OpenGroup) (piece : Piece) : OpenGroup :=
  { level with items := .ofPiece piece :: level.items }

/-- All branches of the group. -/
def body (level : OpenGroup) : Piece :=
  Piece.join choice (level.branch :: level.branches).reverse

def close (level : OpenGroup) : Piece :=
  let body := level.body
  match level.index with
  | some index => ⟨group index body.pattern, body.depth + 1⟩
  | none => ⟨body.pattern, body.depth + 1⟩

end OpenGroup

/-- What has been read so far: the flags in force, the innermost open group and those around it,
the number of groups opened, and the names among them. -/
structure State where
  flags : Flags
  level : OpenGroup
  outer : List OpenGroup
  groupCount : Nat
  names : List (String × Nat)
deriving Inhabited, Repr

namespace State

def start : State :=
  ⟨{}, ⟨none, {}, [], []⟩, [], 0, []⟩

def push (state : State) (pattern : Pattern) : State :=
  { state with level := state.level.push ⟨pattern, 0⟩ }

/-- Opens a group; `inside` are the flags in it. -/
def openGroup (state : State) (index : Option Nat) (inside : Flags) : State :=
  { state with
    flags := inside
    level := ⟨index, state.flags, [], []⟩
    outer := state.level :: state.outer }

def openCapture (state : State) : State :=
  { state.openGroup (some (state.groupCount + 1)) state.flags with
    groupCount := state.groupCount + 1 }

def openNamed (state : State) (name : String) : State :=
  { state.openCapture with names := state.names ++ [(name, state.groupCount + 1)] }

def closeGroup? (state : State) : Option State :=
  match state.outer with
  | [] => none
  | up :: outer =>
    some { state with
      flags := state.level.outside
      level := up.push state.level.close
      outer := outer }

def repeat? (state : State) (least : Nat) (most : Option Nat) (greedy : Bool) : Option State :=
  match state.level.items with
  | .ofPiece piece :: items =>
    let repeated := piece.pattern.times least most (greedy != state.flags.swapGreed)
    some { state with
      level := { state.level with items := .ofPiece ⟨repeated, piece.depth + 1⟩ :: items } }
  | _ => none

end State

/-- A question mark behind a repetition makes it prefer fewer rounds. -/
def greediness : List Char → Bool × List Char
  | '?' :: rest => (false, rest)
  | rest => (true, rest)

/-- The same behind a counted repetition, where blanks and comments may stand in front of it. -/
def countedGreediness (flags : Flags) (rest : List Char) : Bool × List Char :=
  match flags.skip rest with
  | '?' :: rest => (false, rest)
  | _ => (true, rest)

/-- A count between blanks. The greatest is the greatest word of 32 bits. -/
def countIn (flags : Flags) (text : List Char) : Option Nat × List Char :=
  let text := (flags.skip text).dropWhile Unicode.isBlank
  let (digits, rest) := flags.span Char.isDigit text.length text
  let count := digits.foldl (fun count c => count * 10 + (c.toNat - '0'.toNat)) 0
  (if digits.isEmpty || 0xFFFFFFFF < count then none else some count,
    rest.dropWhile Unicode.isBlank)

/-- The bounds of a counted repetition behind its opening brace. -/
def bounds? (flags : Flags) (rest : List Char) : Option (Nat × Option Nat × List Char) := do
  let (least?, rest) := countIn flags rest
  let least ← least?
  match rest with
  | '\x7d' :: rest => return (least, some least, rest)
  | ',' :: rest =>
    match flags.skip rest with
    | '\x7d' :: rest => return (least, none, rest)
    | rest =>
      let (most?, rest) := countIn flags rest
      let most ← most?
      match rest with
      | '\x7d' :: rest => if least ≤ most then return (least, some most, rest) else none
      | _ => none
  | _ => none

/-- The flags of a setting, with the letters read so far, up to the colon or bracket that ends
them; `on` becomes false behind a hyphen. -/
def settings? (flags : Flags) (seen : List Char) (on : Bool) :
    List Char → Option (Flags × List Char × List Char)
  | [] => none
  | c :: rest =>
    if c = ':' ∨ c = ')' then
      if seen.head? = some '-' then none else some (flags, seen, c :: rest)
    else if seen.contains c then none
    else match c with
      | '-' => settings? flags (c :: seen) false rest
      | 'i' => settings? { flags with ignoreCase := on } (c :: seen) on rest
      | 'm' => settings? { flags with multiLine := on } (c :: seen) on rest
      | 's' => settings? { flags with dotAll := on } (c :: seen) on rest
      | 'U' => settings? { flags with swapGreed := on } (c :: seen) on rest
      | 'u' => settings? { flags with unicode := on } (c :: seen) on rest
      | 'x' => settings? { flags with verbose := on } (c :: seen) on rest
      | 'R' => settings? { flags with returns := on } (c :: seen) on rest
      | _ => none

def isGroupName : List Char → Bool
  | [] => false
  | c :: rest => Unicode.beginsName c && rest.all Unicode.continuesName

def namedGroup? (state : State) (rest : List Char) : Option (State × List Char) :=
  let name := rest.takeWhile (· != '>')
  match rest.dropWhile (· != '>') with
  | [] => none
  | _ :: behind =>
    if isGroupName name && (state.names.lookup (String.ofList name)).isNone then
      some (state.openNamed (String.ofList name), behind)
    else none

/-- A group behind its opening bracket. Conditions on the text around it are not among the
groups. -/
def group? (state : State) (rest : List Char) : Option (State × List Char) :=
  match state.flags.skip rest with
  | '?' :: '=' :: _ => none
  | '?' :: '!' :: _ => none
  | '?' :: '<' :: '=' :: _ => none
  | '?' :: '<' :: '!' :: _ => none
  | '?' :: 'P' :: '<' :: rest => namedGroup? state rest
  | '?' :: '<' :: rest => namedGroup? state rest
  | '?' :: rest => do
    let (flags, seen, rest) ← settings? state.flags [] true rest
    match rest with
    | ':' :: rest => return (state.openGroup none flags, rest)
    | _ :: rest =>
      if seen.isEmpty then none
      else return ({ state with
        flags := flags
        level := { state.level with items := .setting :: state.level.items } }, rest)
    | [] => none
  | rest => some (state.openCapture, rest)

/-- The pattern that an escape stands for. -/
def escaped (flags : Flags) : Escape → Pattern
  | .char c => ofSet (flags.fold (.single c))
  | .oneOf set => ofSet set
  | .boundary condition => boundary condition

/-- The characters that a period stands for. They are not characters alone where a pattern is not
Unicode. -/
def periodSet? (flags : Flags) : Option Charset :=
  if !flags.unicode then none
  else if flags.dotAll then some .any
  else if flags.returns then some (Charset.ofRanges [(0x0A, 0x0A), (0x0D, 0x0D)]).complement
  else some (Charset.single '\n').complement

/-- Reads what begins with `c`. No more than `fuel` characters follow. -/
def step? (fuel : Nat) (state : State) (c : Char) (rest : List Char) :
    Option (State × List Char) :=
  match c with
  | '(' => group? state rest
  | ')' => do return (← state.closeGroup?, rest)
  | '|' => some ({ state with level := state.level.nextBranch }, rest)
  | '[' => do
    let (nested, rest) ← bracketed? state.flags fuel rest
    return ({ state with level := state.level.push ⟨ofSet nested.set, nested.depth⟩ }, rest)
  | '?' => do
    let (greedy, rest) := greediness rest
    return (← state.repeat? 0 (some 1) greedy, rest)
  | '*' => do
    let (greedy, rest) := greediness rest
    return (← state.repeat? 0 none greedy, rest)
  | '+' => do
    let (greedy, rest) := greediness rest
    return (← state.repeat? 1 none greedy, rest)
  | '\x7b' => do
    let (least, most, rest) ← bounds? state.flags rest
    let (greedy, rest) := countedGreediness state.flags rest
    return (← state.repeat? least most greedy, rest)
  | '\\' => do
    let (escape, rest) ← escape? state.flags rest
    return (state.push (escaped state.flags escape), rest)
  | '.' => do
    let set ← periodSet? state.flags
    return (state.push (ofSet set), rest)
  | '^' =>
    let condition := if state.flags.multiLine then .lineStart state.flags.returns else .textStart
    some (state.push (boundary condition), rest)
  | '$' =>
    let condition := if state.flags.multiLine then .lineEnd state.flags.returns else .textEnd
    some (state.push (boundary condition), rest)
  | c => some (state.push (escaped state.flags (.char c)), rest)

/-- Reads a pattern to its end, and tells whether that is inside a comment. Every step reads a
character, so that one more than the length of the text is enough `fuel`. -/
def read? : Nat → State → List Char → Option (State × Bool)
  | 0, _, _ => none
  | fuel + 1, state, written =>
    match state.flags.skip written with
    | [] => some (state, endsInComment false written)
    | c :: rest => do
      let (state, behind) ← step? fuel state c rest
      read? fuel state behind

end Reader

/-- The pattern that `text` describes, unless it is malformed, nested too deep or too large. -/
def ofString? (text : String) : Option Written :=
  match Reader.read? (text.length + 1) .start text.toList with
  | none => none
  | some (state, endsInComment) =>
    let whole := state.level.body
    let written : Written :=
      ⟨whole.pattern, whole.depth, state.groupCount, state.names, endsInComment⟩
    if state.outer.isEmpty && written.isModest then some written else none

end Pattern

end CodeFolding
