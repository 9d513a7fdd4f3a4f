import CodeFolding.Pattern.Basic
import CodeFolding.Pattern.Reader.Flags
import CodeFolding.Unicode.Query

set_option autoImplicit false

namespace CodeFolding

namespace Pattern

namespace Reader

inductive Escape where
  | char (c : Char)
  | oneOf (set : Charset)
  | boundary (boundary : Boundary)
deriving Inhabited, Repr

def hexValue? (c : Char) : Option Nat :=
  if c.isDigit then some (c.toNat - '0'.toNat)
  else if 'a' ≤ c ∧ c ≤ 'f' then some (c.toNat - 'a'.toNat + 10)
  else if 'A' ≤ c ∧ c ≤ 'F' then some (c.toNat - 'A'.toNat + 10)
  else none

/-- The character whose code point has the given hexadecimal digits. -/
def charOfHex? (digits : List Char) : Option Char :=
  if digits.isEmpty then none
  else do
    let values ← digits.mapM hexValue?
    let code := values.foldl (fun code value => code * 16 + value) 0
    if code.isValidChar then some (Char.ofNat code) else none

/-- A code point in braces or with exactly `width` digits. With two digits it is a byte, and where
a pattern is not Unicode only bytes of ASCII are characters. -/
def hexEscape? (flags : Flags) (width : Nat) (rest : List Char) : Option (Escape × List Char) :=
  match flags.skip rest with
  | '\x7b' :: rest => do
    let (digits, behind) ← flags.braced? rest
    let c ← charOfHex? digits
    return (.char c, behind)
  | rest => do
    let (digits, behind) ← flags.take? width rest
    let c ← charOfHex? digits
    if width = 2 ∧ ¬flags.unicode ∧ 0x80 ≤ c.toNat then none else return (.char c, behind)

/-- The text in front of the first place where `separator` stands, and the text behind it. -/
def splitAt? (separator : List Char) : List Char → Option (List Char × List Char)
  | [] => none
  | c :: rest =>
    if separator.isPrefixOf (c :: rest) then some ([], (c :: rest).drop separator.length)
    else (splitAt? separator rest).map fun (before, behind) => (c :: before, behind)

/-- The set that the text in the braces of a property stands for: a name, or a property and its
value. Whatever stands between the two, the property has that value. -/
def property? (text : List Char) : Option Charset :=
  match splitAt? ['!', '='] text <|> splitAt? [':'] text <|> splitAt? ['='] text with
  | some (name, value) => Unicode.valued? name value
  | none => Unicode.named? text

/-- A property in braces or by one letter, and what follows it. -/
def propertyText? (flags : Flags) (rest : List Char) : Option (Option Charset × List Char) :=
  match flags.skip rest with
  | [] => none
  | '\x7b' :: rest => do
    let (inner, behind) ← flags.braced? rest
    return (property? inner, behind)
  | c :: rest => some (Unicode.named? [c], rest)

/-- The set that a property stands for. Patterns that are not Unicode have no properties. -/
def propertyEscape? (flags : Flags) (negated : Bool) (rest : List Char) :
    Option (Escape × List Char) := do
  let (set?, behind) ← propertyText? flags rest
  let set ← set?
  if flags.unicode then return (.oneOf ((flags.fold set).negateIf negated), behind) else none

/-- Whether an escaped `c` stands for itself: every ASCII character that is neither a letter nor
a digit does, the angle brackets apart. -/
def standsForItself (c : Char) : Bool :=
  c.toNat < 0x80 && !c.isAlphanum && c != '<' && c != '>'

def wordBoundary (flags : Flags) (condition : WordEdge) : Escape :=
  .boundary (.word condition (!flags.unicode))

/-- A word boundary with a name in braces. Braces around anything but letters and hyphens are not
part of the escape. -/
def wordBoundary? (flags : Flags) (rest : List Char) : Option (Escape × List Char) :=
  match rest with
  | '\x7b' :: inner =>
    match flags.skip inner with
    | [] => none
    | c :: _ =>
      if c.isAlpha || c == '-' then do
        let (name, behind) ← flags.braced? inner
        match String.ofList name with
        | "start" => return (wordBoundary flags .start, behind)
        | "end" => return (wordBoundary flags .stop, behind)
        | "start-half" => return (wordBoundary flags .notAfterWord, behind)
        | "end-half" => return (wordBoundary flags .notBeforeWord, behind)
        | _ => none
      else some (wordBoundary flags .edge, rest)
  | rest => some (wordBoundary flags .edge, rest)

def asciiDigits : Charset :=
  .ofRanges [(0x30, 0x39)]

def asciiBlanks : Charset :=
  .ofRanges [(0x09, 0x0D), (0x20, 0x20)]

def asciiWord : Charset :=
  .ofRanges [(0x30, 0x39), (0x41, 0x5A), (0x5F, 0x5F), (0x61, 0x7A)]

/-- A set with a letter of its own. What is not in it are not characters alone where a pattern is
not Unicode. -/
def shorthand? (flags : Flags) (unicode ascii : Charset) (negated : Bool) : Option Escape :=
  if flags.unicode then some (.oneOf (unicode.negateIf negated))
  else if negated then none
  else some (.oneOf ascii)

/-- The shorthand sets, and those of the characters that are not in them. -/
def setOfLetter? (flags : Flags) : Char → Option Escape
  | 'd' => shorthand? flags Unicode.digits asciiDigits false
  | 'D' => shorthand? flags Unicode.digits asciiDigits true
  | 's' => shorthand? flags Unicode.blanks asciiBlanks false
  | 'S' => shorthand? flags Unicode.blanks asciiBlanks true
  | 'w' => shorthand? flags Unicode.wordCharacters asciiWord false
  | 'W' => shorthand? flags Unicode.wordCharacters asciiWord true
  | _ => none

/-- Reads what stands behind a backslash. -/
def escape? (flags : Flags) : List Char → Option (Escape × List Char)
  | [] => none
  | c :: rest =>
    match c with
    | 'x' => hexEscape? flags 2 rest
    | 'u' => hexEscape? flags 4 rest
    | 'U' => hexEscape? flags 8 rest
    | 'p' => propertyEscape? flags false rest
    | 'P' => propertyEscape? flags true rest
    | 'a' => some (.char '\x07', rest)
    | 't' => some (.char '\t', rest)
    | 'n' => some (.char '\n', rest)
    | 'v' => some (.char '\x0b', rest)
    | 'f' => some (.char '\x0c', rest)
    | 'r' => some (.char '\r', rest)
    | 'A' => some (.boundary .textStart, rest)
    | 'z' => some (.boundary .textEnd, rest)
    | 'b' => wordBoundary? flags rest
    | 'B' => some (wordBoundary flags .noEdge, rest)
    | '<' => some (wordBoundary flags .start, rest)
    | '>' => some (wordBoundary flags .stop, rest)
    | c =>
      if standsForItself c then some (.char c, rest)
      else (setOfLetter? flags c).map fun escape => (escape, rest)

end Reader

end Pattern

end CodeFolding
