import CodeFolding.Unicode.Blank
import CodeFolding.Unicode.CaseFold

set_option autoImplicit false

namespace CodeFolding

namespace Pattern

namespace Reader

/-- The flags in force at a place of a pattern. A pattern that is not `unicode` knows no characters
but those of ASCII in its sets and boundaries. In a `verbose` one blanks and comments stand for
nothing. With `returns` a carriage return ends a line too. -/
structure Flags where
  ignoreCase : Bool := false
  multiLine : Bool := false
  dotAll : Bool := false
  swapGreed : Bool := false
  unicode : Bool := true
  verbose : Bool := false
  returns : Bool := false
deriving DecidableEq, Inhabited, Repr

/-- What follows blanks and comments. A comment goes from a number sign to the end of its line;
`inComment` says that the text begins inside one. -/
def passBlanks (inComment : Bool) : List Char → List Char
  | [] => []
  | c :: rest =>
    if inComment then passBlanks (c != '\n') rest
    else if Unicode.isBlank c then passBlanks false rest
    else if c = '#' then passBlanks true rest
    else c :: rest

/-- Whether a text of blanks and comments ends inside a comment. -/
def endsInComment (inComment : Bool) : List Char → Bool
  | [] => inComment
  | c :: rest => endsInComment (if inComment then c != '\n' else c = '#') rest

namespace Flags

def skip (flags : Flags) (text : List Char) : List Char :=
  if flags.verbose then passBlanks false text else text

/-- The first characters of a text, `count` of them, and what follows. -/
def take? (flags : Flags) : Nat → List Char → Option (List Char × List Char)
  | 0, written => some ([], written)
  | count + 1, written =>
    match flags.skip written with
    | [] => none
    | c :: rest => (flags.take? count rest).map fun (chars, behind) => (c :: chars, behind)

/-- The characters of a text as long as they satisfy a condition, and what follows them. Every step
reads a character, so that the length of the text is enough `fuel`. -/
def span (flags : Flags) (condition : Char → Bool) : Nat → List Char → List Char × List Char
  | 0, written => ([], written)
  | fuel + 1, written =>
    match flags.skip written with
    | [] => ([], [])
    | c :: rest =>
      if condition c then
        let (chars, behind) := flags.span condition fuel rest
        (c :: chars, behind)
      else ([], c :: rest)

/-- The text up to a closing brace, and what stands behind that brace. -/
def braced? (flags : Flags) (text : List Char) : Option (List Char × List Char) :=
  match flags.span (· != '\x7d') text.length text with
  | (_, []) => none
  | (inner, _ :: behind) => some (inner, behind)

/-- The set with all case variants of its characters, where case does not matter. -/
def fold (flags : Flags) (set : Charset) : Charset :=
  if !flags.ignoreCase then set
  else if flags.unicode then set.folded
  else set.foldedAscii

end Flags

end Reader

end Pattern

end CodeFolding
