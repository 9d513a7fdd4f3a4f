import CodeFolding.Span

set_option autoImplicit false

namespace CodeFolding

namespace Token

inductive Kind where
  | punctuation
  | operator
  | comment
  | directive
  | keyword
  | identifier
  | string
  | number
  | other
deriving DecidableEq, Inhabited, Repr

namespace Kind

def all : List Kind :=
  [punctuation, operator, comment, directive, keyword, identifier, string, number, other]

/-- Whether one token of the kind may stand for several, so that its characters are read one by
one. -/
def isCompound (kind : Kind) : Bool :=
  kind == punctuation

end Kind

end Token

/-- A span of text and its lexical kind. -/
structure Token extends Span where
  kind : Token.Kind
deriving DecidableEq, Inhabited, Repr

namespace Token

/-- Takes the tokens of a list in turn, from `covered` on and up to the offset `length`, and
leaves out those that are empty, reach past `length` or begin in front of what is covered. -/
def select (length covered : Nat) : List Token → List Token
  | [] => []
  | token :: rest =>
    if token.isEmpty || length < token.stop || token.start < covered then
      select length covered rest
    else token :: select length token.stop rest

/-- The tokens to walk in a text of `length` characters: sorted, not empty, within the text and
not overlapping. Of two that overlap the one that comes first in order stays. -/
def arrange (length : Nat) (tokens : List Token) : List Token :=
  select length 0 (tokens.mergeSort fun left right => left.toSpan.le right.toSpan)

end Token

end CodeFolding
