import CodeFolding.Unicode.Blank

set_option autoImplicit false

namespace CodeFolding

namespace Text

def isBlank (text : List Char) : Bool :=
  text.all Unicode.isBlank

def trimEnd (text : List Char) : List Char :=
  (text.reverse.dropWhile Unicode.isBlank).reverse

def trim (text : List Char) : List Char :=
  trimEnd (text.dropWhile Unicode.isBlank)

/-- The parts of the text between line feeds; one more than there are line feeds. -/
def splitFeeds : List Char → List (List Char)
  | [] => [[]]
  | c :: rest =>
    if c = '\n' then [] :: splitFeeds rest
    else match splitFeeds rest with
      | [] => [[c]]
      | line :: later => (c :: line) :: later

/-- The text without a carriage return at its end. -/
def dropReturn (line : List Char) : List Char :=
  if line.getLast? = some '\r' then line.dropLast else line

def lines (text : List Char) : List (List Char) :=
  (splitFeeds text).map dropReturn

end Text

end CodeFolding
