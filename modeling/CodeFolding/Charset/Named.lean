import CodeFolding.Charset

set_option autoImplicit false

namespace CodeFolding

namespace Charset

/-- A set and its names, in lower case and without blanks, underscores and hyphens. -/
structure Named where
  names : List String
  set : Charset
deriving Inhabited, Repr

def named? (sets : List Named) (name : String) : Option Charset :=
  (sets.find? (·.names.contains name)).map Named.set

end Charset

end CodeFolding
