import CodeFolding.Unicode.Age
import CodeFolding.Unicode.Property
import CodeFolding.Unicode.Script.Extension
import CodeFolding.Unicode.Segment

set_option autoImplicit false

namespace CodeFolding.Unicode

/-- A name as names are compared: in lower case, without blanks, underscores, hyphens and what is
not ASCII, and without the word `is` in front. That word stays if the name is `isc`, which would
become the name of a category. -/
def looseName (name : List Char) : String :=
  let tight (name : List Char) : List Char :=
    (name.filter fun c => c.toNat < 0x80 && c != ' ' && c != '_' && c != '-').map Char.toLower
  match name with
  | 'i' :: 's' :: rest | 'I' :: 's' :: rest | 'i' :: 'S' :: rest | 'I' :: 'S' :: rest =>
    if tight rest = ['c'] then "isc" else String.ofList (tight rest)
  | name => String.ofList (tight name)

/-- The names that stand for a category and not for the property of the same name. -/
def categoryFirst : List String :=
  ["cf", "sc", "lc"]

def named? (name : List Char) : Option Charset :=
  let name := looseName name
  (if categoryFirst.contains name then none else Charset.named? properties name) <|>
    Charset.named? categories name <|> Charset.named? scripts name

/-- The set of the characters for which a property has the given value. -/
def valued? (property value : List Char) : Option Charset :=
  let value := looseName value
  match looseName property with
  | "gc" | "generalcategory" => Charset.named? categories value
  | "sc" | "script" => Charset.named? scripts value
  | "scx" | "scriptextensions" =>
    (scripts.find? (·.names.contains value)).map Script.usedWith
  | "age" => Age.assignedIn? value
  | "gcb" | "graphemeclusterbreak" => Charset.named? clusterBreaks value
  | "wb" | "wordbreak" => Charset.named? wordBreaks value
  | "sb" | "sentencebreak" => Charset.named? sentenceBreaks value
  | _ => none

end CodeFolding.Unicode
