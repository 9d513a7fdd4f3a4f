import CodeFolding.Datum
import CodeFolding.Dialect.Brace
import CodeFolding.Pattern.Reader
import CodeFolding.Pattern.Search

set_option autoImplicit false

namespace CodeFolding

/-- The four kinds of marks that open and close named regions. -/
inductive Marker where
  | commentStart
  | commentEnd
  | directiveStart
  | directiveEnd
deriving DecidableEq, Inhabited, Repr

def Marker.label : Marker → String
  | commentStart => "comment start"
  | commentEnd => "comment end"
  | directiveStart => "directive start"
  | directiveEnd => "directive end"

/-- Written patterns for the marks; a mark without one is not in use. A pattern for a start has
the name of the region as its first group. -/
structure Markers where
  commentStart : Option String := some "^/[/*]\\s*#region\\s(.+?)(\\*/)?$"
  commentEnd : Option String := some "^/[/*]\\s*#endregion"
  directiveStart : Option String := some "^#\\s*region\\b[ \\t]*(.*?)[ \\t]*$"
  directiveEnd : Option String := some "^#\\s*endregion\\b"
deriving DecidableEq, Inhabited, Repr

namespace Markers

def disabled : Markers :=
  ⟨none, none, none, none⟩

def inComments : Markers :=
  { directiveStart := none, directiveEnd := none }

def keys : List String :=
  ["comment_start", "comment_end", "directive_start", "directive_end"]

/-- The patterns that a file gives; those it leaves out keep their defaults, and `null` puts a
mark out of use. -/
def ofDatum? (datum : Datum) : Option Markers := do
  let fields ← datum.fields? keys
  let standard : Markers := {}
  return {
    commentStart := ← Datum.readOr standard.commentStart Datum.optionalText?
      (fields "comment_start")
    commentEnd := ← Datum.readOr standard.commentEnd Datum.optionalText? (fields "comment_end")
    directiveStart := ← Datum.readOr standard.directiveStart Datum.optionalText?
      (fields "directive_start")
    directiveEnd := ← Datum.readOr standard.directiveEnd Datum.optionalText?
      (fields "directive_end") }

end Markers

/-- Why the pattern of a mark cannot be used. -/
inductive MarkerError where
  | malformed (marker : Marker) (pattern : String)
  | nameless (marker : Marker) (pattern : String)
deriving DecidableEq, Inhabited, Repr

def MarkerError.message : MarkerError → String
  | malformed marker pattern => s!"invalid {marker.label} pattern `{pattern}`"
  | nameless marker pattern =>
    s!"{marker.label} pattern `{pattern}` has no capture group for the region name"

/-- The configuration of a language. -/
structure Language where
  name : String := "brace"
  keywords : List String := ["function"]
  functionKeywords : List String := ["function"]
  markers : Markers := {}
deriving DecidableEq, Inhabited, Repr

namespace Language

def csharp : Language where
  name := "csharp"
  keywords := [
    "abstract", "as", "base", "bool", "break", "case", "catch", "class", "const", "continue",
    "default", "delegate", "do", "else", "enum", "event", "false", "finally", "for", "foreach",
    "get", "if", "in", "interface", "internal", "is", "namespace", "new", "null", "object",
    "override", "private", "protected", "public", "readonly", "return", "set", "static",
    "string", "struct", "switch", "this", "throw", "true", "try", "using", "var", "virtual",
    "void", "while"]
  functionKeywords := []

def javascript : Language where
  name := "javascript"
  keywords := [
    "break", "case", "catch", "class", "const", "continue", "default", "delete", "do", "else",
    "export", "extends", "false", "finally", "for", "function", "if", "import", "in",
    "instanceof", "let", "new", "null", "return", "switch", "this", "throw", "true", "try",
    "typeof", "undefined", "var", "void", "while", "yield"]
  markers := Markers.inComments

def keys : List String :=
  ["name", "keywords", "function_keywords", "region_markers"]

/-- The language that a file describes; what it leaves out keeps its default. -/
def ofDatum? (datum : Datum) : Option Language := do
  let fields ← datum.fields? keys
  let standard : Language := {}
  return {
    name := ← Datum.readOr standard.name Datum.text? (fields "name")
    keywords := ← Datum.readOr standard.keywords Datum.texts? (fields "keywords")
    functionKeywords := ← Datum.readOr standard.functionKeywords Datum.texts?
      (fields "function_keywords")
    markers := ← Datum.readOr standard.markers Markers.ofDatum? (fields "region_markers") }

def readPattern (marker : Marker) (source : String) : Except MarkerError Pattern :=
  match Pattern.ofString? source with
  | some written => .ok written.pattern
  | none => .error (.malformed marker source)

def readMark (marker : Marker) (source : String) : Except MarkerError Plan := do
  let pattern ← readPattern marker source
  return pattern.plan

/-- How to find a mark that opens a region, which needs a group for the name. -/
def readStart (marker : Marker) (source : String) : Except MarkerError Plan := do
  let pattern ← readPattern marker source
  if pattern.lastGroup = 0 then .error (.nameless marker source) else .ok pattern.plan

/-- The name that the text of an opening mark gives to its region: what the first group holds,
and if that is nothing, the text itself without white space around it. -/
def nameIn? (plan : Plan) (text : String) : Option String :=
  let input := text.toList.toArray
  (plan.search? input).map fun found =>
    let name := match found.group? 1 with
      | some span => (input.extract span.start span.stop).toList
      | none => []
    String.ofList (if name.isEmpty then Text.trim text.toList else name)

def isMark (plan : Plan) (text : String) : Bool :=
  plan.isFoundIn text.toList.toArray

/-- The rules of the language, unless one of its marks has a pattern that cannot be used; of
several, the first is reported. -/
def rules (language : Language) : Except MarkerError BraceRules := do
  let markers := language.markers
  let commentStart ← markers.commentStart.mapM (readStart .commentStart)
  let commentEnd ← markers.commentEnd.mapM (readMark .commentEnd)
  let directiveStart ← markers.directiveStart.mapM (readStart .directiveStart)
  let directiveEnd ← markers.directiveEnd.mapM (readMark .directiveEnd)
  return {
    commentStart? := fun text => commentStart.bind (nameIn? · text)
    commentEnd := fun text => commentEnd.any (isMark · text)
    directiveStart? := fun text => directiveStart.bind (nameIn? · text)
    directiveEnd := fun text => directiveEnd.any (isMark · text)
    isFunctionKeyword := fun text => language.functionKeywords.contains text }

end Language

end CodeFolding
