import CodeFolding.Outline
import CodeFolding.Settings
import CodeFolding.Text

set_option autoImplicit false

namespace CodeFolding

namespace Preview

/-- How many lines a preview shows at most. -/
def maxLines : Nat := 30

/-- What stands for text that is left out. -/
def ellipsis : String := "..."

def expandTabs (tabSize : Nat) (line : List Char) : List Char :=
  line.flatMap fun c => if c = '\t' then List.replicate tabSize ' ' else [c]

/-- How much white space a line begins with, unless it holds nothing else. -/
def indentation? (line : List Char) : Option Nat :=
  if Text.isBlank line then none else some (line.takeWhile Unicode.isBlank).length

/-- The lines of a text from the first that is not blank. -/
def body (text : List Char) : List (List Char) :=
  (Text.lines text).dropWhile Text.isBlank

/-- The lines that a preview shows, still indented. -/
def shown (tabSize : Nat) (text : List Char) : List (List Char) :=
  ((body text).take maxLines).map (expandTabs tabSize)

/-- The indentation that all lines share, blank ones apart. -/
def commonIndentation (lines : List (List Char)) : Nat :=
  ((lines.filterMap indentation?).min?).getD 0

/-- The first lines of a text without the indentation they share, and a mark if there are
more. -/
def format (tabSize : Nat) (text : List Char) : String :=
  let lines := shown tabSize text
  let lines := lines.map fun line => String.ofList (line.drop (commonIndentation lines))
  "\n".intercalate (if maxLines < (body text).length then lines ++ [ellipsis] else lines)

end Preview

namespace Outline

def startLine (outline : Outline) (id : Nat) : Nat :=
  outline.document.lineOf (outline.region id).start

def stopLine? (outline : Outline) (id : Nat) : Option Nat :=
  (outline.region id).stop?.map outline.document.lineOf

/-- Whether a region is complete and ends on another line than it begins. -/
def isMultiLine (outline : Outline) (id : Nat) : Bool :=
  (outline.stopLine? id).any fun line => line != outline.startLine id

def bodyText (outline : Outline) (id : Nat) : String :=
  let region := outline.region id
  outline.document.slice
    (Span.ordered region.start (region.stop?.getD outline.document.length))

def leadingText (outline : Outline) (id : Nat) : String :=
  let line := outline.startLine id
  outline.document.slice (Span.ordered (outline.document.lineStart line)
    (min (outline.region id).start (outline.document.lineEnd line)))

/-- Whether a region counts as a definition: it is the body of a function or a named region, or
it stands directly in a named region or in none at all. -/
def isDefinition (outline : Outline) (id : Nat) : Bool :=
  let region := outline.region id
  region.role == .function || region.kind == .named ||
    region.parent?.any fun parent =>
      let kind := (outline.region parent).kind
      kind == .document || kind == .named

def isCollapsed (outline : Outline) (settings : Settings) (id : Nat) : Bool :=
  (outline.isDefinition id && settings.collapseDefinitions) ||
    settings.collapses (outline.region id).kind

/-- What is shown in place of a collapsed region: the name of a named region, the first line of a
comment. -/
def placeholder (outline : Outline) (id : Nat) : String :=
  let region := outline.region id
  match region.kind with
  | .named => region.name?.getD ""
  | .comment =>
    let lineEnd := outline.document.lineEndWithBreak (outline.startLine id)
    let first := outline.document.slice (Span.ordered region.start lineEnd)
    String.ofList (Text.trimEnd first.toList) ++ " " ++ Preview.ellipsis
  | _ => Preview.ellipsis

/-- The text that the preview of a region is made from. Text in front of the region counts only
as indentation. -/
def previewSource (outline : Outline) (id : Nat) : List Char :=
  let before := (outline.leadingText id).toList
  (if Text.isBlank before then before else []) ++ (outline.bodyText id).toList

def preview (outline : Outline) (tabSize id : Nat) : String :=
  Preview.format tabSize (outline.previewSource id)

/-- The numbers of the regions that can be folded: complete, on more than one line, in document
order. -/
def foldable (outline : Outline) : List Nat :=
  outline.descendants.filter outline.isMultiLine

/-- Whether two comments belong together: white space alone stands between them, and the second
begins no more than one line below the end of the first. -/
def commentsAdjoin (outline : Outline) (first second : Nat) : Bool :=
  let one := outline.region first
  let two := outline.region second
  one.kind == .comment && two.kind == .comment && two.isComplete &&
    match one.stop? with
    | none => false
    | some stop =>
      stop ≤ two.start && outline.startLine second ≤ outline.document.lineOf stop + 1 &&
        outline.document.isBlank (Span.ordered stop two.start)

end Outline

end CodeFolding
