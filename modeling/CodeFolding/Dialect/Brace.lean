import CodeFolding.Dialect

set_option autoImplicit false

namespace CodeFolding

/-- What sets one language with braces apart from another: which comments and directive lines
open a named region, under which name, which ones close it, and which keywords announce a
function. -/
structure BraceRules where
  commentStart? : String → Option String
  commentEnd : String → Bool
  directiveStart? : String → Option String
  directiveEnd : String → Bool
  isFunctionKeyword : String → Bool

namespace BraceRules

def announcesFunction (rules : BraceRules) (cursor : Cursor) : Bool :=
  match cursor.token? with
  | none => false
  | some token =>
    token.kind == .keyword && token.start == cursor.position &&
      rules.isFunctionKeyword (cursor.document.slice token.toSpan)

/-- The region that a comment opens or is. A comment that closes a named region is none. -/
def startComment? (rules : BraceRules) (token : Token) (text : String) : Option Draft :=
  match rules.commentStart? text with
  | some name => some { start := token.start, kind := .named, name? := some name }
  | none =>
    if rules.commentEnd text then none
    else some { start := token.start, kind := .comment, stop? := some token.stop }

def start? (rules : BraceRules) (cursor : Cursor) : Option Draft :=
  match cursor.token? with
  | none => none
  | some token =>
    match token.kind with
    | .punctuation =>
      match cursor.char? with
      | some '\x7b' => some { start := cursor.position, kind := .block }
      | some '[' => some { start := cursor.position, kind := .array }
      | _ => none
    | .comment =>
      if token.start = cursor.position then
        rules.startComment? token (cursor.document.slice token.toSpan)
      else none
    | .directive =>
      (rules.directiveStart? (cursor.document.slice token.toSpan)).map fun name =>
        { start := token.start, kind := .named, name? := some name }
    | _ => none

/-- Where a region of `kind` ends that is closed at the cursor. -/
def close? (rules : BraceRules) (kind : Region.Kind) (cursor : Cursor) : Option Nat :=
  match cursor.token? with
  | none => none
  | some token =>
    match kind, token.kind with
    | .block, .punctuation =>
      if cursor.char? = some '\x7d' then some (cursor.position + 1) else none
    | .array, .punctuation =>
      if cursor.char? = some ']' then some (cursor.position + 1) else none
    | .named, .comment =>
      if rules.commentEnd (cursor.document.slice token.toSpan) then some token.stop else none
    | .named, .directive =>
      if rules.directiveEnd (cursor.document.slice token.toSpan) then some token.stop else none
    | _, _ => none

end BraceRules

/-- The dialect of a language with braces. Its state says whether a function keyword has come
since a region was last opened or closed. -/
def Dialect.brace (rules : BraceRules) : Dialect Bool where
  observe announced cursor := announced || rules.announcesFunction cursor
  start announced cursor := (announced, rules.start? cursor)
  found announced draft :=
    (false, if draft.kind = .block && announced then { draft with role := .function } else draft)
  close announced region cursor := (announced, rules.close? region.kind cursor)
  merge announced outline last id := (announced, outline.commentsAdjoin last id)
  resume _ := false

end CodeFolding
