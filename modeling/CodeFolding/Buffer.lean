import CodeFolding.Revision

set_option autoImplicit false

namespace CodeFolding

/-- The reason why an edit is refused: its span is not in order or not within the text. -/
structure OutOfBounds where
  start : Nat
  stop : Nat
  length : Nat
deriving DecidableEq, Inhabited, Repr

def OutOfBounds.message (fault : OutOfBounds) : String :=
  s!"span {fault.start}..{fault.stop} is out of bounds for a text of {fault.length} chars"

/-- The current revision, the changes kept so far, oldest first, and how many of them are kept. -/
structure Buffer where
  current : Revision
  history : List Change
  limit : Nat

namespace Buffer

def defaultLimit : Nat := 64

def ofDocument (document : Document) : Buffer :=
  ⟨Revision.detached document 0, [], defaultLimit⟩

instance : Inhabited Buffer := ⟨ofDocument default⟩

def latest (limit : Nat) (history : List Change) : List Change :=
  history.drop (history.length - limit)

/-- Keeps `limit` changes from now on, and at least one. -/
def withLimit (buffer : Buffer) (limit : Nat) : Buffer :=
  let limit := max limit 1
  { buffer with history := latest limit buffer.history, limit := limit }

def splice (document : Document) (span : Span) (inserted : Array Char) : Array Char :=
  document.chars.extract 0 span.start ++ inserted ++
    document.chars.extract span.stop document.length

def replace (buffer : Buffer) (span : Span) (text : String) : Except OutOfBounds Buffer :=
  let document := buffer.current.document
  if span.stop < span.start ∨ document.length < span.stop then
    .error ⟨span.start, span.stop, document.length⟩
  else
    let chars := splice document span text.toList.toArray
    let change : Change :=
      { baseVersion := buffer.current.version
        lengthBefore := document.length
        lengthAfter := chars.size
        edits := [⟨span.start, document.slice span, text⟩] }
    let history := latest buffer.limit (buffer.history ++ [change])
    .ok { buffer with
      current := ⟨Document.ofChars chars, buffer.current.version + 1, history⟩
      history := history }

def insert (buffer : Buffer) (offset : Nat) (text : String) : Except OutOfBounds Buffer :=
  buffer.replace (Span.point offset) text

def delete (buffer : Buffer) (span : Span) : Except OutOfBounds Buffer :=
  buffer.replace span ""

end Buffer

end CodeFolding
