import CodeFolding.Cursor
import CodeFolding.Outline.Preview

set_option autoImplicit false

namespace CodeFolding

/-- The rules of a dialect, over a state that every one of them may change. At each position of
the cursor the dialect observes it, may start a region there, and if it does not, may close the
innermost open region. -/
structure Dialect (σ : Type) where
  /-- Takes note of the position before anything is decided. -/
  observe : σ → Cursor → σ
  /-- The region that starts at the position, if one does. -/
  start : σ → Cursor → σ × Option Draft
  /-- Revises a region that has started. -/
  found : σ → Draft → σ × Draft
  /-- Where the innermost open region ends, if it is closed at the position. -/
  close : σ → Region → Cursor → σ × Option Nat
  /-- Whether the second region is to become part of the first, which stands in front of it. -/
  merge : σ → Outline → Nat → Nat → σ × Bool
  /-- Takes note that the search for regions begins, goes on inside a region or behind one. -/
  resume : σ → σ

end CodeFolding
