import CodeFolding.Dialect

set_option autoImplicit false

namespace CodeFolding

/-- Opens a block at every opening brace and closes it at a closing one. -/
def Dialect.plain : Dialect Unit where
  observe state _ := state
  start state cursor :=
    (state, if cursor.char? = some '\x7b' then
      some { start := cursor.position, kind := .block } else none)
  found state draft := (state, draft)
  close state region cursor :=
    (state, if region.kind = .block ∧ cursor.char? = some '\x7d' then
      some (cursor.position + 1) else none)
  merge state outline last id := (state, outline.commentsAdjoin last id)
  resume state := state

end CodeFolding
