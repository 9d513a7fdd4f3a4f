import CodeFolding.Lexicon

set_option autoImplicit false

namespace CodeFolding

namespace Lexicon

/-- Comments to the end of the line and between stars, directive lines, strings in three kinds of
quotes, numbers, identifiers, brackets and operators. -/
def bracePatterns : List (String × Token.Kind) := [
  ("//[^\\r\\n]*", .comment),
  ("/\\*(?s:.*?)(?:\\*/|\\z)", .comment),
  ("#[^\\r\\n]*", .directive),
  ("\"(?:\\\\.|[^\"\\\\\\r\\n])*\"?", .string),
  ("'(?:\\\\.|[^'\\\\\\r\\n])*'?", .string),
  ("`(?:\\\\.|[^`\\\\])*`?", .string),
  ("\\d[\\w.]*", .number),
  ("[\\p\x7bL\x7d_$][\\p\x7bL\x7d\\p\x7bN\x7d_$]*", .identifier),
  ("[\x7b\x7d\\[\\]();,]+", .punctuation),
  ("[-+*/%=<>!&|^~?:.@]+", .operator)]

def braceRules? : Option (List Rule) :=
  bracePatterns.mapM fun (source, kind) => Rule.ofString? source kind

def brace? : Option Lexicon :=
  braceRules?.bind ofRules?

end Lexicon

end CodeFolding
