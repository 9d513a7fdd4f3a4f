import CodeFolding.Buffer
import CodeFolding.Dialect.Plain
import CodeFolding.Dialect.Scripted
import CodeFolding.Language
import CodeFolding.Lexicon.Brace
import CodeFolding.Publisher
import CodeFolding.Proofs.Blanks
import CodeFolding.Proofs.Buffer.Replay
import CodeFolding.Proofs.Buffer.Window
import CodeFolding.Proofs.Cursor.Walk
import CodeFolding.Proofs.Lexicon
import CodeFolding.Proofs.Outline.Comments
import CodeFolding.Proofs.Outline.Delimiters
import CodeFolding.Proofs.Outline.Descent
import CodeFolding.Proofs.Outline.Laminar
import CodeFolding.Proofs.Outline.Matching
import CodeFolding.Proofs.Outline.Moves
import CodeFolding.Proofs.Outline.Nesting
import CodeFolding.Proofs.Outline.Numbering
import CodeFolding.Proofs.Outline.Openings
import CodeFolding.Proofs.Outline.Preorder
import CodeFolding.Proofs.Outline.Siblings
import CodeFolding.Proofs.Outline.Starts
import CodeFolding.Proofs.Pattern.Endings
import CodeFolding.Proofs.Publisher.History
import CodeFolding.Proofs.Publisher.Laminar
import CodeFolding.Proofs.Publisher.Session
import CodeFolding.Proofs.Buffer.Survivors
import CodeFolding.Proofs.Buffer.Replacement
import CodeFolding.Proofs.Edit.Nesting
import CodeFolding.Proofs.Outline.Functions
import CodeFolding.Proofs.Token.Arrangement
import CodeFolding.Proofs.Outline.Prepend
import CodeFolding.Proofs.Outline.Lowered
import CodeFolding.Proofs.Publisher.Prepend
import CodeFolding.Proofs.Pattern.Shift
import CodeFolding.Proofs.Lexicon.Race
import CodeFolding.Proofs.Lexicon.Precedence
import CodeFolding.Proofs.Pattern.Compose
import CodeFolding.Proofs.Pattern.Reader.Behind
import CodeFolding.Proofs.Pattern.Reader.Sets
import CodeFolding.Proofs.Pattern.Reader.Counts
import CodeFolding.Proofs.Pattern.Reader.Inside
import CodeFolding.Proofs.Pattern.Reader.Group
import CodeFolding.Proofs.Lexicon.Joined
import CodeFolding.Proofs.Span.Bounding
import CodeFolding.Proofs.Publisher.Queries
import CodeFolding.Proofs.Lexicon.Bytes
import CodeFolding.Proofs.Pattern.Backtrack
import CodeFolding.Proofs.Pattern.Ahead
import CodeFolding.Proofs.Outline.Labels
import CodeFolding.Proofs.Language.Marks
import CodeFolding.Proofs.Language.Names
import CodeFolding.Proofs.Language.Grammar
import CodeFolding.Proofs.Lines.Division
import CodeFolding.Proofs.Outline.Preview
