import CodeFolding.Pattern.Reader
import CodeFolding.Pattern.Search
import CodeFolding.Token

set_option autoImplicit false

namespace CodeFolding

namespace Lexicon

/-- A pattern, in its text and as read, and the kind of the tokens it matches. -/
structure Rule where
  source : String
  written : Pattern.Written
  kind : Token.Kind
deriving Inhabited, Repr

/-- The rule of a written pattern, unless the pattern cannot be used. -/
def Rule.ofString? (source : String) (kind : Token.Kind) : Option Rule :=
  (Pattern.ofString? source).map fun written => ⟨source, written, kind⟩

/-- The name of the group around the rule with the number `index`. -/
def groupName (index : Nat) : String :=
  s!"r{index}"

/-- Each rule as a group of its own. The groups inside a rule are numbered behind the group around
it; the first group gets the number `next`. -/
def grouped (next : Nat) : List Rule → List Pattern
  | [] => []
  | rule :: rest =>
    .group next (rule.written.pattern.shiftGroups next) ::
      grouped (next + rule.written.groupCount + 1) rest

/-- The names of all groups and their numbers, those around the rules included. The group around
the first rule has the number `next`, and `index` in its name. -/
def groupNames (index next : Nat) : List Rule → List (String × Nat)
  | [] => []
  | rule :: rest =>
    (groupName index, next) :: rule.written.names.map (fun (name, number) => (name, next + number))
      ++ groupNames (index + 1) (next + rule.written.groupCount + 1) rest

/-- All rules as one pattern, a choice between the groups around them. -/
def joined (rules : List Rule) : Pattern.Written where
  pattern := Pattern.choice (grouped 1 rules)
  depth := (rules.map fun rule => rule.written.depth + 1).foldl max 0 +
    if rules.length < 2 then 0 else 1
  groupCount := (rules.map fun rule => rule.written.groupCount + 1).foldl (· + ·) 0
  names := groupNames 0 1 rules
  endsInComment := false

def joinedText (rules : List Rule) : String :=
  "|".intercalate (rules.zipIdx.map fun (rule, index) =>
    "(?P<" ++ groupName index ++ ">" ++ rule.source ++ ")")

/-- All rules as one pattern, unless two groups have the same name or the rules together are nested
too deep or too large. A comment at the end of a rule hides what stands behind it in the text, so
that the text has to be read. -/
def joined? (rules : List Rule) : Option Pattern.Written :=
  if rules.any (·.written.endsInComment) then Pattern.ofString? (joinedText rules)
  else
    let whole := joined rules
    if (whole.names.map Prod.fst).Nodup ∧ whole.isModest then some whole else none

end Lexicon

/-- Rules joined to one pattern: how to find a token, and the kind of token that each group around
a rule stands for. -/
structure Lexicon where
  scanner : Plan
  groups : List (Nat × Token.Kind)
deriving Inhabited, Repr

namespace Lexicon

/-- The lexicon of a list of rules, unless they cannot be joined. -/
def ofRules? (rules : List Rule) : Option Lexicon :=
  (joined? rules).map fun whole =>
    ⟨whole.pattern.plan, rules.zipIdx.filterMap fun (rule, index) =>
      (whole.names.lookup (groupName index)).map fun number => (number, rule.kind)⟩

/-- The kind of token that a match stands for: that of the first rule whose group takes part. -/
def kindOf? (lexicon : Lexicon) (found : Plan.Match) : Option Token.Kind :=
  (lexicon.groups.find? fun entry => (found.group? entry.1).isSome).map Prod.snd

/-- The kind under which a token with the given text is reported: identifiers among the keywords
are keywords. -/
def refine (keywords : List String) (text : String) (kind : Token.Kind) : Token.Kind :=
  if kind == .identifier && keywords.contains text then .keyword else kind

/-- The token of a match that is not empty. -/
def token? (lexicon : Lexicon) (keywords : List String) (input : Array Char)
    (found : Plan.Match) : Option Token :=
  if found.isEmpty then none
  else (lexicon.kindOf? found).map fun kind =>
    let text := String.ofList (input.extract found.start found.stop).toList
    ⟨found.toSpan, refine keywords text kind⟩

def classify (lexicon : Lexicon) (keywords : List String) (input : Array Char) : List Token :=
  (lexicon.scanner.allMatches input).filterMap (lexicon.token? keywords input)

end Lexicon

end CodeFolding
