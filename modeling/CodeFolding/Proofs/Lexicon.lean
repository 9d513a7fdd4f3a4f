import CodeFolding.Lexicon.Brace
import CodeFolding.Proofs.Cursor
import CodeFolding.Proofs.Pattern.Endings

set_option autoImplicit false

namespace CodeFolding

namespace Lexicon

/-- Whether it is known that no comment and no directive ends inside a break: each branch of the
scanner ends outside of breaks, or it has no group that stands for such a token. -/
def leavesBreaks (lexicon : Lexicon) : Bool :=
  lexicon.scanner.branches.all fun branch => branch.endsOutside ||
    lexicon.groups.all fun entry => !branch.groupNumbers.contains entry.1 ||
      (entry.2 != .comment && entry.2 != .directive)

variable {lexicon : Lexicon} {keywords : List String} {token : Token}

/-- A token has the span of a match that is not empty, and its kind unless it is a keyword. -/
theorem exists_match_of_mem_classify {input : Array Char}
    (member : token ∈ lexicon.classify keywords input) :
    ∃ found, found.Fits lexicon.scanner input ∧ found.toSpan = token.toSpan ∧
      found.start ≠ found.stop ∧ ∃ kind, lexicon.kindOf? found = some kind ∧
        (token.kind = kind ∨ token.kind = .keyword) := by
  obtain ⟨found, isMatch, made⟩ := List.mem_filterMap.1 member
  refine ⟨found, Plan.allMatches_fits isMatch, ?_⟩
  unfold token? at made
  split at made
  · exact nomatch made
  · rename_i filled
    obtain ⟨kind, known, rfl⟩ := Option.map_eq_some_iff.1 made
    refine ⟨rfl, ?_, kind, known, ?_⟩
    · simpa only [Span.isEmpty, beq_iff_eq] using filled
    · dsimp only
      unfold refine
      split
      · exact Or.inr rfl
      · exact Or.inl rfl

theorem classify_ordered (lexicon : Lexicon) (keywords : List String) (input : Array Char) :
    Token.Ordered (lexicon.classify keywords input) := by
  intro token member
  obtain ⟨found, fits, same, -⟩ := exists_match_of_mem_classify member
  have forward : found.start ≤ found.stop := fits.position_le
  rw [same] at forward
  exact forward

theorem exists_group_of_kindOf? {found : Plan.Match} {kind : Token.Kind}
    (known : lexicon.kindOf? found = some kind) :
    ∃ number span, (number, kind) ∈ lexicon.groups ∧ (number, span) ∈ found.groups := by
  obtain ⟨⟨number, _⟩, entry, rfl⟩ := Option.map_eq_some_iff.1 known
  have closed := List.find?_some entry
  rw [Plan.Match.group?, Option.isSome_iff_exists] at closed
  obtain ⟨span, looked⟩ := closed
  obtain ⟨front, back, split, -⟩ := List.lookup_eq_some_iff.1 looked
  have inGroups : (number, span) ∈ found.groups := by
    rw [split]
    exact List.mem_append_right _ List.mem_cons_self
  exact ⟨number, span, List.mem_of_find?_eq_some entry, inGroups⟩

/-- If the check succeeds, comments and directives end outside of breaks, in every text. -/
theorem classify_leavesBreaks (checked : lexicon.leavesBreaks = true) {document : Document}
    (member : token ∈ lexicon.classify keywords document.chars)
    (kind : token.kind = .comment ∨ token.kind = .directive) :
    ¬ document.SplitsBreak token.stop := by
  obtain ⟨found, fits, same, -, matched, known, kinds⟩ := exists_match_of_mem_classify member
  have kindOf : token.kind = matched := by
    rcases kinds with same | keyword
    · exact same
    · rw [keyword] at kind
      exact absurd kind (by decide)
  obtain ⟨branch, isBranch, leads⟩ := fits.exists_branch
  obtain ⟨number, span, inGroups, closed⟩ := exists_group_of_kindOf? known
  have inBranch : number ∈ branch.groupNumbers := by
    rcases leads.mem_groups closed with before | inside
    · exact absurd before List.not_mem_nil
    · exact inside
  have passed := List.all_eq_true.1 checked branch isBranch
  rw [Bool.or_eq_true] at passed
  rcases passed with outside | others
  · have apart := leads.not_splitsBreak outside
    rw [← same]
    exact apart
  · have entry := List.all_eq_true.1 others (number, matched) inGroups
    have contained : branch.groupNumbers.contains number = true := List.contains_iff_mem.2 inBranch
    dsimp only at entry
    rw [contained, ← kindOf] at entry
    rcases kind with comment | directive
    · rw [comment] at entry
      exact nomatch entry
    · rw [directive] at entry
      exact nomatch entry

/-- The lexicon of languages with braces can be made, and it passes the check. -/
theorem brace?_leavesBreaks : brace?.any leavesBreaks = true := by
  decide +kernel

end Lexicon

end CodeFolding
