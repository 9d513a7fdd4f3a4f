import CodeFolding.Proofs.Blanks
import CodeFolding.Proofs.Cursor.Walk
import CodeFolding.Proofs.Outline.Matching

set_option autoImplicit false

namespace CodeFolding

/-- The token is a comment and no mark. -/
def BraceRules.Remark (rules : BraceRules) (document : Document) (token : Token) : Prop :=
  token.kind = .comment ∧ rules.isRemark (document.slice token.toSpan) = true

instance (rules : BraceRules) (document : Document) (token : Token) :
    Decidable (rules.Remark document token) :=
  inferInstanceAs (Decidable (_ ∧ _))

theorem BraceRules.remarks_eq_true_iff {rules : BraceRules} {cursor : Cursor} :
    rules.remarks cursor = true ↔
      ∃ token, cursor.token? = some token ∧ rules.Remark cursor.document token := by
  unfold remarks Remark
  cases cursor.token? with
  | none => simp only [Option.any_none, Bool.false_eq_true, reduceCtorEq, false_and, exists_false]
  | some token =>
    simp only [Option.any_some, Bool.and_eq_true, beq_iff_eq, Option.some.injEq, exists_eq_left']

/-- A remark at the cursor makes a region with an end. -/
theorem BraceRules.start?_of_remark {rules : BraceRules} {tokens : List Token} {cursor : Cursor}
    {token : Token} (sound : cursor.Sound tokens) (current : cursor.token? = some token)
    (remark : rules.Remark cursor.document token) :
    ∃ draft, rules.start? cursor = some draft ∧ draft.stop? ≠ none := by
  obtain ⟨comment, noMark⟩ := remark
  have atStart : token.start = cursor.position := by
    apply (sound.current token current).atStart
    rw [comment]
    rfl
  simp only [isRemark, Bool.and_eq_true, Option.isNone_iff_eq_none, Bool.not_eq_true'] at noMark
  unfold start?
  rw [current]
  dsimp only
  rw [comment]
  dsimp only
  rw [if_pos atStart, startComment?, noMark.1, noMark.2]
  exact ⟨_, rfl, Option.some_ne_none _⟩

/-- The offsets at which a run of remarks begins and ends. -/
inductive RemarkRun (rules : BraceRules) (document : Document) (kept : List Token) :
    Nat → Nat → Prop
  | single (token : Token) (member : token ∈ kept) (remark : rules.Remark document token) :
      RemarkRun rules document kept token.start token.stop
  | snoc {start stop : Nat} (front : RemarkRun rules document kept start stop) (token : Token)
      (member : token ∈ kept) (remark : rules.Remark document token) (behind : stop ≤ token.start)
      (near : document.lineOf token.start ≤ document.lineOf stop + 1)
      (blank : document.isBlank ⟨stop, token.start⟩ = true) :
      RemarkRun rules document kept start token.stop

namespace RemarkRun

variable {rules : BraceRules} {document : Document} {kept : List Token} {start stop : Nat}

theorem exists_first (run : RemarkRun rules document kept start stop) :
    ∃ first ∈ kept, rules.Remark document first ∧ first.start = start := by
  induction run with
  | single token member remark => exact ⟨token, member, remark, rfl⟩
  | snoc _ _ _ _ _ _ _ ih => exact ih

theorem start_lt_stop (run : RemarkRun rules document kept start stop)
    (spaced : Token.Spaced kept) : start < stop := by
  induction run with
  | single token member => exact spaced.filled token member
  | snoc _ token member _ behind _ _ ih =>
    have filled := spaced.filled token member
    omega

theorem exists_last (run : RemarkRun rules document kept start stop)
    (spaced : Token.Spaced kept) :
    ∃ last ∈ kept, rules.Remark document last ∧ last.stop = stop ∧ start ≤ last.start := by
  cases run with
  | single token member remark => exact ⟨token, member, remark, rfl, Nat.le_refl _⟩
  | snoc front token member remark behind =>
    have filled := front.start_lt_stop spaced
    exact ⟨token, member, remark, rfl, by omega⟩

/-- What stands in the range of a run outside of comments is white space. -/
theorem covered_or_blank (run : RemarkRun rules document kept start stop) {offset : Nat}
    {c : Char} (above : start ≤ offset) (below : offset < stop)
    (here : document.charAt? offset = some c) :
    (∃ token ∈ kept, token.kind = .comment ∧ token.start ≤ offset ∧ offset < token.stop) ∨
      Unicode.isBlank c = true := by
  induction run with
  | single token member remark => exact Or.inl ⟨token, member, remark.1, above, below⟩
  | @snoc start stop front token member remark behind _ blank ih =>
    by_cases inFront : offset < stop
    · exact ih above inFront
    · by_cases inToken : token.start ≤ offset
      · exact Or.inl ⟨token, member, remark.1, inToken, below⟩
      · exact Or.inr ((document.isBlank_iff _).1 blank offset c (Nat.le_of_not_lt inFront)
          (Nat.lt_of_not_le inToken) here)

/-- Of two comments next to each other in the range of a run, the second begins at most one line
below the end of the first. -/
theorem near_of_consecutive (run : RemarkRun rules document kept start stop)
    (spaced : Token.Spaced kept) {first second : Token} (one : first ∈ kept) (two : second ∈ kept)
    (above : start ≤ first.start) (below : second.stop ≤ stop)
    (before : first.start < second.start)
    (consecutive : ∀ between ∈ kept, between.kind = .comment →
      ¬ (first.start < between.start ∧ between.start < second.start)) :
    document.lineOf second.start ≤ document.lineOf first.stop + 1 := by
  induction run with
  | single token member remark =>
    -- Only one token has its place in the range of one.
    have firstEnds := spaced.stop_le_of_start_lt one two before
    have filled := spaced.filled second two
    have same := spaced.eq_of_overlap one member (by omega)
      (by have inside := spaced.filled first one; omega)
    subst same
    omega
  | @snoc start stop front token member remark behind near blank ih =>
    by_cases inFront : second.stop ≤ stop
    · exact ih above inFront
    · obtain ⟨last, lastKept, lastRemark, lastEnds, -⟩ := front.exists_last spaced
      have filled := spaced.filled second two
      have lastFilled := spaced.filled last lastKept
      -- The second one is behind the run so far, and not behind the token that follows it.
      have different : last ≠ second := by
        rintro rfl
        omega
      have behindLast : last.stop ≤ second.start := by
        rcases spaced.cases_of_ne lastKept two different with apart | apart <;> omega
      have noLater : second.start ≤ token.start := by
        apply Decidable.byContradiction
        intro further
        have ends := spaced.stop_le_of_start_lt member two (by omega)
        omega
      -- The first one is the last of the run so far, or one behind that.
      have notBefore : last.start ≤ first.start := by
        apply Decidable.byContradiction
        intro earlier
        exact consecutive last lastKept lastRemark.1 ⟨by omega, by omega⟩
      have ends : stop ≤ first.stop := by
        rcases Nat.eq_or_lt_of_le notBefore with same | later
        · have firstFilled := spaced.filled first one
          have equal := spaced.eq_of_overlap lastKept one (by omega) (by omega)
          rw [← equal, lastEnds]
        · have lastBefore := spaced.stop_le_of_start_lt lastKept one later
          have firstFilled := spaced.filled first one
          omega
      have lower := document.lineOf_mono noLater
      have upper := document.lineOf_mono ends
      omega

/-- Two runs make one if the second begins at most one line below the end of the first, with white
space alone between them. -/
theorem append {further last : Nat} (run : RemarkRun rules document kept start stop)
    (more : RemarkRun rules document kept further last) (behind : stop ≤ further)
    (near : document.lineOf further ≤ document.lineOf stop + 1)
    (blank : document.isBlank ⟨stop, further⟩ = true) :
    RemarkRun rules document kept start last := by
  induction more with
  | single token member remark => exact .snoc run token member remark behind near blank
  | snoc _ token member remark apart close between ih =>
    exact .snoc (ih behind near blank) token member remark apart close between

end RemarkRun

end CodeFolding
