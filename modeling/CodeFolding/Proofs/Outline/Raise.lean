import CodeFolding.Proofs.Lines
import CodeFolding.Proofs.Outline.Update

set_option autoImplicit false

namespace CodeFolding

/-- The kinds of regions between brackets. -/
def Region.Kind.IsBracket (kind : Region.Kind) : Prop :=
  kind = .block ∨ kind = .array

instance (kind : Region.Kind) : Decidable kind.IsBracket :=
  inferInstanceAs (Decidable (_ ∨ _))

namespace Outline

theorem lastSolidLine?_eq_some {document : Document} {limit bound line : Nat}
    (found : lastSolidLine? document limit bound = some line) :
    limit ≤ line ∧ line < bound ∧ document.isBlankLine line = false := by
  induction bound with
  | zero => exact nomatch found
  | succ bound ih =>
    unfold lastSolidLine? at found
    split at found
    · exact nomatch found
    · split at found
      · obtain ⟨above, below, solid⟩ := ih found
        exact ⟨above, by omega, solid⟩
      · rename_i inside solid
        cases found
        exact ⟨by omega, Nat.lt_succ_self _, Bool.eq_false_iff.2 solid⟩

variable {outline : Outline} {id parent : Nat}

/-- The start of a settled region is its old one, or the end of a line above, no higher than the
limit; then the region is neither named nor a comment. -/
theorem settledStart_cases (outline : Outline) (id parent : Nat) (previous? : Option Nat) :
    outline.settledStart id parent previous? = (outline.region id).start ∨
      ∃ line, outline.raiseLimit parent previous? ≤ line ∧ line < outline.startLine id ∧
        outline.settledStart id parent previous? = outline.document.lineEnd line ∧
        (outline.region id).kind ≠ .named ∧ (outline.region id).kind ≠ .comment := by
  unfold settledStart raisedStart?
  dsimp only
  split
  · exact Or.inl rfl
  · rename_i kind
    split
    · cases found : lastSolidLine? outline.document (outline.raiseLimit parent previous?)
          (outline.startLine id) with
      | none => exact Or.inl rfl
      | some line =>
        obtain ⟨above, below, -⟩ := lastSolidLine?_eq_some found
        exact Or.inr ⟨line, above, below, rfl, fun named => kind (Or.inl named),
          fun comment => kind (Or.inr comment)⟩
    · exact Or.inl rfl

theorem settledStart_le (outline : Outline) (id parent : Nat) (previous? : Option Nat) :
    outline.settledStart id parent previous? ≤ (outline.region id).start := by
  rcases outline.settledStart_cases id parent previous? with stays | ⟨line, -, below, raised, -⟩
  · exact Nat.le_of_eq stays
  · rw [raised]
    exact Nat.le_of_lt (outline.document.lineEnd_lt_of_lt_lineOf below)

/-- Settling a region moves no start forward. -/
theorem start_settle_le (outline : Outline) (id parent : Nat) (previous? : Option Nat)
    (other : Nat) :
    ((outline.settle id parent previous?).region other).start ≤ (outline.region other).start := by
  by_cases same : other = id
  · subst same
    have enlisted : ((outline.enlist parent other).region other).start =
        (outline.region other).start := by
      refine outline.field_modify parent other (fun region => region.start) ?_
      exact fun _ => rfl
    have back := outline.settledStart_le other parent previous?
    unfold settledStart at back
    unfold settle
    dsimp only
    split
    · rename_i start raised
      rw [raised, Option.getD_some] at back
      rcases (outline.enlist parent other).region_modify_or other other
        fun region => { region with start := start } with same | changed
      · rw [setStart, same]
        exact Nat.le_of_eq enlisted
      · rw [setStart, changed]
        exact back
    · exact Nat.le_of_eq enlisted
  · exact Nat.le_of_eq (congrArg Draft.start (outline.draft_settle_other id parent previous? same))

/-- A line below that of an offset ends behind the offset. -/
theorem lt_lineEnd_of_lineOf_lt (document : Document) {line offset : Nat}
    (known : line < document.lineCount) (below : document.lineOf offset < line) :
    offset < document.lineEnd line :=
  Nat.lt_of_lt_of_le (document.lt_lineStart_of_lineOf_lt known below)
    (document.lineStart_le_lineEnd known)

/-- The first region inside another one starts behind the start of that one. -/
theorem lt_settledStart_of_first (kind : (outline.region parent).kind ≠ .document)
    (begins : (outline.region parent).start < (outline.region id).start) :
    (outline.region parent).start < outline.settledStart id parent none := by
  rcases outline.settledStart_cases id parent none with stays | ⟨line, limit, below, raised, -⟩
  · rwa [stays]
  · simp only [raiseLimit, kind, ↓reduceIte, startLine] at limit
    have known := outline.document.lineOf_lt_lineCount (outline.region id).start
    rw [raised]
    exact lt_lineEnd_of_lineOf_lt _ (Nat.lt_trans below known) (by omega)

/-- A region goes back no further than to the end of the one in front of it, or to the end of the
line on which that one ends. -/
theorem settledStart_of_previous (outline : Outline) (id parent : Nat) {previous stop : Nat}
    (ended : (outline.region previous).stop? = some stop)
    (inside : stop ≤ outline.document.length) (apart : stop ≤ (outline.region id).start) :
    stop ≤ outline.settledStart id parent (some previous) ∨
      outline.document.SplitsBreak stop ∧
        outline.settledStart id parent (some previous) + 1 = stop ∧
        (outline.region id).kind ≠ .named ∧ (outline.region id).kind ≠ .comment := by
  rcases outline.settledStart_cases id parent (some previous) with
    stays | ⟨line, limit, below, raised, named, comment⟩
  · exact Or.inl (stays ▸ apart)
  · have known := Nat.lt_trans below
      (outline.document.lineOf_lt_lineCount (outline.region id).start)
    have lower : outline.document.lineOf stop ≤ line := by
      simp only [raiseLimit, stopLine?, ended, Option.map_some, Option.getD_some] at limit
      split at limit <;> omega
    rw [raised]
    rcases Nat.lt_or_eq_of_le lower with above | same
    · exact Or.inl (Nat.le_of_lt (lt_lineEnd_of_lineOf_lt _ known above))
    · rw [← same]
      by_cases splits : outline.document.SplitsBreak stop
      · exact Or.inr ⟨splits, outline.document.lineEnd_lineOf_of_splitsBreak splits, named,
          comment⟩
      · exact Or.inl (outline.document.le_lineEnd_lineOf inside splits)

/-- A region goes back over at most one character of the one in front of it. -/
theorem stop_le_settledStart_succ (outline : Outline) (id parent : Nat) {previous stop : Nat}
    (ended : (outline.region previous).stop? = some stop)
    (inside : stop ≤ outline.document.length) (apart : stop ≤ (outline.region id).start) :
    stop ≤ outline.settledStart id parent (some previous) + 1 := by
  rcases outline.settledStart_of_previous id parent ended inside apart with
    behind | ⟨-, back, -⟩ <;> omega

/-- Exactly when the start of a region goes back over the end of the region in front of it. -/
theorem settledStart_lt_stop_iff {previous stop : Nat}
    (ended : (outline.region previous).stop? = some stop)
    (inside : stop ≤ outline.document.length) (apart : stop ≤ (outline.region id).start)
    (kinds : (outline.region id).kind.IsBracket ∨ (outline.region id).kind = .named ∨
      (outline.region id).kind = .comment)
    (opener : (outline.region id).kind.IsBracket →
      outline.document.charAt? (outline.region id).start ≠ some '\n') :
    outline.settledStart id parent (some previous) < stop ↔
      outline.document.SplitsBreak stop ∧
        outline.document.lineOf (outline.settledStart id parent (some previous)) =
          outline.document.lineOf stop ∧
        (outline.region id).kind.IsBracket := by
  constructor
  · intro overlap
    rcases outline.settledStart_of_previous id parent ended inside apart with
      behind | ⟨splits, back, named, comment⟩
    · omega
    · have onLine : outline.settledStart id parent (some previous) =
          outline.document.lineEnd (outline.document.lineOf stop) := by
        have before := outline.document.lineEnd_lineOf_of_splitsBreak splits
        omega
      refine ⟨splits, ?_, ?_⟩
      · rw [onLine]
        exact outline.document.lineOf_lineEnd (outline.document.lineOf_lt_lineCount stop)
      · rcases kinds with bracket | other | other
        · exact bracket
        · exact absurd other named
        · exact absurd other comment
  · rintro ⟨splits, same, bracket⟩
    rcases outline.settledStart_cases id parent (some previous) with
      stays | ⟨line, -, below, raised, -⟩
    · -- On this line nothing but the line feed is left for the opening bracket.
      rw [stays] at same
      have last := outline.document.le_of_splitsBreak splits same
      have feed := splits.2.2
      rw [show stop = (outline.region id).start by omega] at feed
      exact absurd feed (opener bracket)
    · have known := Nat.lt_trans below
        (outline.document.lineOf_lt_lineCount (outline.region id).start)
      rw [raised, outline.document.lineOf_lineEnd known] at same
      have before := outline.document.lineEnd_lineOf_of_splitsBreak splits
      rw [raised, same]
      omega

end Outline

end CodeFolding
