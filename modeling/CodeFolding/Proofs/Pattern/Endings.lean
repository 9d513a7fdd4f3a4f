import CodeFolding.Proofs.Lines
import CodeFolding.Proofs.Pattern.Leads

set_option autoImplicit false

namespace CodeFolding

namespace Plan

/-- Whether a match that takes a character is known to end outside of breaks. -/
def movesOutside : Plan → Bool
  | empty => true
  | text chars => chars.getLast? != some '\r'
  | oneOf set => !set.contains '\r'
  | boundary _ => true
  | group _ body => body.movesOutside
  | seq first second => first.movesOutside && second.movesOutside
  | alt first second => first.movesOutside && second.movesOutside
  | once _ body => body.movesOutside
  | star _ body _ => body.movesOutside

/-- Whether every match is known to end outside of breaks. -/
def endsOutside : Plan → Bool
  | empty => false
  | text chars => chars.getLast?.any (· != '\r')
  | oneOf set => !set.contains '\r'
  | boundary condition => condition = .textEnd
  | group _ body => body.endsOutside
  | seq first second => second.endsOutside || (first.endsOutside && second.movesOutside)
  | alt first second => first.endsOutside && second.endsOutside
  | once _ body => body.endsOutside
  | star _ _ _ => false

/-- The numbers of the groups in a plan. -/
def groupNumbers : Plan → List Nat
  | group index body => index :: body.groupNumbers
  | seq first second => first.groupNumbers ++ second.groupNumbers
  | alt first second => first.groupNumbers ++ second.groupNumbers
  | once _ body => body.groupNumbers
  | star _ body _ => body.groupNumbers
  | _ => []

/-- The plans that a choice is between. -/
def branches : Plan → List Plan
  | alt first second => first.branches ++ second.branches
  | once _ body => body.branches
  | plan => [plan]

theorem getElem?_of_hasText {input : Array Char} {chars : List Char} {position : Nat}
    (here : hasText input chars position = true) {index : Nat} (inside : index < chars.length) :
    input[position + index]? = chars[index]? := by
  induction chars generalizing position index with
  | nil => exact absurd inside (Nat.not_lt_zero _)
  | cons c rest ih =>
    unfold hasText at here
    rw [Bool.and_eq_true, beq_iff_eq] at here
    cases index with
    | zero => exact here.1
    | succ index =>
      have later := ih here.2 (Nat.lt_of_succ_lt_succ inside)
      rw [List.getElem?_cons_succ, ← later, Nat.add_assoc, Nat.add_comm 1]

theorem getLast?_of_hasText {document : Document} {chars : List Char} {position : Nat}
    (here : hasText document.chars chars position = true) (filled : chars ≠ []) :
    document.charAt? (position + chars.length - 1) = chars.getLast? := by
  have positive := List.length_pos_iff.2 filled
  have last := getElem?_of_hasText here (Nat.sub_lt positive Nat.one_pos)
  rw [List.getLast?_eq_getElem?, ← last, Document.charAt?]
  congr 1
  omega

namespace Leads

variable {plan : Plan} {progress later : Progress}

theorem position_le {input : Array Char} (leads : plan.Leads input progress later) :
    progress.position ≤ later.position := by
  induction leads with
  | empty | boundary | starNone => exact Nat.le_refl _
  | text => exact Nat.le_add_right _ _
  | oneOf => exact Nat.le_succ _
  | group _ ih => exact ih
  | seq _ _ one two => exact Nat.le_trans one two
  | altFirst _ ih => exact ih
  | altSecond _ ih => exact ih
  | once _ ih => exact ih
  | starMore _ _ one two => exact Nat.le_trans one two

theorem mem_groups {input : Array Char} (leads : plan.Leads input progress later)
    {entry : Nat × Span} (member : entry ∈ later.groups) :
    entry ∈ progress.groups ∨ entry.1 ∈ plan.groupNumbers := by
  induction leads with
  | empty | boundary | starNone | text | oneOf => exact Or.inl member
  | group _ ih =>
    rcases List.mem_cons.1 member with rfl | before
    · exact Or.inr List.mem_cons_self
    · exact (ih before).imp_right (List.mem_cons_of_mem _)
  | seq _ _ one two =>
    rcases two member with before | inSecond
    · exact (one before).imp_right (List.mem_append_left _)
    · exact Or.inr (List.mem_append_right _ inSecond)
  | altFirst _ ih => exact (ih member).imp_right (List.mem_append_left _)
  | altSecond _ ih => exact (ih member).imp_right (List.mem_append_right _)
  | once _ ih => exact ih member
  | starMore _ _ one two =>
    rcases two member with before | inBody
    · exact one before
    · exact Or.inr inBody

theorem exists_branch {input : Array Char} (leads : plan.Leads input progress later) :
    ∃ branch ∈ plan.branches, branch.Leads input progress later := by
  induction plan with
  | alt first second ihFirst ihSecond =>
    cases leads with
    | altFirst way =>
      obtain ⟨branch, member, leads⟩ := ihFirst way
      exact ⟨branch, List.mem_append_left _ member, leads⟩
    | altSecond way =>
      obtain ⟨branch, member, leads⟩ := ihSecond way
      exact ⟨branch, List.mem_append_right _ member, leads⟩
  | once mark body ih =>
    cases leads with
    | once way => exact ih way
  | _ => exact ⟨_, List.mem_singleton_self _, leads⟩

section Breaks

variable {document : Document}

/-- If the check succeeds, a match stays where it is or ends outside of breaks. -/
theorem eq_or_not_splitsBreak (leads : plan.Leads document.chars progress later)
    (outside : plan.movesOutside = true) :
    later.position = progress.position ∨ ¬ document.SplitsBreak later.position := by
  induction leads with
  | empty | boundary | starNone => exact Or.inl rfl
  | @text chars progress here =>
    by_cases filled : chars = []
    · subst filled
      exact Or.inl rfl
    · refine Or.inr fun splits => ?_
      have last := getLast?_of_hasText here filled
      have before := splits.2.1
      rw [last] at before
      rw [movesOutside, before] at outside
      exact absurd outside (by decide)
  | @oneOf set progress c here member =>
    refine Or.inr fun splits => ?_
    have before := splits.2.1
    rw [Nat.add_sub_cancel, Document.charAt?, here] at before
    cases before
    rw [movesOutside, member] at outside
    exact absurd outside Bool.false_ne_true
  | group _ ih => exact ih outside
  | seq _ _ one two =>
    rw [movesOutside, Bool.and_eq_true] at outside
    rcases two outside.2 with same | apart
    · rw [same]
      exact one outside.1
    · exact Or.inr apart
  | altFirst _ ih =>
    rw [movesOutside, Bool.and_eq_true] at outside
    exact ih outside.1
  | altSecond _ ih =>
    rw [movesOutside, Bool.and_eq_true] at outside
    exact ih outside.2
  | once _ ih => exact ih outside
  | starMore _ _ one two =>
    rcases two outside with same | apart
    · rw [same]
      exact one outside
    · exact Or.inr apart

/-- If the check succeeds, every match ends outside of breaks. -/
theorem not_splitsBreak (leads : plan.Leads document.chars progress later)
    (outside : plan.endsOutside = true) : ¬ document.SplitsBreak later.position := by
  induction leads with
  | empty | starNone | starMore => exact nomatch outside
  | @text chars progress here =>
    intro splits
    have filled : chars ≠ [] := by
      rintro rfl
      exact nomatch outside
    have before := splits.2.1
    rw [getLast?_of_hasText here filled] at before
    rw [endsOutside, before] at outside
    exact absurd outside (by decide)
  | @oneOf set progress c here member =>
    rcases (Leads.oneOf here member).eq_or_not_splitsBreak outside with same | apart
    · exact absurd same (Nat.ne_of_gt (Nat.lt_succ_self _))
    · exact apart
  | @boundary condition progress holds =>
    intro splits
    rw [endsOutside, decide_eq_true_eq] at outside
    subst outside
    have atEnd : progress.position = document.chars.size := by simpa [Boundary.holds] using holds
    have behind := splits.2.2
    rw [atEnd, Document.charAt?, Array.getElem?_eq_none (Nat.le_refl _)] at behind
    exact absurd behind.symm (Option.some_ne_none _)
  | group _ ih => exact ih outside
  | seq _ behind one two =>
    rw [endsOutside, Bool.or_eq_true, Bool.and_eq_true] at outside
    rcases outside with second | ⟨first, moves⟩
    · exact two second
    · rcases behind.eq_or_not_splitsBreak moves with same | apart
      · rw [same]
        exact one first
      · exact apart
  | altFirst _ ih =>
    rw [endsOutside, Bool.and_eq_true] at outside
    exact ih outside.1
  | altSecond _ ih =>
    rw [endsOutside, Bool.and_eq_true] at outside
    exact ih outside.2
  | once _ ih => exact ih outside

end Breaks

end Leads

end Plan

end CodeFolding
