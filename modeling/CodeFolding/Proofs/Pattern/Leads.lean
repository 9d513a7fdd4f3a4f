import CodeFolding.Pattern.Search

set_option autoImplicit false

namespace CodeFolding

namespace Plan

/-- The plan leads from one place to another. -/
inductive Leads (input : Array Char) : Plan → Progress → Progress → Prop
  | empty (progress : Progress) : Leads input empty progress progress
  | text {chars : List Char} {progress : Progress}
      (here : hasText input chars progress.position = true) :
      Leads input (text chars) progress
        { progress with position := progress.position + chars.length }
  | oneOf {set : Charset} {progress : Progress} {c : Char}
      (here : input[progress.position]? = some c) (member : set.contains c = true) :
      Leads input (oneOf set) progress { progress with position := progress.position + 1 }
  | boundary {condition : Boundary} {progress : Progress}
      (holds : condition.holds input progress.position = true) :
      Leads input (boundary condition) progress progress
  | group {index : Nat} {body : Plan} {progress later : Progress}
      (inner : Leads input body progress later) :
      Leads input (group index body) progress
        { later with groups := (index, ⟨progress.position, later.position⟩) :: later.groups }
  | seq {first second : Plan} {progress between later : Progress}
      (before : Leads input first progress between)
      (behind : Leads input second between later) :
      Leads input (seq first second) progress later
  | altFirst {first second : Plan} {progress later : Progress}
      (way : Leads input first progress later) : Leads input (alt first second) progress later
  | altSecond {first second : Plan} {progress later : Progress}
      (way : Leads input second progress later) : Leads input (alt first second) progress later
  | once {mark : Nat} {body : Plan} {progress later : Progress}
      (way : Leads input body progress later) : Leads input (once mark body) progress later
  | starNone {mark : Nat} {body : Plan} {greedy : Bool} (progress : Progress) :
      Leads input (star mark body greedy) progress progress
  | starMore {mark : Nat} {body : Plan} {greedy : Bool} {progress between later : Progress}
      (round : Leads input body progress between)
      (rounds : Leads input (star mark body greedy) between later) :
      Leads input (star mark body greedy) progress later

section Attempts

variable {α β : Type} {value : α}

/-- The attempt comes to `value` behind some decisions taken before it. -/
def Attempt.Yields (attempt : Attempt α) (value : α) : Prop :=
  ∃ trail, (attempt.run trail).1 = some value

theorem not_yields_failure : ¬ Attempt.Yields (failure : Attempt α) value := by
  rintro ⟨trail, found⟩
  exact nomatch found

theorem yields_orElse {first second : Attempt α}
    (yields : Attempt.Yields (first <|> second) value) :
    first.Yields value ∨ second.Yields value := by
  obtain ⟨trail, found⟩ := yields
  rw [OptionT.run_orElse] at found
  change ((first.run trail).1.elim second.run (fun x => pure (some x)) (first.run trail).2).1 =
    some value at found
  cases tried : (first.run trail).1 with
  | none =>
    rw [tried] at found
    exact Or.inr ⟨_, found⟩
  | some other =>
    rw [tried] at found
    exact Or.inl ⟨trail, tried.trans found⟩

theorem yields_bind {first : Attempt β} {second : β → Attempt α}
    (yields : Attempt.Yields (first >>= second) value) :
    ∃ between, first.Yields between ∧ (second between).Yields value := by
  obtain ⟨trail, found⟩ := yields
  rw [OptionT.run_bind] at found
  change ((first.run trail).1.elim (pure none) (fun x => (second x).run) (first.run trail).2).1 =
    some value at found
  cases tried : (first.run trail).1 with
  | none =>
    rw [tried] at found
    exact nomatch found
  | some between =>
    rw [tried] at found
    exact ⟨between, ⟨trail, tried⟩, ⟨_, found⟩⟩

theorem yields_either {inOrder : Bool} {first second : Attempt α}
    (yields : Attempt.Yields (either inOrder first second) value) :
    first.Yields value ∨ second.Yields value := by
  unfold either at yields
  split at yields
  · exact yields_orElse yields
  · exact (yields_orElse yields).symm

end Attempts

section Runs

variable {α : Type} {input : Array Char} {value : α}

/-- Rounds that succeed are rounds of the star, with what remains behind them. -/
theorem repeated_leads {body : Plan} {mark : Nat} {greedy : Bool}
    {next : Progress → Attempt α}
    (bodyLeads : ∀ progress next, (body.run input progress next).Yields value →
      ∃ later, body.Leads input progress later ∧ (next later).Yields value)
    (fuel : Nat) (progress : Progress)
    (yields : (repeated (fun progress next => body.run input progress next) mark greedy next fuel
      progress).Yields value) :
    ∃ later, (star mark body greedy).Leads input progress later ∧ (next later).Yields value := by
  induction fuel generalizing progress with
  | zero => exact absurd yields not_yields_failure
  | succ fuel ih =>
    unfold repeated at yields
    obtain ⟨_, -, further⟩ := yields_bind yields
    rcases yields_either further with another | done
    · obtain ⟨between, round, rest⟩ := bodyLeads progress _ another
      obtain ⟨later, rounds, ends⟩ := ih between rest
      exact ⟨later, .starMore round rounds, ends⟩
    · exact ⟨progress, .starNone progress, done⟩

/-- A run that succeeds has followed the plan to some place and succeeds with the rest there. -/
theorem run_leads (plan : Plan) (progress : Progress) (next : Progress → Attempt α)
    (yields : (plan.run input progress next).Yields value) :
    ∃ later, plan.Leads input progress later ∧ (next later).Yields value := by
  induction plan generalizing progress next with
  | empty => exact ⟨progress, .empty progress, yields⟩
  | text chars =>
    unfold run at yields
    split at yields
    · rename_i here
      exact ⟨_, .text here, yields⟩
    · exact absurd yields not_yields_failure
  | oneOf set =>
    unfold run at yields
    split at yields
    · rename_i here
      obtain ⟨c, found, member⟩ := (Option.any_eq_true ..).1 here
      exact ⟨_, .oneOf found member, yields⟩
    · exact absurd yields not_yields_failure
  | boundary condition =>
    unfold run at yields
    split at yields
    · rename_i holds
      exact ⟨progress, .boundary holds, yields⟩
    · exact absurd yields not_yields_failure
  | group index body ih =>
    obtain ⟨later, inner, rest⟩ := ih progress _ yields
    exact ⟨_, .group inner, rest⟩
  | seq first second ihFirst ihSecond =>
    obtain ⟨between, before, rest⟩ := ihFirst progress _ yields
    obtain ⟨later, behind, ends⟩ := ihSecond between _ rest
    exact ⟨later, .seq before behind, ends⟩
  | alt first second ihFirst ihSecond =>
    rcases yields_orElse yields with one | two
    · obtain ⟨later, way, rest⟩ := ihFirst progress next one
      exact ⟨later, .altFirst way, rest⟩
    · obtain ⟨later, way, rest⟩ := ihSecond progress next two
      exact ⟨later, .altSecond way, rest⟩
  | once mark body ih =>
    unfold run at yields
    obtain ⟨_, -, further⟩ := yields_bind yields
    obtain ⟨later, way, rest⟩ := ih progress next further
    exact ⟨later, .once way, rest⟩
  | star mark body greedy ih =>
    unfold run at yields
    exact repeated_leads ih _ progress yields

end Runs

section Searches

variable {plan : Plan} {input : Array Char} {found : Match}

/-- A match is a way through the text that the plan leads. -/
def Match.Fits (plan : Plan) (input : Array Char) (found : Match) : Prop :=
  plan.Leads input ⟨found.start, []⟩ ⟨found.stop, found.groups⟩

theorem matchAt_fits {position : Nat} (yields : (plan.matchAt input position).Yields found) :
    found.Fits plan input ∧ found.start = position := by
  obtain ⟨later, leads, trail, ends⟩ := run_leads plan _ _ yields
  cases ends
  exact ⟨leads, rfl⟩

theorem matchAmong_fits (count position : Nat)
    (yields : (plan.matchAmong input count position).Yields found) :
    found.Fits plan input ∧ position ≤ found.start := by
  induction count generalizing position with
  | zero => exact absurd yields not_yields_failure
  | succ count ih =>
    unfold matchAmong at yields
    rcases yields_orElse yields with here | later
    · obtain ⟨fits, start⟩ := matchAt_fits here
      exact ⟨fits, Nat.le_of_eq start.symm⟩
    · obtain ⟨fits, start⟩ := ih (position + 1) later
      exact ⟨fits, by omega⟩

theorem searchFrom?_fits {position : Nat}
    (search : plan.searchFrom? input position = some found) :
    found.Fits plan input ∧ position ≤ found.start :=
  matchAmong_fits _ _ ⟨∅, search⟩

/-- A match is the first one from a position on, or one of those behind that. -/
theorem mem_matchesFrom {position : Nat} {touching : Bool}
    (member : found ∈ plan.matchesFrom input position touching) :
    ∃ first, plan.searchFrom? input position = some first ∧ (found = first ∨
      (position < first.behind ∧ position ≤ input.size) ∧
        found ∈ plan.matchesFrom input first.behind (!first.isEmpty)) := by
  unfold matchesFrom at member
  split at member
  · exact absurd member List.not_mem_nil
  · rename_i first search
    refine ⟨first, search, ?_⟩
    have inRest : ∀ rest, found ∈ (if position < first.behind ∧ position ≤ input.size then rest
        else []) → (position < first.behind ∧ position ≤ input.size) ∧ found ∈ rest := by
      intro rest further
      split at further
      · exact ⟨by assumption, further⟩
      · exact absurd further List.not_mem_nil
    dsimp only at member
    split at member
    · exact Or.inr (inRest _ member)
    · rcases List.mem_cons.1 member with same | further
      · exact Or.inl same
      · exact Or.inr (inRest _ further)

theorem matchesFrom_fits (position : Nat) (touching : Bool)
    (member : found ∈ plan.matchesFrom input position touching) : found.Fits plan input := by
  induction left : input.size + 1 - position using Nat.strongRecOn
    generalizing position touching with
  | ind left ih =>
    obtain ⟨first, search, rfl | ⟨forward, further⟩⟩ := mem_matchesFrom member
    · exact (searchFrom?_fits search).1
    · exact ih (input.size + 1 - first.behind) (by omega) _ _ further rfl

theorem allMatches_fits (member : found ∈ plan.allMatches input) : found.Fits plan input :=
  matchesFrom_fits 0 false member

end Searches

end Plan

end CodeFolding
