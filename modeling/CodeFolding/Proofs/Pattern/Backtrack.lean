import CodeFolding.Proofs.Pattern.Endings
import CodeFolding.Proofs.Pattern.Shift
import Mathlib.Data.List.Nodup

/-!
A search without memory. It tries the ways to match in the order of preference, and may come to the
same decision at the same position again and again. Where all marks of a plan are different and
every round of a repetition moves on, the search with memory comes to the same match: a decision
that it does not take again has led to no match before.
-/

set_option autoImplicit false

namespace CodeFolding

namespace Plan

/-- Any number of rounds of `body`, and then `next`. -/
def seekRounds {α : Type} (body : Progress → (Progress → Option α) → Option α) (greedy : Bool)
    (next : Progress → Option α) : Nat → Progress → Option α
  | 0, _ => none
  | fuel + 1, progress =>
    if greedy then (body progress (seekRounds body greedy next fuel)).or (next progress)
    else (next progress).or (body progress (seekRounds body greedy next fuel))

/-- The first way to match the plan from `progress` on and then `next`. -/
def seek {α : Type} (input : Array Char) : Plan → Progress → (Progress → Option α) → Option α
  | empty, progress, next => next progress
  | text chars, progress, next =>
    if hasText input chars progress.position then
      next { progress with position := progress.position + chars.length }
    else none
  | oneOf set, progress, next =>
    if input[progress.position]?.any set.contains then
      next { progress with position := progress.position + 1 }
    else none
  | boundary condition, progress, next =>
    if condition.holds input progress.position then next progress else none
  | group index body, progress, next =>
    seek input body progress fun later =>
      next { later with groups := (index, ⟨progress.position, later.position⟩) :: later.groups }
  | seq first second, progress, next =>
    seek input first progress fun later => seek input second later next
  | alt first second, progress, next =>
    (seek input first progress next).or (seek input second progress next)
  | once _ body, progress, next => seek input body progress next
  | star _ body greedy, progress, next =>
    seekRounds (fun progress next => seek input body progress next) greedy next
      (input.size + 1 - progress.position) progress

def marks : Plan → List Nat
  | group _ body => body.marks
  | seq first second => first.marks ++ second.marks
  | alt first second => first.marks ++ second.marks
  | once mark body => mark :: body.marks
  | star mark body _ => mark :: body.marks
  | _ => []

/-- Whether every match is known to take characters. -/
def moves : Plan → Bool
  | text chars => !chars.isEmpty
  | oneOf _ => true
  | group _ body => body.moves
  | seq first second => first.moves || second.moves
  | alt first second => first.moves && second.moves
  | once _ body => body.moves
  | _ => false

/-- Whether every round of a repetition takes characters, and no decisions. -/
def roundsMove : Plan → Bool
  | group _ body => body.roundsMove
  | seq first second => first.roundsMove && second.roundsMove
  | alt first second => first.roundsMove && second.roundsMove
  | once _ body => body.roundsMove
  | star _ body _ => body.roundsMove && body.moves && body.marks.isEmpty
  | _ => true

/-- All marks are different and every round moves on. -/
structure Steady (plan : Plan) : Prop where
  distinct : plan.marks.Nodup
  roundsMove : plan.roundsMove = true

instance (plan : Plan) : Decidable plan.Steady :=
  decidable_of_iff (plan.marks.Nodup ∧ plan.roundsMove = true)
    ⟨fun both => ⟨both.1, both.2⟩, fun steady => ⟨steady.distinct, steady.roundsMove⟩⟩

namespace Leads

variable {input : Array Char} {plan : Plan} {progress later : Progress}

theorem position_le_size (leads : plan.Leads input progress later)
    (inside : progress.position ≤ input.size) : later.position ≤ input.size := by
  induction leads with
  | empty | boundary | starNone => exact inside
  | @text chars progress here =>
    rcases List.eq_nil_or_concat chars with rfl | ⟨front, last, rfl⟩
    · exact inside
    · have behind : front.length < (front.concat last).length := by
        rw [List.length_concat]
        omega
      have ends := getElem?_of_hasText here behind
      rw [List.concat_eq_append, List.getElem?_concat_length] at ends
      obtain ⟨known, -⟩ := Array.getElem?_eq_some_iff.1 ends
      simp only [List.concat_eq_append, List.length_append, List.length_singleton]
      omega
  | oneOf here =>
    obtain ⟨known, -⟩ := Array.getElem?_eq_some_iff.1 here
    exact known
  | group _ ih => exact ih inside
  | seq _ _ one two => exact two (one inside)
  | altFirst _ ih => exact ih inside
  | altSecond _ ih => exact ih inside
  | once _ ih => exact ih inside
  | starMore _ _ one two => exact two (one inside)

theorem position_lt (leads : plan.Leads input progress later) (moves : plan.moves = true) :
    progress.position < later.position := by
  induction leads with
  | empty | boundary | starNone | starMore => exact nomatch moves
  | @text chars progress _ =>
    rw [Plan.moves, Bool.not_eq_true', List.isEmpty_eq_false_iff] at moves
    exact Nat.lt_add_of_pos_right (List.length_pos_iff.2 moves)
  | oneOf => exact Nat.lt_succ_self _
  | group _ ih => exact ih moves
  | seq before behind one two =>
    rw [Plan.moves, Bool.or_eq_true] at moves
    rcases moves with first | second
    · exact Nat.lt_of_lt_of_le (one first) behind.position_le
    · exact Nat.lt_of_le_of_lt before.position_le (two second)
  | altFirst _ ih =>
    rw [Plan.moves, Bool.and_eq_true] at moves
    exact ih moves.1
  | altSecond _ ih =>
    rw [Plan.moves, Bool.and_eq_true] at moves
    exact ih moves.2
  | once _ ih => exact ih moves

/-- Where a plan leads does not depend on the groups that are closed. -/
theorem regroup (leads : plan.Leads input progress later) (groups : List (Nat × Span)) :
    ∃ closed, plan.Leads input ⟨progress.position, groups⟩ ⟨later.position, closed⟩ := by
  induction leads generalizing groups with
  | empty progress => exact ⟨groups, .empty _⟩
  | text here => exact ⟨groups, .text here⟩
  | oneOf here member => exact ⟨groups, .oneOf here member⟩
  | boundary holds => exact ⟨groups, .boundary holds⟩
  | @group index body progress later _ ih =>
    obtain ⟨closed, inner⟩ := ih groups
    exact ⟨(index, ⟨progress.position, later.position⟩) :: closed, .group inner⟩
  | seq _ _ one two =>
    obtain ⟨between, before⟩ := one groups
    obtain ⟨closed, behind⟩ := two between
    exact ⟨closed, .seq before behind⟩
  | altFirst _ ih =>
    obtain ⟨closed, way⟩ := ih groups
    exact ⟨closed, .altFirst way⟩
  | altSecond _ ih =>
    obtain ⟨closed, way⟩ := ih groups
    exact ⟨closed, .altSecond way⟩
  | once _ ih =>
    obtain ⟨closed, way⟩ := ih groups
    exact ⟨closed, .once way⟩
  | starNone => exact ⟨groups, .starNone _⟩
  | starMore _ _ one two =>
    obtain ⟨between, round⟩ := one groups
    obtain ⟨closed, rounds⟩ := two between
    exact ⟨closed, .starMore round rounds⟩

end Leads

section Ways

variable {α : Type} {input : Array Char} {progress : Progress} {next : Progress → Option α}

/-- Rounds come to something if the repetition leads to a place from where the rest does. -/
theorem isSome_seekRounds_iff {mark : Nat} {body : Plan} {greedy : Bool}
    (round : ∀ {progress : Progress} {next : Progress → Option α},
      progress.position ≤ input.size → ((body.seek input progress next).isSome ↔
        ∃ later, body.Leads input progress later ∧ (next later).isSome))
    (moves : body.moves = true) {fuel : Nat} (inside : progress.position ≤ input.size)
    (enough : input.size < fuel + progress.position) :
    (seekRounds (fun progress next => body.seek input progress next) greedy next fuel
      progress).isSome ↔
        ∃ later, (star mark body greedy).Leads input progress later ∧ (next later).isSome := by
  induction fuel generalizing progress with
  | zero => omega
  | succ fuel ih =>
    have either : (seekRounds (fun progress next => body.seek input progress next) greedy next
        (fuel + 1) progress).isSome ↔ (body.seek input progress (seekRounds
          (fun progress next => body.seek input progress next) greedy next fuel)).isSome ∨
            (next progress).isSome := by
      unfold seekRounds
      split
      · rw [Option.isSome_or, Bool.or_eq_true]
      · rw [Option.isSome_or, Bool.or_eq_true, or_comm]
    rw [either, round inside]
    constructor
    · rintro (⟨between, first, rest⟩ | done)
      · have forward := first.position_lt moves
        obtain ⟨later, rounds, ends⟩ :=
          (ih (first.position_le_size inside) (by omega)).1 rest
        exact ⟨later, .starMore first rounds, ends⟩
      · exact ⟨progress, .starNone progress, done⟩
    · rintro ⟨later, rounds, ends⟩
      cases rounds with
      | starNone => exact Or.inr ends
      | @starMore _ _ _ _ between _ first rest =>
        have forward := first.position_lt moves
        exact Or.inl ⟨between, first,
          (ih (first.position_le_size inside) (by omega)).2 ⟨later, rest, ends⟩⟩

/-- The search comes to something if the plan leads to a place from where the rest does. -/
theorem isSome_seek_iff {plan : Plan} (roundsMove : plan.roundsMove = true)
    (inside : progress.position ≤ input.size) : (plan.seek input progress next).isSome ↔
      ∃ later, plan.Leads input progress later ∧ (next later).isSome := by
  induction plan generalizing progress next with
  | empty =>
    refine ⟨fun ends => ⟨progress, .empty progress, ends⟩, ?_⟩
    rintro ⟨later, leads, ends⟩
    cases leads
    exact ends
  | text chars =>
    unfold seek
    constructor
    · intro ends
      split at ends
      · rename_i here
        exact ⟨_, .text here, ends⟩
      · exact nomatch ends
    · rintro ⟨later, leads, ends⟩
      cases leads with
      | text here => rwa [if_pos here]
  | oneOf set =>
    unfold seek
    constructor
    · intro ends
      split at ends
      · rename_i here
        obtain ⟨c, found, member⟩ := (Option.any_eq_true ..).1 here
        exact ⟨_, .oneOf found member, ends⟩
      · exact nomatch ends
    · rintro ⟨later, leads, ends⟩
      cases leads with
      | oneOf here member => rwa [if_pos ((Option.any_eq_true ..).2 ⟨_, here, member⟩)]
  | boundary condition =>
    unfold seek
    constructor
    · intro ends
      split at ends
      · rename_i holds
        exact ⟨_, .boundary holds, ends⟩
      · exact nomatch ends
    · rintro ⟨later, leads, ends⟩
      cases leads with
      | boundary holds => rwa [if_pos holds]
  | group index body ih =>
    unfold seek
    rw [ih roundsMove inside]
    constructor
    · rintro ⟨later, leads, ends⟩
      exact ⟨_, .group leads, ends⟩
    · rintro ⟨later, leads, ends⟩
      cases leads with
      | group inner => exact ⟨_, inner, ends⟩
  | seq first second ihFirst ihSecond =>
    rw [Plan.roundsMove, Bool.and_eq_true] at roundsMove
    unfold seek
    rw [ihFirst roundsMove.1 inside]
    constructor
    · rintro ⟨between, before, rest⟩
      obtain ⟨later, behind, ends⟩ :=
        (ihSecond roundsMove.2 (before.position_le_size inside)).1 rest
      exact ⟨later, .seq before behind, ends⟩
    · rintro ⟨later, leads, ends⟩
      cases leads with
      | seq before behind =>
        exact ⟨_, before, (ihSecond roundsMove.2 (before.position_le_size inside)).2
          ⟨later, behind, ends⟩⟩
  | alt first second ihFirst ihSecond =>
    rw [Plan.roundsMove, Bool.and_eq_true] at roundsMove
    unfold seek
    rw [Option.isSome_or, Bool.or_eq_true, ihFirst roundsMove.1 inside,
      ihSecond roundsMove.2 inside]
    constructor
    · rintro (⟨later, way, ends⟩ | ⟨later, way, ends⟩)
      · exact ⟨later, .altFirst way, ends⟩
      · exact ⟨later, .altSecond way, ends⟩
    · rintro ⟨later, leads, ends⟩
      cases leads with
      | altFirst way => exact Or.inl ⟨later, way, ends⟩
      | altSecond way => exact Or.inr ⟨later, way, ends⟩
  | once mark body ih =>
    unfold seek
    rw [ih roundsMove inside]
    constructor
    · rintro ⟨later, way, ends⟩
      exact ⟨later, .once way, ends⟩
    · rintro ⟨later, leads, ends⟩
      cases leads with
      | once way => exact ⟨later, way, ends⟩
  | star mark body greedy ih =>
    rw [Plan.roundsMove, Bool.and_eq_true, Bool.and_eq_true] at roundsMove
    exact isSome_seekRounds_iff (ih roundsMove.1.1) roundsMove.1.2 inside (by omega)

/-- The plan leads from `position` to a place that is `alive`. -/
def Reaches (input : Array Char) (plan : Plan) (alive : Nat → Prop) (position : Nat) : Prop :=
  ∃ later, plan.Leads input ⟨position, []⟩ later ∧ alive later.position

/-- Whether the rest succeeds behind the plan is a matter of the position alone, if it is one for
the rest. -/
theorem exists_leads_iff_reaches {plan : Plan} {alive : Nat → Prop}
    (succeeds : ∀ later, plan.Leads input progress later →
      ((next later).isSome ↔ alive later.position)) :
    (∃ later, plan.Leads input progress later ∧ (next later).isSome) ↔
      plan.Reaches input alive progress.position := by
  constructor
  · rintro ⟨later, leads, ends⟩
    obtain ⟨closed, way⟩ := leads.regroup []
    exact ⟨_, way, (succeeds later leads).1 ends⟩
  · rintro ⟨later, leads, lives⟩
    obtain ⟨closed, way⟩ := leads.regroup progress.groups
    exact ⟨_, way, (succeeds _ way).2 lives⟩

end Ways

section Memory

variable {α : Type} {input : Array Char} {dead consulted : Nat × Nat → Prop}

/-- An attempt comes to `answer` behind all decisions that are right about those it asks for: what
was decided of them has to be `dead`. If it fails, so is what it decides itself. -/
def Sees (dead consulted : Nat × Nat → Prop) (attempt : Attempt α) (answer : Option α) : Prop :=
  ∀ trail : Trail, (∀ entry ∈ trail, consulted entry → dead entry) →
    (attempt.run trail).1 = answer ∧ (answer = none → ∀ entry ∈ (attempt.run trail).2,
      entry ∈ trail ∨ consulted entry ∧ dead entry)

theorem sees_failure : Sees dead consulted (failure : Attempt α) none :=
  fun _ _ => ⟨rfl, fun _ _ member => Or.inl member⟩

theorem sees_pure (value : α) : Sees dead consulted (pure value) (some value) :=
  fun _ _ => ⟨rfl, fun none => nomatch none⟩

namespace Sees

variable {attempt first second : Attempt α} {answer one two : Option α}

theorem mono (sees : Sees dead consulted attempt answer) {further : Nat × Nat → Prop}
    (wider : ∀ entry, consulted entry → further entry) : Sees dead further attempt answer := by
  intro trail known
  obtain ⟨result, after⟩ := sees trail fun entry member asked =>
    known entry member (wider entry asked)
  refine ⟨result, fun none entry member => ?_⟩
  exact (after none entry member).imp_right fun both => ⟨wider entry both.1, both.2⟩

theorem orElse (isFirst : Sees dead consulted first one)
    (isSecond : Sees dead consulted second two) :
    Sees dead consulted (first <|> second) (one.or two) := by
  intro trail known
  obtain ⟨result, after⟩ := isFirst trail known
  rw [Attempt.run_orElse, result]
  cases one with
  | some value =>
    rw [Option.isSome_some, if_pos rfl, Option.some_or]
    exact ⟨result, fun none => nomatch none⟩
  | none =>
    rw [Option.isSome_none, if_neg Bool.false_ne_true, Option.none_or]
    have rest := isSecond (first.run trail).2 (by
      intro entry member asked
      exact (after rfl entry member).elim (fun before => known entry before asked) And.right)
    refine ⟨rest.1, fun none entry member => ?_⟩
    rcases rest.2 none entry member with between | both
    · exact after rfl entry between
    · exact Or.inr both

theorem either (isFirst : Sees dead consulted first one)
    (isSecond : Sees dead consulted second two) (inOrder : Bool) :
    Sees dead consulted (Plan.either inOrder first second)
      (if inOrder then one.or two else two.or one) := by
  unfold Plan.either
  split
  · exact isFirst.orElse isSecond
  · exact isSecond.orElse isFirst

/-- A decision in front of an attempt that does not ask for it again, and that fails if the decision
is dead. -/
theorem decide {inner : Nat × Nat → Prop} {mark position : Nat}
    (sees : Sees dead inner attempt answer) (wider : ∀ entry, inner entry → consulted entry)
    (own : consulted (position, mark)) (fresh : ¬ inner (position, mark))
    (fails : dead (position, mark) ↔ answer = none) :
    Sees dead consulted (decideAt mark position >>= fun _ => attempt) answer := by
  intro trail known
  rw [Attempt.run_bind, Attempt.run_decideAt]
  by_cases taken : trail.contains (position, mark) = true
  · rw [if_pos taken]
    refine ⟨(fails.1 (known _ taken own)).symm, fun _ entry member => Or.inl ?_⟩
    rcases (Trail.mem_insert ..).1 member with rfl | before
    · exact taken
    · exact before
  · rw [if_neg taken]
    obtain ⟨result, after⟩ := sees (trail.insert (position, mark)) (by
      intro entry member asked
      rcases (Trail.mem_insert ..).1 member with rfl | before
      · exact absurd asked fresh
      · exact known entry before (wider entry asked))
    refine ⟨result, fun none entry member => ?_⟩
    rcases after none entry member with between | both
    · rcases (Trail.mem_insert ..).1 between with rfl | before
      · exact Or.inr ⟨own, fails.2 none⟩
      · exact Or.inl before
    · exact Or.inr ⟨wider entry both.1, both.2⟩

end Sees

/-- Of the marks of the plan, those decisions are `dead` from which the plan leads to no place that
is `alive`. -/
def Judges (input : Array Char) (dead : Nat × Nat → Prop) : Plan → (Nat → Prop) → Prop
  | group _ body, alive => Judges input dead body alive
  | seq first second, alive =>
    Judges input dead first (second.Reaches input alive) ∧ Judges input dead second alive
  | alt first second, alive => Judges input dead first alive ∧ Judges input dead second alive
  | once mark body, alive =>
    (∀ position, dead (position, mark) ↔ ¬ body.Reaches input alive position) ∧
      Judges input dead body alive
  | star mark body greedy, alive =>
    (∀ position,
      dead (position, mark) ↔ ¬ (star mark body greedy).Reaches input alive position) ∧
      Judges input dead body ((star mark body greedy).Reaches input alive)
  | _, _ => True

theorem Judges.congr {plan : Plan} {alive : Nat → Prop} {other : Nat × Nat → Prop}
    (judges : Judges input dead plan alive)
    (same : ∀ position, ∀ mark ∈ plan.marks, other (position, mark) ↔ dead (position, mark)) :
    Judges input other plan alive := by
  induction plan generalizing alive with
  | group index body ih => exact ih judges same
  | seq first second ihFirst ihSecond =>
    exact ⟨ihFirst judges.1 fun position mark member =>
      same position mark (List.mem_append_left _ member), ihSecond judges.2
        fun position mark member => same position mark (List.mem_append_right _ member)⟩
  | alt first second ihFirst ihSecond =>
    exact ⟨ihFirst judges.1 fun position mark member =>
      same position mark (List.mem_append_left _ member), ihSecond judges.2
        fun position mark member => same position mark (List.mem_append_right _ member)⟩
  | once mark body ih =>
    exact ⟨fun position => (same position mark List.mem_cons_self).trans (judges.1 position),
      ih judges.2 fun position other member =>
        same position other (List.mem_cons_of_mem mark member)⟩
  | star mark body greedy ih =>
    exact ⟨fun position => (same position mark List.mem_cons_self).trans (judges.1 position),
      ih judges.2 fun position other member =>
        same position other (List.mem_cons_of_mem mark member)⟩
  | _ => trivial

theorem exists_judges_both {first second : Plan} {alive between : Nat → Prop}
    (distinct : (first.marks ++ second.marks).Nodup)
    (one : ∃ dead, Judges input dead first between) (two : ∃ dead, Judges input dead second alive) :
    ∃ dead, Judges input dead first between ∧ Judges input dead second alive := by
  obtain ⟨left, judgesFirst⟩ := one
  obtain ⟨right, judgesSecond⟩ := two
  refine ⟨fun entry => if entry.2 ∈ first.marks then left entry else right entry, ?_, ?_⟩
  · refine judgesFirst.congr fun position mark member => ?_
    dsimp only
    rw [if_pos member]
  · refine judgesSecond.congr fun position mark member => ?_
    have outside : mark ∉ first.marks := fun inFirst =>
      (List.nodup_append.1 distinct).2.2 mark inFirst mark member rfl
    dsimp only
    rw [if_neg outside]

theorem exists_judges_cons {body : Plan} {mark : Nat} {alive : Nat → Prop}
    (distinct : (mark :: body.marks).Nodup) (one : ∃ dead, Judges input dead body alive)
    (own : Nat → Prop) :
    ∃ dead, (∀ position, dead (position, mark) ↔ own position) ∧ Judges input dead body alive := by
  obtain ⟨inner, judges⟩ := one
  refine ⟨fun entry => if entry.2 = mark then own entry.1 else inner entry, ?_, ?_⟩
  · intro position
    dsimp only
    rw [if_pos rfl]
  · refine judges.congr fun position other member => ?_
    have different : other ≠ mark := by
      rintro rfl
      exact (List.nodup_cons.1 distinct).1 member
    dsimp only
    rw [if_neg different]

theorem exists_judges (input : Array Char) {plan : Plan} (distinct : plan.marks.Nodup)
    (alive : Nat → Prop) : ∃ dead, Judges input dead plan alive := by
  induction plan generalizing alive with
  | group index body ih => exact ih distinct alive
  | seq first second ihFirst ihSecond =>
    exact exists_judges_both distinct (ihFirst (List.nodup_append.1 distinct).1 _)
      (ihSecond (List.nodup_append.1 distinct).2.1 alive)
  | alt first second ihFirst ihSecond =>
    exact exists_judges_both distinct (ihFirst (List.nodup_append.1 distinct).1 alive)
      (ihSecond (List.nodup_append.1 distinct).2.1 alive)
  | once mark body ih =>
    exact exists_judges_cons distinct (ih (List.nodup_cons.1 distinct).2 alive) _
  | star mark body greedy ih =>
    exact exists_judges_cons distinct (ih (List.nodup_cons.1 distinct).2 _) _
  | _ => exact ⟨fun _ => True, trivial⟩

variable {alive : Nat → Prop} {next : Progress → Attempt α} {answer : Progress → Option α}

/-- The rounds of a repetition behind decisions that are right. -/
theorem repeated_sees {mark : Nat} {body : Plan} {greedy : Bool}
    (round : ∀ {consulted : Nat × Nat → Prop} {progress : Progress} {next : Progress → Attempt α}
      {answer : Progress → Option α}, progress.position ≤ input.size →
      (∀ later, body.Leads input progress later → Sees dead consulted (next later) (answer later)) →
      (∀ later, body.Leads input progress later → ((answer later).isSome ↔
        (star mark body greedy).Reaches input alive later.position)) →
      Sees dead consulted (body.run input progress next) (body.seek input progress answer))
    (roundsMove : (star mark body greedy).roundsMove = true)
    (judges : ∀ position, dead (position, mark) ↔
      ¬ (star mark body greedy).Reaches input alive position)
    (apart : ∀ entry, consulted entry → entry.2 ≠ mark) {progress : Progress}
    (inside : progress.position ≤ input.size)
    (rest : ∀ later, (star mark body greedy).Leads input progress later →
      Sees dead consulted (next later) (answer later))
    (succeeds : ∀ later, (star mark body greedy).Leads input progress later →
      ((answer later).isSome ↔ alive later.position))
    {fuel : Nat} (enough : input.size < fuel + progress.position) :
    Sees dead (fun entry => consulted entry ∨ entry.2 = mark ∧ progress.position ≤ entry.1)
      (repeated (fun progress next => body.run input progress next) mark greedy next fuel progress)
      (seekRounds (fun progress next => body.seek input progress next) greedy answer fuel
        progress) := by
  rw [Plan.roundsMove, Bool.and_eq_true, Bool.and_eq_true] at roundsMove
  obtain ⟨⟨inBody, moves⟩, -⟩ := roundsMove
  -- Whether the rounds succeed is a matter of their position alone.
  have reaches : ∀ {progress : Progress} {fuel : Nat}, progress.position ≤ input.size →
      input.size < fuel + progress.position →
      (∀ later, (star mark body greedy).Leads input progress later →
        ((answer later).isSome ↔ alive later.position)) →
      ((seekRounds (fun progress next => body.seek input progress next) greedy answer fuel
        progress).isSome ↔ (star mark body greedy).Reaches input alive progress.position) := by
    intro progress fuel inside enough succeeds
    rw [isSome_seekRounds_iff (isSome_seek_iff inBody) moves inside enough,
      exists_leads_iff_reaches succeeds]
  induction fuel generalizing progress with
  | zero => omega
  | succ fuel ih =>
    have fails : dead (progress.position, mark) ↔ seekRounds (fun progress next =>
        body.seek input progress next) greedy answer (fuel + 1) progress = none := by
      rw [judges, ← reaches inside enough succeeds, Option.not_isSome_iff_eq_none]
    unfold repeated
    unfold seekRounds at fails ⊢
    refine Sees.decide (show Sees dead (fun entry => consulted entry ∨
      entry.2 = mark ∧ progress.position < entry.1) _ _ from ?_) ?_
      (Or.inr ⟨rfl, Nat.le_refl _⟩) ?_ fails
    · refine Sees.either ?_ ((rest progress (.starNone progress)).mono fun _ => Or.inl) greedy
      refine round inside ?_ ?_
      · intro between first
        have forward := first.position_lt moves
        refine (ih (first.position_le_size inside)
          (fun later rounds => rest later (.starMore first rounds))
          (fun later rounds => succeeds later (.starMore first rounds)) (by omega)).mono ?_
        rintro entry (asked | ⟨same, behind⟩)
        · exact Or.inl asked
        · exact Or.inr ⟨same, by omega⟩
      · intro between first
        have forward := first.position_lt moves
        exact reaches (first.position_le_size inside) (by omega)
          fun later rounds => succeeds later (.starMore first rounds)
    · rintro entry (asked | ⟨same, behind⟩)
      · exact Or.inl asked
      · exact Or.inr ⟨same, Nat.le_of_lt behind⟩
    · rintro (asked | ⟨-, behind⟩)
      · exact apart _ asked rfl
      · exact Nat.lt_irrefl _ behind

/-- Behind decisions that are right, a plan comes to what it comes to without memory. It asks for
its own marks, from the position on, and the rest may ask for other ones. -/
theorem run_sees {plan : Plan} (distinct : plan.marks.Nodup) (roundsMove : plan.roundsMove = true)
    (judges : Judges input dead plan alive)
    (apart : ∀ entry, consulted entry → entry.2 ∉ plan.marks) {progress : Progress}
    (inside : progress.position ≤ input.size)
    (rest : ∀ later, plan.Leads input progress later →
      Sees dead consulted (next later) (answer later))
    (succeeds : ∀ later, plan.Leads input progress later →
      ((answer later).isSome ↔ alive later.position)) :
    Sees dead (fun entry => consulted entry ∨ entry.2 ∈ plan.marks ∧ progress.position ≤ entry.1)
      (plan.run input progress next) (plan.seek input progress answer) := by
  induction plan generalizing alive consulted progress next answer with
  | empty => exact (rest progress (.empty progress)).mono fun _ => Or.inl
  | text chars =>
    unfold run seek
    split
    · rename_i here
      exact (rest _ (.text here)).mono fun _ => Or.inl
    · exact sees_failure
  | oneOf set =>
    unfold run seek
    split
    · rename_i here
      obtain ⟨c, found, member⟩ := (Option.any_eq_true ..).1 here
      exact (rest _ (.oneOf found member)).mono fun _ => Or.inl
    · exact sees_failure
  | boundary condition =>
    unfold run seek
    split
    · rename_i holds
      exact (rest _ (.boundary holds)).mono fun _ => Or.inl
    · exact sees_failure
  | group index body ih =>
    exact ih distinct roundsMove judges apart inside
      (fun later inner => rest _ (.group inner)) (fun later inner => succeeds _ (.group inner))
  | seq first second ihFirst ihSecond =>
    rw [Plan.roundsMove, Bool.and_eq_true] at roundsMove
    obtain ⟨inFirst, inSecond, disjoint⟩ := List.nodup_append.1 distinct
    have behind : ∀ between, first.Leads input progress between → Sees dead
        (fun entry => consulted entry ∨ entry.2 ∈ second.marks ∧ progress.position ≤ entry.1)
        (second.run input between next) (second.seek input between answer) := by
      intro between before
      refine (ihSecond inSecond roundsMove.2 judges.2
        (fun entry asked member => apart entry asked (List.mem_append_right _ member))
        (before.position_le_size inside) (fun later further => rest later (.seq before further))
        (fun later further => succeeds later (.seq before further))).mono ?_
      have forward := before.position_le
      rintro entry (asked | ⟨member, further⟩)
      · exact Or.inl asked
      · exact Or.inr ⟨member, Nat.le_trans forward further⟩
    refine (ihFirst inFirst roundsMove.1 judges.1 ?_ inside behind ?_).mono ?_
    · rintro entry (asked | ⟨member, -⟩) own
      · exact apart entry asked (List.mem_append_left _ own)
      · exact disjoint _ own _ member rfl
    · intro between before
      rw [isSome_seek_iff roundsMove.2 (before.position_le_size inside), exists_leads_iff_reaches
        fun later further => succeeds later (.seq before further)]
    · rintro entry ((asked | ⟨member, further⟩) | ⟨member, further⟩)
      · exact Or.inl asked
      · exact Or.inr ⟨List.mem_append_right _ member, further⟩
      · exact Or.inr ⟨List.mem_append_left _ member, further⟩
  | alt first second ihFirst ihSecond =>
    rw [Plan.roundsMove, Bool.and_eq_true] at roundsMove
    obtain ⟨inFirst, inSecond, -⟩ := List.nodup_append.1 distinct
    refine Sees.orElse ?_ ?_
    · refine (ihFirst inFirst roundsMove.1 judges.1
        (fun entry asked member => apart entry asked (List.mem_append_left _ member)) inside
        (fun later way => rest later (.altFirst way))
        (fun later way => succeeds later (.altFirst way))).mono ?_
      exact fun entry => Or.imp_right fun both => ⟨List.mem_append_left _ both.1, both.2⟩
    · refine (ihSecond inSecond roundsMove.2 judges.2
        (fun entry asked member => apart entry asked (List.mem_append_right _ member)) inside
        (fun later way => rest later (.altSecond way))
        (fun later way => succeeds later (.altSecond way))).mono ?_
      exact fun entry => Or.imp_right fun both => ⟨List.mem_append_right _ both.1, both.2⟩
  | once mark body ih =>
    obtain ⟨fresh, inBody⟩ := List.nodup_cons.1 distinct
    refine Sees.decide (ih inBody roundsMove judges.2
      (fun entry asked member => apart entry asked (List.mem_cons_of_mem mark member)) inside
      (fun later way => rest later (.once way)) (fun later way => succeeds later (.once way)))
      ?_ (Or.inr ⟨List.mem_cons_self, Nat.le_refl _⟩) ?_ ?_
    · exact fun entry => Or.imp_right fun both => ⟨List.mem_cons_of_mem mark both.1, both.2⟩
    · rintro (asked | ⟨member, -⟩)
      · exact apart _ asked List.mem_cons_self
      · exact fresh member
    · have movesOn : body.roundsMove = true := roundsMove
      rw [judges.1, ← exists_leads_iff_reaches fun later way => succeeds later (.once way),
        ← isSome_seek_iff movesOn inside, Option.not_isSome_iff_eq_none]
      rfl
  | star mark body greedy ih =>
    have parts := roundsMove
    rw [Plan.roundsMove, Bool.and_eq_true, Bool.and_eq_true, List.isEmpty_iff] at parts
    obtain ⟨⟨inBody, -⟩, noMarks⟩ := parts
    have inner : body.marks.Nodup := (List.nodup_cons.1 distinct).2
    refine (repeated_sees ?_ roundsMove judges.1 ?_ inside rest succeeds (by omega)).mono ?_
    · intro consulted progress next answer inside rest succeeds
      refine (ih inner inBody judges.2 ?_ inside rest succeeds).mono ?_
      · rw [noMarks]
        exact fun entry _ => List.not_mem_nil
      · rw [noMarks]
        exact fun entry either => either.resolve_right fun both => List.not_mem_nil both.1
    · intro entry asked same
      exact apart entry asked (same ▸ List.mem_cons_self)
    · rintro entry (asked | ⟨same, behind⟩)
      · exact Or.inl asked
      · exact Or.inr ⟨same ▸ List.mem_cons_self, behind⟩

/-- The match that begins at `start` and has come to its end. -/
def Progress.toMatch (start : Nat) (done : Progress) : Match :=
  ⟨⟨start, done.position⟩, done.groups⟩

/-- The first way to match from `position` on. -/
def firstAt (plan : Plan) (input : Array Char) (position : Nat) : Option Match :=
  plan.seek input ⟨position, []⟩ fun done => some (done.toMatch position)

theorem matchAmong_sees {plan : Plan} (steady : plan.Steady)
    (judges : Judges input dead plan fun _ => True) (count position : Nat)
    (inside : position + count ≤ input.size + 1) :
    Sees dead (fun entry => entry.2 ∈ plan.marks) (plan.matchAmong input count position)
      ((List.range' position count).findSome? (plan.firstAt input)) := by
  induction count generalizing position with
  | zero => exact sees_failure
  | succ count ih =>
    have here : Sees dead (fun entry => entry.2 ∈ plan.marks) (plan.matchAt input position)
        (plan.firstAt input position) := by
      refine (run_sees steady.distinct steady.roundsMove judges
        (fun _ (asked : False) => asked.elim) (by dsimp only; omega) (fun later _ => sees_pure _)
        (fun later _ => by simp only [Option.isSome_some])).mono ?_
      exact fun entry either => (either.resolve_left id).1
    have either := here.orElse (ih (position + 1) (by omega))
    rw [List.range'_succ, List.findSome?_cons]
    unfold matchAmong
    cases found : plan.firstAt input position with
    | none => rwa [found, Option.none_or] at either
    | some first => rwa [found, Option.some_or] at either

/-- The search with memory comes to the first way from the first position from where there is
one. -/
theorem searchFrom?_eq_findSome? {plan : Plan} (steady : plan.Steady) (input : Array Char)
    (position : Nat) : plan.searchFrom? input position =
      (List.range' position (input.size + 1 - position)).findSome? (plan.firstAt input) := by
  obtain ⟨dead, judges⟩ := exists_judges input steady.distinct fun _ => True
  rcases Nat.le_total position (input.size + 1) with known | behind
  · refine (matchAmong_sees steady judges _ position (by omega) ∅ ?_).1
    exact fun entry member => absurd member Std.TreeSet.not_mem_emptyc
  · have none : input.size + 1 - position = 0 := by omega
    rw [searchFrom?, none]
    rfl

/-- A plan that begins at the beginning of the text matches there or nowhere. -/
theorem search?_of_textStart {rest : Plan} (steady : (seq (boundary .textStart) rest).Steady)
    (input : Array Char) : (seq (boundary .textStart) rest).search? input =
      rest.firstAt input 0 := by
  have atStart : (seq (boundary .textStart) rest).firstAt input 0 = rest.firstAt input 0 := rfl
  have behind : ∀ position, 0 < position →
      (seq (boundary .textStart) rest).firstAt input position = none := by
    intro position forward
    have fails : Boundary.holds .textStart input position = false :=
      beq_eq_false_iff_ne.2 (by omega)
    simp only [firstAt, seek, fails, Bool.false_eq_true, if_false]
  rw [search?, searchFrom?_eq_findSome? steady, Nat.sub_zero, List.range'_succ,
    List.findSome?_cons, atStart]
  cases rest.firstAt input 0 with
  | some found => rfl
  | none =>
    refine List.findSome?_eq_none_iff.2 fun position member => behind position ?_
    have forward := (List.mem_range'_1.1 member).1
    omega

end Memory

end Plan

end CodeFolding
