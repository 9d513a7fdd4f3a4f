import CodeFolding.Pattern.Search
import Std.Data.TreeSet.Lemmas

set_option autoImplicit false

namespace CodeFolding

namespace Pattern

@[simp] theorem leastLength_shiftGroups (offset : Nat) (pattern : Pattern) :
    (pattern.shiftGroups offset).leastLength = pattern.leastLength := by
  induction pattern with
  | group index body ih => exact ih
  | seq first second ihFirst ihSecond =>
    simp only [shiftGroups, leastLength, ihFirst, ihSecond]
  | alt first second ihFirst ihSecond =>
    simp only [shiftGroups, leastLength, ihFirst, ihSecond]
  | loop body least most greedy ih => simp only [shiftGroups, leastLength, ih]
  | _ => rfl

@[simp] theorem takesCharacters_shiftGroups (offset : Nat) (pattern : Pattern) :
    (pattern.shiftGroups offset).takesCharacters = pattern.takesCharacters := by
  rw [takesCharacters, takesCharacters, leastLength_shiftGroups]

end Pattern

namespace Plan

/-- The plan with all group numbers and all marks raised. -/
def shift (groups marks : Nat) : Plan → Plan
  | group index body => group (groups + index) (body.shift groups marks)
  | seq first second => seq (first.shift groups marks) (second.shift groups marks)
  | alt first second => alt (first.shift groups marks) (second.shift groups marks)
  | once mark body => once (marks + mark) (body.shift groups marks)
  | star mark body greedy => star (marks + mark) (body.shift groups marks) greedy
  | plan => plan

/-- All marks of the plan are below `bound`. -/
def MarksBelow (bound : Nat) : Plan → Prop
  | group _ body => body.MarksBelow bound
  | seq first second => first.MarksBelow bound ∧ second.MarksBelow bound
  | alt first second => first.MarksBelow bound ∧ second.MarksBelow bound
  | once mark body => mark < bound ∧ body.MarksBelow bound
  | star mark body _ => mark < bound ∧ body.MarksBelow bound
  | _ => True

theorem MarksBelow.mono {plan : Plan} {bound further : Nat} (below : plan.MarksBelow bound)
    (forward : bound ≤ further) : plan.MarksBelow further := by
  induction plan with
  | group index body ih => exact ih below
  | seq first second ihFirst ihSecond => exact ⟨ihFirst below.1, ihSecond below.2⟩
  | alt first second ihFirst ihSecond => exact ⟨ihFirst below.1, ihSecond below.2⟩
  | once mark body ih => exact ⟨Nat.lt_of_lt_of_le below.1 forward, ih below.2⟩
  | star mark body greedy ih => exact ⟨Nat.lt_of_lt_of_le below.1 forward, ih below.2⟩
  | _ => trivial

namespace Maker

/-- `moved` makes the plans of `maker` with raised groups and marks. -/
def Shifts (groups marks : Nat) (maker moved : Maker) : Prop :=
  ∀ mark, moved (marks + mark) =
    ((maker mark).1.shift groups marks, marks + (maker mark).2)

/-- The marks of a plan come before the number that is given with it. -/
def Counts (maker : Maker) : Prop :=
  ∀ mark, mark ≤ (maker mark).2 ∧ (maker mark).1.MarksBelow (maker mark).2

variable {groups marks : Nat} {maker moved : Maker}

theorem Shifts.exactly (shifts : Shifts groups marks maker moved) (count : Nat) :
    Shifts groups marks (Plan.exactly maker count) (Plan.exactly moved count) := by
  induction count with
  | zero => exact fun mark => rfl
  | succ count ih =>
    intro mark
    simp only [Plan.exactly, shifts mark, ih (maker mark).2, shift]

theorem Shifts.upTo (shifts : Shifts groups marks maker moved) (greedy : Bool) (count : Nat) :
    Shifts groups marks (Plan.upTo maker greedy count) (Plan.upTo moved greedy count) := by
  induction count with
  | zero => exact fun mark => rfl
  | succ count ih =>
    intro mark
    simp only [Plan.upTo, Nat.add_assoc, shifts (mark + 1), ih (maker (mark + 1)).2, optional]
    cases greedy <;> rfl

theorem Shifts.oneOrMore (shifts : Shifts groups marks maker moved) (greedy : Bool) :
    Shifts groups marks (Plan.oneOrMore maker greedy) (Plan.oneOrMore moved greedy) := by
  intro mark
  simp only [Plan.oneOrMore, Nat.add_assoc, shifts (mark + 1), shift]

theorem Shifts.zeroOrMore (shifts : Shifts groups marks maker moved)
    (takesCharacters greedy : Bool) :
    Shifts groups marks (Plan.zeroOrMore maker takesCharacters greedy)
      (Plan.zeroOrMore moved takesCharacters greedy) := by
  intro mark
  unfold Plan.zeroOrMore
  split
  · simp only [Nat.add_assoc, shifts (mark + 1), shift]
  · simp only [Nat.add_assoc, shifts.oneOrMore greedy (mark + 1), optional]
    cases greedy <;> rfl

theorem Shifts.followedBy {second after : Maker} (shifts : Shifts groups marks maker moved)
    (later : Shifts groups marks second after) :
    Shifts groups marks (Plan.followedBy maker second) (Plan.followedBy moved after) := by
  intro mark
  simp only [Plan.followedBy, shifts mark, later (maker mark).2, shift]

theorem Shifts.rounds (shifts : Shifts groups marks maker moved) (takesCharacters : Bool)
    (least : Nat) (most : Option Nat) (greedy : Bool) :
    Shifts groups marks (Plan.rounds maker takesCharacters least most greedy)
      (Plan.rounds moved takesCharacters least most greedy) := by
  unfold Plan.rounds
  split
  · exact (shifts.exactly _).followedBy (shifts.upTo greedy _)
  · exact shifts.zeroOrMore takesCharacters greedy
  · exact (shifts.exactly _).followedBy (shifts.oneOrMore greedy)

theorem Counts.exactly (counts : Counts maker) (count : Nat) :
    Counts (Plan.exactly maker count) := by
  induction count with
  | zero => exact fun mark => ⟨Nat.le_refl mark, trivial⟩
  | succ count ih =>
    intro mark
    obtain ⟨forward, below⟩ := counts mark
    obtain ⟨further, rest⟩ := ih (maker mark).2
    exact ⟨Nat.le_trans forward further, below.mono further, rest⟩

theorem Counts.upTo (counts : Counts maker) (greedy : Bool) (count : Nat) :
    Counts (Plan.upTo maker greedy count) := by
  induction count with
  | zero => exact fun mark => ⟨Nat.le_refl mark, trivial⟩
  | succ count ih =>
    intro mark
    obtain ⟨forward, below⟩ := counts (mark + 1)
    obtain ⟨further, rest⟩ := ih (maker (mark + 1)).2
    have before : mark < (Plan.upTo maker greedy count (maker (mark + 1)).2).2 := by omega
    refine ⟨Nat.le_of_lt before, before, ?_⟩
    have both := And.intro (below.mono further) rest
    cases greedy
    · exact ⟨trivial, both⟩
    · exact ⟨both, trivial⟩

theorem Counts.oneOrMore (counts : Counts maker) (greedy : Bool) :
    Counts (Plan.oneOrMore maker greedy) := by
  intro mark
  obtain ⟨forward, below⟩ := counts (mark + 1)
  exact ⟨Nat.le_of_lt forward, below, forward, below⟩

theorem Counts.zeroOrMore (counts : Counts maker) (takesCharacters greedy : Bool) :
    Counts (Plan.zeroOrMore maker takesCharacters greedy) := by
  intro mark
  unfold Plan.zeroOrMore
  split
  · obtain ⟨forward, below⟩ := counts (mark + 1)
    exact ⟨Nat.le_of_lt forward, forward, below⟩
  · obtain ⟨forward, below⟩ := counts.oneOrMore greedy (mark + 1)
    refine ⟨Nat.le_of_lt forward, forward, ?_⟩
    cases greedy
    · exact ⟨trivial, below⟩
    · exact ⟨below, trivial⟩

theorem Counts.followedBy {second : Maker} (counts : Counts maker) (later : Counts second) :
    Counts (Plan.followedBy maker second) := by
  intro mark
  obtain ⟨forward, below⟩ := counts mark
  obtain ⟨further, rest⟩ := later (maker mark).2
  exact ⟨Nat.le_trans forward further, below.mono further, rest⟩

theorem Counts.rounds (counts : Counts maker) (takesCharacters : Bool) (least : Nat)
    (most : Option Nat) (greedy : Bool) :
    Counts (Plan.rounds maker takesCharacters least most greedy) := by
  unfold Plan.rounds
  split
  · exact (counts.exactly _).followedBy (counts.upTo greedy _)
  · exact counts.zeroOrMore takesCharacters greedy
  · exact (counts.exactly _).followedBy (counts.oneOrMore greedy)

end Maker

/-- The plan of a pattern with raised group numbers that begins with a later mark. -/
theorem ofPattern_shifts (groups marks : Nat) (inside : Bool) (pattern : Pattern) :
    Maker.Shifts groups marks (ofPattern inside pattern)
      (ofPattern inside (pattern.shiftGroups groups)) := by
  induction pattern generalizing inside with
  | group index body ih =>
    intro mark
    simp only [Pattern.shiftGroups, ofPattern, ih false mark, shift]
  | seq first second ihFirst ihSecond =>
    exact (ihFirst false).followedBy (ihSecond false)
  | alt first second ihFirst ihSecond =>
    intro mark
    cases inside with
    | true =>
      simp only [Pattern.shiftGroups, ofPattern, ↓reduceIte, ihFirst false mark, ihSecond true _,
        shift]
    | false =>
      simp only [Pattern.shiftGroups, ofPattern, Bool.false_eq_true, ↓reduceIte, Nat.add_assoc,
        ihFirst false (mark + 1), ihSecond true _, shift]
  | loop body least most greedy ih =>
    intro mark
    simp only [Pattern.shiftGroups, ofPattern, Pattern.takesCharacters_shiftGroups]
    exact (ih false).rounds body.takesCharacters least most greedy mark
  | _ => exact fun mark => rfl

theorem ofPattern_counts (inside : Bool) (pattern : Pattern) :
    Maker.Counts (ofPattern inside pattern) := by
  induction pattern generalizing inside with
  | group index body ih => exact fun mark => ih false mark
  | seq first second ihFirst ihSecond => exact (ihFirst false).followedBy (ihSecond false)
  | alt first second ihFirst ihSecond =>
    intro mark
    cases inside with
    | true =>
      obtain ⟨forward, below⟩ := ihFirst false mark
      obtain ⟨further, rest⟩ := ihSecond true (ofPattern false first mark).2
      exact ⟨Nat.le_trans forward further, below.mono further, rest⟩
    | false =>
      obtain ⟨forward, below⟩ := ihFirst false (mark + 1)
      obtain ⟨further, rest⟩ := ihSecond true (ofPattern false first (mark + 1)).2
      have before : mark < (ofPattern true second (ofPattern false first (mark + 1)).2).2 := by
        omega
      exact ⟨Nat.le_of_lt before, before, below.mono further, rest⟩
  | loop body least most greedy ih =>
    exact fun mark => (ih false).rounds body.takesCharacters least most greedy mark
  | _ => exact fun mark => ⟨Nat.le_refl mark, trivial⟩

section Trails

/-- The decisions of `moved` with the `count` marks from `first` on are those of `trail` with the
marks from zero on, and its decisions with other marks are those of `frame`. -/
structure Trail.Holds (first count : Nat) (frame trail moved : Trail) : Prop where
  inside : ∀ position mark, mark < count →
    ((position, first + mark) ∈ moved ↔ (position, mark) ∈ trail)
  outside : ∀ position mark, mark < first ∨ first + count ≤ mark →
    ((position, mark) ∈ moved ↔ (position, mark) ∈ frame)

theorem Trail.mem_insert (trail : Trail) (taken other : Nat × Nat) :
    other ∈ trail.insert taken ↔ taken = other ∨ other ∈ trail := by
  rw [Std.TreeSet.mem_insert]
  simp only [compareLex_eq_eq, compareOn, Nat.compare_eq_eq, Prod.ext_iff]

end Trails

namespace Attempt

variable {α β : Type}

theorem run_orElse (first second : Attempt α) (trail : Trail) :
    (first <|> second).run trail =
      if (first.run trail).1.isSome then first.run trail else second.run (first.run trail).2 := by
  rw [OptionT.run_orElse]
  change (first.run trail).1.elim second.run (fun x => pure (some x)) (first.run trail).2 = _
  obtain ⟨found, after⟩ := first.run trail
  cases found with
  | none => rfl
  | some value => rfl

theorem run_bind (first : Attempt β) (second : β → Attempt α) (trail : Trail) :
    (first >>= second).run trail =
      (first.run trail).1.elim (none, (first.run trail).2)
        fun value => (second value).run (first.run trail).2 := by
  rw [OptionT.run_bind]
  change (first.run trail).1.elim (pure none) (fun x => (second x).run) (first.run trail).2 = _
  obtain ⟨found, after⟩ := first.run trail
  cases found with
  | none => rfl
  | some value => rfl

theorem run_decideAt (mark position : Nat) (trail : Trail) :
    (decideAt mark position).run trail =
      (if trail.contains (position, mark) then none else some (),
        trail.insert (position, mark)) := by
  have pair : trail.containsThenInsert (position, mark) =
      (trail.contains (position, mark), trail.insert (position, mark)) :=
    Prod.ext Std.TreeSet.containsThenInsert_fst Std.TreeSet.containsThenInsert_snd
  change decideAt mark position trail = _
  unfold decideAt
  rw [pair]
  cases trail.contains (position, mark) with
  | true => rfl
  | false => rfl

/-- Behind decisions that are `related`, the second attempt comes to what the first comes to,
changed by `lift`, and their decisions are related again. -/
def Follows (related : Trail → Trail → Prop) (lift : α → β) (first : Attempt α)
    (second : Attempt β) : Prop :=
  ∀ trail moved, related trail moved →
    (second.run moved).1 = (first.run trail).1.map lift ∧
      related (first.run trail).2 (second.run moved).2

variable {related : Trail → Trail → Prop} {lift : α → β}

theorem follows_failure : Follows related lift failure failure :=
  fun _ _ same => ⟨rfl, same⟩

theorem follows_pure (value : α) : Follows related lift (pure value) (pure (lift value)) :=
  fun _ _ same => ⟨rfl, same⟩

theorem Follows.orElse {first third : Attempt α} {second fourth : Attempt β}
    (one : Follows related lift first second) (two : Follows related lift third fourth) :
    Follows related lift (first <|> third) (second <|> fourth) := by
  intro trail moved same
  obtain ⟨result, after⟩ := one trail moved same
  rw [run_orElse, run_orElse, result, Option.isSome_map]
  split
  · exact ⟨result, after⟩
  · exact two _ _ after

theorem Follows.either {first third : Attempt α} {second fourth : Attempt β}
    (one : Follows related lift first second) (two : Follows related lift third fourth)
    (inOrder : Bool) :
    Follows related lift (Plan.either inOrder first third) (Plan.either inOrder second fourth) := by
  unfold Plan.either
  split
  · exact one.orElse two
  · exact two.orElse one

/-- Attempts behind one and the same decision. -/
theorem Follows.decide {first : Attempt α} {second : Attempt β}
    {start count mark : Nat} {frame : Trail}
    (rest : Follows (Trail.Holds start count frame) lift first second) (known : mark < count)
    (position : Nat) :
    Follows (Trail.Holds start count frame) lift (decideAt mark position >>= fun _ => first)
      (decideAt (start + mark) position >>= fun _ => second) := by
  intro trail moved same
  have taken : moved.contains (position, start + mark) = trail.contains (position, mark) := by
    rw [Bool.eq_iff_iff]
    exact same.inside position mark known
  have after : Trail.Holds start count frame (trail.insert (position, mark))
      (moved.insert (position, start + mark)) := by
    refine ⟨?_, ?_⟩
    · intro place other inside
      rw [Trail.mem_insert, Trail.mem_insert, same.inside place other inside, Prod.mk.injEq,
        Prod.mk.injEq, Nat.add_left_cancel_iff]
    · intro place other outside
      rw [Trail.mem_insert, same.outside place other outside, Prod.mk.injEq]
      refine or_iff_right ?_
      rintro ⟨-, rfl⟩
      omega
  rw [run_bind, run_bind, run_decideAt, run_decideAt, taken]
  split
  · exact ⟨rfl, after⟩
  · exact rest _ _ after

end Attempt

/-- How far a match has come in a plan with raised group numbers. -/
def Progress.shift (groups : Nat) (progress : Progress) : Progress :=
  { progress with groups := progress.groups.map fun (index, span) => (groups + index, span) }

section Runs

open Attempt (Follows follows_failure follows_pure)

variable {α β : Type} {input : Array Char} {groups start count : Nat} {frame : Trail}
  {lift : α → β} {next : Progress → Attempt α} {later : Progress → Attempt β}

theorem repeated_follows {body : Matcher α} {moved : Matcher β} {mark : Nat}
    (known : mark < count)
    (round : ∀ progress next later,
      (∀ done, Follows (Trail.Holds start count frame) lift (next done)
        (later (done.shift groups))) →
      Follows (Trail.Holds start count frame) lift (body progress next)
        (moved (progress.shift groups) later))
    (rest : ∀ done, Follows (Trail.Holds start count frame) lift (next done)
      (later (done.shift groups))) (greedy : Bool) (fuel : Nat) (progress : Progress) :
    Follows (Trail.Holds start count frame) lift
      (repeated body mark greedy next fuel progress)
      (repeated moved (start + mark) greedy later fuel (progress.shift groups)) := by
  induction fuel generalizing progress with
  | zero => exact follows_failure
  | succ fuel ih =>
    unfold repeated
    exact ((round progress _ _ ih).either (rest progress) greedy).decide known progress.position

/-- A plan with raised groups and marks does what the plan does, and so does what follows it if it
does so. -/
theorem run_follows (plan : Plan) (below : plan.MarksBelow count) (progress : Progress)
    (rest : ∀ done, Follows (Trail.Holds start count frame) lift (next done)
      (later (done.shift groups))) :
    Follows (Trail.Holds start count frame) lift (plan.run input progress next)
      ((plan.shift groups start).run input (progress.shift groups) later) := by
  induction plan generalizing progress next later with
  | empty => exact rest progress
  | text chars =>
    unfold shift run
    change Follows _ lift (if hasText input chars progress.position then _ else _)
      (if hasText input chars progress.position then _ else _)
    split
    · exact rest _
    · exact follows_failure
  | oneOf set =>
    unfold shift run
    change Follows _ lift (if input[progress.position]?.any set.contains then _ else _)
      (if input[progress.position]?.any set.contains then _ else _)
    split
    · exact rest _
    · exact follows_failure
  | boundary condition =>
    unfold shift run
    change Follows _ lift (if condition.holds input progress.position then _ else _)
      (if condition.holds input progress.position then _ else _)
    split
    · exact rest _
    · exact follows_failure
  | group index body ih => exact ih below progress fun done => rest _
  | seq first second ihFirst ihSecond =>
    exact ihFirst below.1 progress fun done => ihSecond below.2 done rest
  | alt first second ihFirst ihSecond =>
    exact (ihFirst below.1 progress rest).orElse (ihSecond below.2 progress rest)
  | once mark body ih =>
    exact (ih below.2 progress rest).decide below.1 progress.position
  | star mark body greedy ih =>
    exact repeated_follows below.1 (fun progress next later rest => ih below.2 progress rest) rest
      greedy _ progress

/-- The match of the plan as it shows in a group around it with the number `groups`. -/
def Match.enclosed (groups : Nat) (found : Match) : Match where
  toSpan := found.toSpan
  groups := (groups, found.toSpan) :: found.groups.map fun (index, span) => (groups + index, span)

/-- A plan with raised groups and marks, as a group with the next number, matches what the plan
matches. -/
theorem matchAt_follows (plan : Plan) (below : plan.MarksBelow count) (position : Nat) :
    Follows (Trail.Holds start count frame) (Match.enclosed groups)
      (plan.matchAt input position)
      ((group groups (plan.shift groups start)).matchAt input position) :=
  run_follows plan below ⟨position, []⟩ fun _ => follows_pure _

end Runs

end Plan

end CodeFolding
