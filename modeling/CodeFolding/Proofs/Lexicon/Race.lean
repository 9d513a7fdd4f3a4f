import CodeFolding.Lexicon
import CodeFolding.Proofs.Pattern.Leads
import CodeFolding.Proofs.Pattern.Shift
import Mathlib.Data.List.Basic

/-!
What the scanner of a lexicon finds. Its plan is a choice between the plans of the rules, and a
search with it goes through the text with all of them at once: at each place every rule is tried in
its turn, with the decisions that it would have taken alone. So it finds the match of the rule that
matches first, and among those that begin at the same place that of the first rule in the list.
-/

set_option autoImplicit false

namespace CodeFolding

namespace Pattern

theorem alternatives_groups {patterns : List Pattern}
    (groups : ∀ pattern ∈ patterns, ∃ index body, pattern = group index body) :
    patterns.flatMap alternatives = patterns := by
  induction patterns with
  | nil => rfl
  | cons pattern rest ih =>
    obtain ⟨index, body, rfl⟩ := groups pattern List.mem_cons_self
    rw [List.flatMap_cons, ih fun other member => groups other (List.mem_cons_of_mem _ member)]
    rfl

theorem choice_groups {patterns : List Pattern}
    (groups : ∀ pattern ∈ patterns, ∃ index body, pattern = group index body) :
    choice patterns = ofAlternatives patterns := by
  have same := alternatives_groups groups
  cases patterns with
  | nil => rfl
  | cons pattern rest =>
    obtain ⟨index, body, rfl⟩ := groups pattern List.mem_cons_self
    have unshared : factored? (group index body :: rest) = none := rfl
    rw [choice, same, unshared]
    dsimp only
    rw [choiceOf, same]
    cases rest with
    | nil => rfl
    | cons other rest => rfl

end Pattern

namespace Plan

/-- The choice between the given plans, in their order. -/
def anyOf : List Plan → Plan
  | [] => empty
  | [plan] => plan
  | plan :: rest => alt plan (anyOf rest)

def Attempt.firstOf {α : Type} (attempts : List (Attempt α)) : Attempt α :=
  attempts.foldr (fun first rest => first <|> rest) failure

theorem Attempt.run_firstOf_cons {α : Type} (first : Attempt α) (rest : List (Attempt α))
    (trail : Trail) : (firstOf (first :: rest)).run trail =
      if (first.run trail).1.isSome then first.run trail
      else (firstOf rest).run (first.run trail).2 :=
  run_orElse first (firstOf rest) trail

theorem run_matchAt_anyOf (input : Array Char) (position : Nat) {plans : List Plan}
    (some : plans ≠ []) (trail : Trail) :
    ((anyOf plans).matchAt input position).run trail =
      (Attempt.firstOf (plans.map fun plan => plan.matchAt input position)).run trail := by
  induction plans generalizing trail with
  | nil => exact absurd rfl some
  | cons plan rest ih =>
    rw [List.map_cons, Attempt.run_firstOf_cons]
    cases rest with
    | nil =>
      change (plan.matchAt input position).run trail = _
      split
      · rfl
      · rename_i failed
        exact Prod.ext (Option.not_isSome_iff_eq_none.1 failed) rfl
    | cons other rest =>
      change ((plan.matchAt input position <|> (anyOf (other :: rest)).matchAt input position) :
        Attempt Match).run trail = _
      rw [Attempt.run_orElse, ih (List.cons_ne_nil other rest)]

end Plan

namespace Lexicon

open Plan (Trail Attempt Match)

def Rule.plan (rule : Rule) : Plan :=
  rule.written.pattern.plan

/-- The number behind the last mark of its plan. -/
def Rule.marks (rule : Rule) : Nat :=
  (Plan.ofPattern false rule.written.pattern 0).2

theorem Rule.marksBelow (rule : Rule) : rule.plan.MarksBelow rule.marks :=
  (Plan.ofPattern_counts false rule.written.pattern 0).2

/-- The plans of the rules as parts of the scanner, as their groups are numbered from `next` on and
their marks from `mark` on. -/
def branches (next mark : Nat) : List Rule → List Plan
  | [] => []
  | rule :: rest =>
    .group next (rule.plan.shift next mark) ::
      branches (next + rule.written.groupCount + 1) (mark + rule.marks) rest

section Scanner

theorem mem_grouped {next : Nat} {rules : List Rule} {pattern : Pattern}
    (member : pattern ∈ grouped next rules) : ∃ index body, pattern = .group index body := by
  induction rules generalizing next with
  | nil => exact absurd member List.not_mem_nil
  | cons rule rest ih =>
    rcases List.mem_cons.1 member with rfl | later
    · exact ⟨_, _, rfl⟩
    · exact ih later

theorem ofPattern_group (inside : Bool) (next mark : Nat) (rule : Rule) :
    Plan.ofPattern inside (.group next (rule.written.pattern.shiftGroups next)) mark =
      (.group next (rule.plan.shift next mark), mark + rule.marks) := by
  have shifts := Plan.ofPattern_shifts next mark false rule.written.pattern 0
  rw [Nat.add_zero] at shifts
  rw [Plan.ofPattern, shifts]
  rfl

theorem ofPattern_alternatives (next mark : Nat) (rules : List Rule) :
    (Plan.ofPattern true (Pattern.ofAlternatives (grouped next rules)) mark).1 =
      Plan.anyOf (branches next mark rules) := by
  induction rules generalizing next mark with
  | nil => rfl
  | cons rule rest ih =>
    cases rest with
    | nil => exact congrArg Prod.fst (ofPattern_group true next mark rule)
    | cons other rest =>
      have later := ih (next + rule.written.groupCount + 1) (mark + rule.marks)
      rw [grouped, grouped, Pattern.ofAlternatives, Plan.ofPattern]
      · simp only [↓reduceIte, ofPattern_group]
        rw [grouped] at later
        rw [later]
        rfl
      · intro absent
        cases absent

theorem plan_joined_one (rule : Rule) :
    (joined [rule]).pattern.plan = .group 1 (rule.plan.shift 1 0) :=
  congrArg Prod.fst (ofPattern_group false 1 0 rule)

theorem plan_joined (first second : Rule) (rest : List Rule) :
    (joined (first :: second :: rest)).pattern.plan =
      .once 0 (.anyOf (branches 1 1 (first :: second :: rest))) := by
  have later := ofPattern_alternatives (1 + first.written.groupCount + 1) (1 + first.marks)
    (second :: rest)
  unfold joined Pattern.plan
  dsimp only
  rw [Pattern.choice_groups fun _ member => mem_grouped member, grouped, grouped,
    Pattern.ofAlternatives, Plan.ofPattern]
  · simp only [Bool.false_eq_true, ↓reduceIte, ofPattern_group]
    rw [grouped] at later
    rw [later]
    rfl
  · intro absent
    cases absent

end Scanner

/-- A rule that is searched for, with the decisions that it has taken. -/
structure Runner where
  rule : Rule
  trail : Trail

/-- The match of a rule, the rule, and the number of the group around it. -/
structure Hit where
  number : Nat
  rule : Rule
  found : Match

/-- The match of the scanner that shows the hit. -/
def Hit.shown (hit : Hit) : Match :=
  hit.found.enclosed hit.number

namespace Runner

/-- What a runner comes to at `position`, and the decisions behind that. -/
def outcome (input : Array Char) (position : Nat) (runner : Runner) : Option Match × Trail :=
  (runner.rule.plan.matchAt input position).run runner.trail

/-- The runner when it has failed at `position`. -/
def passed (input : Array Char) (position : Nat) (runner : Runner) : Runner :=
  { runner with trail := (runner.outcome input position).2 }

end Runner

/-- The decisions of `moved` are those of the runners, whose marks begin at `mark`. -/
def Tracks (moved : Trail) : Nat → List Runner → Prop
  | _, [] => True
  | mark, runner :: rest =>
    (∀ position inner, inner < runner.rule.marks →
      ((position, mark + inner) ∈ moved ↔ (position, inner) ∈ runner.trail)) ∧
    Tracks moved (mark + runner.rule.marks) rest

/-- The first runner with a match at `position`; the groups around the rules are numbered from
`next` on. -/
def hitAt? (input : Array Char) (position : Nat) : Nat → List Runner → Option Hit
  | _, [] => none
  | next, runner :: rest =>
    match (runner.outcome input position).1 with
    | some found => some ⟨next, runner.rule, found⟩
    | none => hitAt? input position (next + runner.rule.written.groupCount + 1) rest

section Race

variable {input : Array Char} {position mark : Nat} {runners : List Runner} {moved : Trail}

theorem Tracks.congr {other : Trail} (tracks : Tracks moved mark runners)
    (same : ∀ place inner, mark ≤ inner → ((place, inner) ∈ other ↔ (place, inner) ∈ moved)) :
    Tracks other mark runners := by
  induction runners generalizing mark with
  | nil => trivial
  | cons runner rest ih =>
    refine ⟨?_, ih tracks.2 fun place inner behind => same place inner (by omega)⟩
    intro place inner known
    rw [same place (mark + inner) (by omega)]
    exact tracks.1 place inner known

/-- What it comes to, behind the decisions `moved`, when all runners are tried at `position`: the
first hit, or the decisions of all runners that have passed, with those of lower marks as they
were. -/
structure Round (input : Array Char) (position next mark : Nat) (runners : List Runner)
    (moved : Trail) (run : Option Match × Trail) : Prop where
  shown : run.1 = (hitAt? input position next runners).map Hit.shown
  tracks : hitAt? input position next runners = none →
    Tracks run.2 mark (runners.map (Runner.passed input position))
  kept : hitAt? input position next runners = none → ∀ place inner, inner < mark →
    ((place, inner) ∈ run.2 ↔ (place, inner) ∈ moved)

theorem firstOf_branches (tracks : Tracks moved mark runners) (next : Nat) :
    Round input position next mark runners moved
      ((Attempt.firstOf ((branches next mark (runners.map Runner.rule)).map fun plan =>
        plan.matchAt input position)).run moved) := by
  induction runners generalizing next mark moved with
  | nil => exact ⟨rfl, fun _ => trivial, fun _ _ _ _ => Iff.rfl⟩
  | cons runner rest ih =>
    have holds : Trail.Holds mark runner.rule.marks moved runner.trail moved :=
      ⟨tracks.1, fun _ _ _ => Iff.rfl⟩
    obtain ⟨result, after⟩ : (((Plan.group next (runner.rule.plan.shift next mark)).matchAt input
        position).run moved).1 = (runner.outcome input position).1.map (Match.enclosed next) ∧
      Trail.Holds mark runner.rule.marks moved (runner.outcome input position).2
        (((Plan.group next (runner.rule.plan.shift next mark)).matchAt input
          position).run moved).2 :=
      Plan.matchAt_follows runner.rule.plan runner.rule.marksBelow position runner.trail moved holds
    rw [List.map_cons, branches, List.map_cons, Attempt.run_firstOf_cons]
    generalize ((Plan.group next (runner.rule.plan.shift next mark)).matchAt input position).run
      moved = run at result after ⊢
    cases found : (runner.outcome input position).1 with
    | some hit =>
      have here : hitAt? input position next (runner :: rest) = some ⟨next, runner.rule, hit⟩ := by
        rw [hitAt?, found]
      rw [found, Option.map_some] at result
      rw [if_pos (by rw [result]; rfl)]
      refine ⟨?_, ?_, ?_⟩ <;> rw [here]
      · exact result
      · exact nofun
      · exact nofun
    | none =>
      have here : hitAt? input position next (runner :: rest) =
          hitAt? input position (next + runner.rule.written.groupCount + 1) rest := by
        rw [hitAt?, found]
      rw [found, Option.map_none] at result
      rw [if_neg (by rw [result]; exact Bool.false_ne_true)]
      have others : Tracks run.2 (mark + runner.rule.marks) rest :=
        tracks.2.congr fun place inner behind => after.outside place inner (Or.inr behind)
      have later := ih others (next + runner.rule.written.groupCount + 1)
      refine ⟨?_, ?_, ?_⟩ <;> rw [here]
      · exact later.shown
      · intro failed
        refine ⟨?_, later.tracks failed⟩
        intro place inner known
        rw [later.kept failed place (mark + inner) (Nat.add_lt_add_left known mark)]
        exact after.inside place inner known
      · intro failed place inner before
        rw [later.kept failed place inner (Nat.lt_of_lt_of_le before (Nat.le_add_right ..))]
        exact after.outside place inner (Or.inl before)

/-- The choice between the rules tries all of them. -/
theorem anyOf_branches {runner : Runner} (tracks : Tracks moved mark (runner :: runners))
    (next : Nat) : Round input position next mark (runner :: runners) moved
      (((Plan.anyOf (branches next mark ((runner :: runners).map Runner.rule))).matchAt input
        position).run moved) := by
  rw [Plan.run_matchAt_anyOf]
  · exact firstOf_branches tracks next
  · exact List.cons_ne_nil _ _

/-- The scanner is ready to be tried at `position`: its decisions are those of the runners, and the
one between them has not been taken yet at this place or behind it. -/
inductive Ready (position : Nat) : List Runner → Trail → Prop
  | one {runner : Runner} {moved : Trail} (tracks : Tracks moved 0 [runner]) :
      Ready position [runner] moved
  | many {first second : Runner} {rest : List Runner} {moved : Trail}
      (tracks : Tracks moved 1 (first :: second :: rest))
      (undecided : ∀ place, position ≤ place → (place, 0) ∉ moved) :
      Ready position (first :: second :: rest) moved

theorem Ready.step (ready : Ready position runners moved) :
    ((((joined (runners.map Runner.rule)).pattern.plan.matchAt input position).run moved).1 =
      (hitAt? input position 1 runners).map Hit.shown) ∧
    (hitAt? input position 1 runners = none →
      Ready (position + 1) (runners.map (Runner.passed input position))
        (((joined (runners.map Runner.rule)).pattern.plan.matchAt input position).run
          moved).2) := by
  cases ready with
  | @one runner moved tracks =>
    have round : Round input position 1 0 [runner] moved _ := anyOf_branches tracks 1
    rw [List.map_singleton, plan_joined_one]
    exact ⟨round.shown, fun failed => .one (round.tracks failed)⟩
  | @many first second rest moved tracks undecided =>
    have open_ : moved.contains (position, 0) = false :=
      Bool.eq_false_iff.2 (undecided position (Nat.le_refl position))
    have decided : ∀ place inner, (place, inner) ∈ moved.insert (position, 0) ↔
        (position = place ∧ 0 = inner) ∨ (place, inner) ∈ moved := by
      intro place inner
      rw [Trail.mem_insert, Prod.mk.injEq]
    have still : Tracks (moved.insert (position, 0)) 1 (first :: second :: rest) := by
      refine tracks.congr fun place inner behind => ?_
      rw [decided]
      exact or_iff_right fun same => absurd same.2 (Nat.ne_of_lt behind)
    have round : Round input position 1 1 (first :: second :: rest) _ _ :=
      anyOf_branches still 1
    have run : ((joined ((first :: second :: rest).map Runner.rule)).pattern.plan.matchAt input
        position).run moved = ((Plan.anyOf (branches 1 1 ((first :: second :: rest).map
          Runner.rule))).matchAt input position).run (moved.insert (position, 0)) := by
      rw [List.map_cons, List.map_cons, plan_joined]
      refine (Attempt.run_bind _ _ moved).trans ?_
      rw [Attempt.run_decideAt, open_]
      rfl
    rw [run]
    refine ⟨round.shown, fun failed => .many (round.tracks failed) ?_⟩
    intro place behind
    rw [round.kept failed place 0 Nat.zero_lt_one, decided]
    rintro (same | before)
    · omega
    · exact undecided place (by omega) before

/-- The first hit of the runners at one of the `count` positions from `position` on. -/
def hitAmong? (input : Array Char) : Nat → Nat → List Runner → Option Hit
  | 0, _, _ => none
  | count + 1, position, runners =>
    (hitAt? input position 1 runners).or
      (hitAmong? input count (position + 1) (runners.map (Runner.passed input position)))

theorem Ready.search (ready : Ready position runners moved) (input : Array Char) (count : Nat) :
    (((joined (runners.map Runner.rule)).pattern.plan.matchAmong input count position).run
      moved).1 = (hitAmong? input count position runners).map Hit.shown := by
  induction count generalizing position runners moved with
  | zero => rfl
  | succ count ih =>
    have step := @Ready.step input position runners moved ready
    rw [Plan.matchAmong, Attempt.run_orElse, step.1, hitAmong?]
    cases hit : hitAt? input position 1 runners with
    | some found =>
      rw [hit] at step
      exact step.1
    | none =>
      have rules : (runners.map (Runner.passed input position)).map Runner.rule =
          runners.map Runner.rule := by
        rw [List.map_map]
        rfl
      have later := ih (step.2 hit)
      rw [rules] at later
      exact later

end Race

/-- Of the matches of several rules, the one that begins first; of those that begin at the same
place, the first in the list. -/
def earliest? : List (Rule × Match) → Option (Rule × Match)
  | [] => none
  | entry :: rest =>
    match earliest? rest with
    | none => some entry
    | some other => some (if other.2.start < entry.2.start then other else entry)

/-- The first match of a runner at one of the `count` positions from `position` on. -/
def Runner.search? (input : Array Char) (count position : Nat) (runner : Runner) :
    Option (Rule × Match) :=
  ((runner.rule.plan.matchAmong input count position).run runner.trail).1.map fun found =>
    (runner.rule, found)

section Searches

variable {input : Array Char} {count position next : Nat} {runner : Runner}
  {runners : List Runner}

theorem start_of_outcome {found : Match} (here : (runner.outcome input position).1 = some found) :
    found.start = position :=
  (Plan.matchAt_fits ⟨runner.trail, here⟩).2

theorem le_start_of_search? {entry : Rule × Match}
    (search : runner.search? input count position = some entry) : position ≤ entry.2.start := by
  obtain ⟨found, reached, rfl⟩ := Option.map_eq_some_iff.1 search
  exact (Plan.matchAmong_fits count position ⟨runner.trail, reached⟩).2

theorem search?_of_outcome {found : Match}
    (here : (runner.outcome input position).1 = some found) :
    runner.search? input (count + 1) position = some (runner.rule, found) := by
  unfold Runner.outcome at here
  rw [Runner.search?, Plan.matchAmong, Attempt.run_orElse, if_pos (by rw [here]; rfl), here]
  rfl

theorem search?_of_failure (failed : (runner.outcome input position).1 = none) :
    runner.search? input (count + 1) position =
      (runner.passed input position).search? input count (position + 1) := by
  unfold Runner.outcome at failed
  rw [Runner.search?, Plan.matchAmong, Attempt.run_orElse,
    if_neg (by rw [failed]; exact Bool.false_ne_true)]
  rfl

theorem mem_of_earliest? {entries : List (Rule × Match)} {entry : Rule × Match}
    (first : earliest? entries = some entry) : entry ∈ entries := by
  induction entries generalizing entry with
  | nil => exact nomatch first
  | cons head rest ih =>
    unfold earliest? at first
    cases found : earliest? rest with
    | none =>
      rw [found] at first
      cases first
      exact List.mem_cons_self
    | some other =>
      rw [found] at first
      cases first
      split
      · exact List.mem_cons_of_mem _ (ih found)
      · exact List.mem_cons_self

theorem outcome_of_hitAt?_none (failed : hitAt? input position next runners = none) :
    ∀ runner ∈ runners, (runner.outcome input position).1 = none := by
  induction runners generalizing next with
  | nil => exact fun runner member => absurd member List.not_mem_nil
  | cons head rest ih =>
    unfold hitAt? at failed
    cases found : (head.outcome input position).1 with
    | some hit =>
      rw [found] at failed
      exact nomatch failed
    | none =>
      rw [found] at failed
      intro runner member
      rcases List.mem_cons.1 member with rfl | later
      · exact found
      · exact ih failed runner later

/-- A hit at `position` is the earliest match: the runners in front of it match further on if at
all. -/
theorem earliest?_of_hitAt? {hit : Hit} (here : hitAt? input position next runners = some hit) :
    earliest? (runners.filterMap (Runner.search? input (count + 1) position)) =
      some (hit.rule, hit.found) ∧ hit.found.start = position := by
  induction runners generalizing next with
  | nil => exact nomatch here
  | cons runner rest ih =>
    unfold hitAt? at here
    cases found : (runner.outcome input position).1 with
    | some first =>
      rw [found] at here
      cases here
      have start := start_of_outcome found
      rw [List.filterMap_cons_some (search?_of_outcome found), earliest?]
      refine ⟨?_, start⟩
      cases others : earliest? (rest.filterMap (Runner.search? input (count + 1) position)) with
      | none => rfl
      | some other =>
        obtain ⟨later, -, search⟩ := List.mem_filterMap.1 (mem_of_earliest? others)
        have behind := le_start_of_search? search
        dsimp only
        rw [if_neg (by omega)]
    | none =>
      rw [found] at here
      obtain ⟨first, start⟩ := ih here
      refine ⟨?_, start⟩
      cases search : runner.search? input (count + 1) position with
      | none => rw [List.filterMap_cons_none search, first]
      | some entry =>
        rw [search?_of_failure found] at search
        have behind := le_start_of_search? search
        rw [List.filterMap_cons_some (by rw [search?_of_failure found, search]), earliest?, first]
        dsimp only
        rw [if_pos (by omega)]

/-- The first hit of all is the earliest match of any runner. -/
theorem hitAmong?_eq_earliest? (input : Array Char) (count position : Nat)
    (runners : List Runner) :
    (hitAmong? input count position runners).map (fun hit => (hit.rule, hit.found)) =
      earliest? (runners.filterMap (Runner.search? input count position)) := by
  induction count generalizing position runners with
  | zero =>
    have nothing : runners.filterMap (Runner.search? input 0 position) = [] :=
      List.filterMap_eq_nil_iff.2 fun _ _ => rfl
    rw [nothing]
    rfl
  | succ count ih =>
    rw [hitAmong?]
    cases here : hitAt? input position 1 runners with
    | some hit => exact (earliest?_of_hitAt? here).1.symm
    | none =>
      have searches : runners.filterMap (Runner.search? input (count + 1) position) =
          (runners.map (Runner.passed input position)).filterMap
            (Runner.search? input count (position + 1)) := by
        rw [List.filterMap_map]
        apply List.filterMap_congr
        intro runner member
        exact search?_of_failure (outcome_of_hitAt?_none here runner member)
      rw [searches]
      exact ih (position + 1) _

end Searches

end Lexicon

end CodeFolding
