import CodeFolding.Proofs.Lexicon.Race
import CodeFolding.Proofs.Pattern.Endings

set_option autoImplicit false

namespace CodeFolding

namespace Lexicon

open Plan (Trail Attempt Match)

/-- The first match from `position` on: every rule is searched for alone, and of their matches the
earliest counts. -/
def firstFrom? (rules : List Rule) (input : Array Char) (position : Nat) :
    Option (Rule × Match) :=
  earliest? (rules.filterMap fun rule =>
    (rule.plan.searchFrom? input position).map fun found => (rule, found))

/-- The search goes on behind the match that was found. -/
theorem firstFrom?_forward {rules : List Rule} {input : Array Char} {position : Nat} {rule : Rule}
    {found : Match} (first : firstFrom? rules input position = some (rule, found)) :
    position < found.behind ∧ position ≤ input.size := by
  obtain ⟨other, -, search⟩ := List.mem_filterMap.1 (mem_of_earliest? first)
  obtain ⟨_, reached, same⟩ := Option.map_eq_some_iff.1 search
  cases same
  obtain ⟨fits, behind⟩ := Plan.searchFrom?_fits reached
  have forward : found.start ≤ found.stop := fits.position_le
  have inside : position ≤ input.size := by
    apply Nat.le_of_not_lt
    intro outside
    have none : input.size + 1 - position = 0 := by omega
    rw [Plan.searchFrom?, none] at reached
    exact nomatch reached
  refine ⟨?_, inside⟩
  unfold Plan.Match.behind
  split
  · omega
  · rename_i filled
    have apart : found.start ≠ found.stop := by
      simpa only [Span.isEmpty, beq_iff_eq] using filled
    omega

/-- The tokens from `position` on as the rules give them one by one. A match that is empty gives no
token, and the search goes on one character further. -/
def scanFrom (rules : List Rule) (keywords : List String) (input : Array Char) (position : Nat) :
    List Token :=
  match _first : firstFrom? rules input position with
  | none => []
  | some (rule, found) =>
    let rest := scanFrom rules keywords input found.behind
    if found.isEmpty then rest
    else
      let text := String.ofList (input.extract found.start found.stop).toList
      ⟨found.toSpan, refine keywords text rule.kind⟩ :: rest
termination_by input.size + 1 - position
decreasing_by
  have forward := firstFrom?_forward (by assumption)
  omega

theorem scanFrom_of_none {rules : List Rule} {input : Array Char} {position : Nat}
    (keywords : List String) (none : firstFrom? rules input position = none) :
    scanFrom rules keywords input position = [] := by
  rw [scanFrom]
  split
  · rfl
  · rename_i some
    exact nomatch none.symm.trans some

theorem scanFrom_of_some {rules : List Rule} {input : Array Char} {position : Nat} {rule : Rule}
    {found : Match} (keywords : List String)
    (first : firstFrom? rules input position = some (rule, found)) :
    scanFrom rules keywords input position =
      if found.isEmpty then scanFrom rules keywords input found.behind
      else ⟨found.toSpan, refine keywords
        (String.ofList (input.extract found.start found.stop).toList) rule.kind⟩ ::
          scanFrom rules keywords input found.behind := by
  rw [scanFrom]
  split
  · rename_i none
    exact nomatch first.symm.trans none
  · rename_i other
    cases Option.some.inj (first.symm.trans other)
    rfl

section Search

variable {input : Array Char} {position : Nat} {hit : Hit}

/-- The rules at the beginning of a search. -/
def runnersOf (rules : List Rule) : List Runner :=
  rules.map fun rule => ⟨rule, ∅⟩

theorem rules_runnersOf (rules : List Rule) : (runnersOf rules).map Runner.rule = rules := by
  rw [runnersOf, List.map_map]
  exact List.map_id rules

theorem tracks_empty (mark : Nat) (rules : List Rule) :
    Tracks ∅ mark (runnersOf rules) := by
  induction rules generalizing mark with
  | nil => trivial
  | cons rule rest ih =>
    refine ⟨fun place inner _ => ?_, ih _⟩
    exact iff_of_false Std.TreeSet.not_mem_emptyc Std.TreeSet.not_mem_emptyc

theorem ready_start {rules : List Rule} (some : rules ≠ []) (position : Nat) :
    Ready position (runnersOf rules) ∅ := by
  cases rules with
  | nil => exact absurd rfl some
  | cons first rest =>
    cases rest with
    | nil => exact .one (tracks_empty 0 [first])
    | cons second rest =>
      exact .many (tracks_empty 1 (first :: second :: rest)) fun _ _ =>
        Std.TreeSet.not_mem_emptyc

/-- The first hit of the rules from `position` on. -/
def hitFrom? (rules : List Rule) (input : Array Char) (position : Nat) : Option Hit :=
  hitAmong? input (input.size + 1 - position) position (runnersOf rules)

theorem searchFrom?_joined {rules : List Rule} (some : rules ≠ []) (input : Array Char)
    (position : Nat) : (joined rules).pattern.plan.searchFrom? input position =
      (hitFrom? rules input position).map Hit.shown := by
  have search := (ready_start some position).search input (input.size + 1 - position)
  rw [rules_runnersOf] at search
  exact search

theorem firstFrom?_eq (rules : List Rule) (input : Array Char) (position : Nat) :
    firstFrom? rules input position =
      (hitFrom? rules input position).map fun hit => (hit.rule, hit.found) := by
  rw [hitFrom?, hitAmong?_eq_earliest?, runnersOf, List.filterMap_map]
  rfl

/-- The groups around the rules, with the kinds of the rules. -/
def numbered (next : Nat) : List Rule → List (Nat × Token.Kind)
  | [] => []
  | rule :: rest => (next, rule.kind) :: numbered (next + rule.written.groupCount + 1) rest

/-- No group that a hit shows has a lower number than the one around its rule. -/
theorem Hit.group?_shown_of_lt {number : Nat} (before : number < hit.number) :
    hit.shown.group? number = none := by
  refine List.lookup_eq_none_iff.2 ?_
  intro entry member
  rcases List.mem_cons.1 member with rfl | inner
  · exact bne_iff_ne.2 (Nat.ne_of_lt before)
  · obtain ⟨⟨index, span⟩, -, rfl⟩ := List.mem_map.1 inner
    exact bne_iff_ne.2 (Nat.ne_of_lt (Nat.lt_of_lt_of_le before (Nat.le_add_right ..)))

theorem Hit.group?_shown_self (hit : Hit) : (hit.shown.group? hit.number).isSome = true := by
  rw [Match.group?, shown, Match.enclosed, List.lookup_cons_self]
  rfl

/-- The first group that a hit shows is the one around its rule. -/
theorem find?_numbered {next : Nat} {runners : List Runner}
    (here : hitAt? input position next runners = some hit) :
    next ≤ hit.number ∧
      (numbered next (runners.map Runner.rule)).find?
          (fun entry => (hit.shown.group? entry.1).isSome) = some (hit.number, hit.rule.kind) := by
  induction runners generalizing next with
  | nil => exact nomatch here
  | cons runner rest ih =>
    unfold hitAt? at here
    rw [List.map_cons, numbered]
    cases found : (runner.outcome input position).1 with
    | some first =>
      rw [found] at here
      cases here
      exact ⟨Nat.le_refl next, List.find?_cons_of_pos (Hit.group?_shown_self ⟨next, _, first⟩)⟩
    | none =>
      rw [found] at here
      obtain ⟨behind, later⟩ := ih here
      have before : next < hit.number := by omega
      refine ⟨Nat.le_of_lt before, ?_⟩
      rw [List.find?_cons_of_neg, later]
      rw [Hit.group?_shown_of_lt before]
      exact Bool.false_ne_true

theorem find?_of_hitAmong? {count : Nat} {runners : List Runner}
    (first : hitAmong? input count position runners = some hit) :
    (numbered 1 (runners.map Runner.rule)).find?
      (fun entry => (hit.shown.group? entry.1).isSome) = some (hit.number, hit.rule.kind) := by
  induction count generalizing position runners with
  | zero => exact nomatch first
  | succ count ih =>
    unfold hitAmong? at first
    cases here : hitAt? input position 1 runners with
    | some found =>
      rw [here] at first
      cases first
      exact (find?_numbered here).2
    | none =>
      rw [here] at first
      have later := ih first
      rw [List.map_map] at later
      exact later

end Search

section Names

theorem lookup_of_mem {names : List (String × Nat)} (unique : (names.map Prod.fst).Nodup)
    {name : String} {number : Nat} (member : (name, number) ∈ names) :
    names.lookup name = some number := by
  induction names with
  | nil => exact absurd member List.not_mem_nil
  | cons entry rest ih =>
    rw [List.map_cons, List.nodup_cons] at unique
    rcases List.mem_cons.1 member with rfl | later
    · exact List.lookup_cons_self
    · have apart : name ≠ entry.1 := by
        rintro rfl
        exact unique.1 (List.mem_map.2 ⟨_, later, rfl⟩)
      rw [List.lookup_cons, beq_false_of_ne apart]
      exact ih unique.2 later

/-- The groups around the rules are found by their names. -/
theorem groups_joined {names : List (String × Nat)} (unique : (names.map Prod.fst).Nodup)
    {index next : Nat} {rules : List Rule}
    (known : ∀ entry ∈ groupNames index next rules, entry ∈ names) :
    ((rules.zipIdx index).filterMap fun (rule, index) =>
      (names.lookup (groupName index)).map fun number => (number, rule.kind)) =
        numbered next rules := by
  induction rules generalizing index next with
  | nil => rfl
  | cons rule rest ih =>
    have found := lookup_of_mem unique (known (groupName index, next) List.mem_cons_self)
    rw [List.zipIdx_cons, numbered, List.filterMap_cons]
    dsimp only
    rw [found, Option.map_some]
    dsimp only
    rw [ih]
    intro entry member
    exact known entry (List.mem_cons_of_mem _ (List.mem_append_right _ member))

end Names

section Tokens

variable {rules : List Rule} {keywords : List String} {input : Array Char} {position : Nat}

/-- The lexicon of rules none of which ends in a comment. -/
theorem ofRules?_eq {lexicon : Lexicon} (whole : ∀ rule ∈ rules, rule.written.endsInComment = false)
    (joins : ofRules? rules = some lexicon) :
    lexicon = ⟨(joined rules).pattern.plan, numbered 1 rules⟩ := by
  obtain ⟨written, found, rfl⟩ := Option.map_eq_some_iff.1 joins
  unfold joined? at found
  rw [if_neg] at found
  · dsimp only at found
    split at found
    · rename_i unique
      cases found
      rw [groups_joined unique.1 fun entry member => member]
    · exact nomatch found
  · rw [List.any_eq_true]
    rintro ⟨rule, member, ends⟩
    exact nomatch (whole rule member).symm.trans ends

theorem token?_shown {hit : Hit} (keywords : List String)
    (first : hitFrom? rules input position = some hit) :
    token? ⟨(joined rules).pattern.plan, numbered 1 rules⟩ keywords input hit.shown =
      if hit.found.isEmpty then none
      else some ⟨hit.found.toSpan, refine keywords
        (String.ofList (input.extract hit.found.start hit.found.stop).toList) hit.rule.kind⟩ := by
  have kind := find?_of_hitAmong? first
  rw [rules_runnersOf] at kind
  have known : kindOf? ⟨(joined rules).pattern.plan, numbered 1 rules⟩ hit.shown =
      some hit.rule.kind := by
    rw [kindOf?, kind]
    rfl
  rw [token?, known]
  rfl

theorem filterMap_matchesFrom (some : rules ≠ []) (position : Nat) (touching : Bool) :
    ((joined rules).pattern.plan.matchesFrom input position touching).filterMap
        (token? ⟨(joined rules).pattern.plan, numbered 1 rules⟩ keywords input) =
      scanFrom rules keywords input position := by
  induction left : input.size + 1 - position using Nat.strongRecOn
    generalizing position touching with
  | ind left ih =>
    have first := firstFrom?_eq rules input position
    rw [Plan.matchesFrom, searchFrom?_joined some]
    cases hit? : hitFrom? rules input position with
    | none =>
      rw [hit?] at first
      rw [scanFrom_of_none keywords first]
      rfl
    | some hit =>
      rw [hit?] at first
      have forward := firstFrom?_forward first
      have rest := ih (input.size + 1 - hit.found.behind) (by omega) hit.found.behind
        (!hit.found.isEmpty) rfl
      have token := token?_shown keywords hit?
      rw [scanFrom_of_some keywords first]
      dsimp only [Option.map_some]
      change List.filterMap _ (if touching && hit.found.isEmpty && hit.found.start == position
        then if position < hit.found.behind ∧ position ≤ input.size then
          Plan.matchesFrom _ input hit.found.behind (!hit.found.isEmpty) else []
        else hit.shown :: if position < hit.found.behind ∧ position ≤ input.size then
          Plan.matchesFrom _ input hit.found.behind (!hit.found.isEmpty) else []) = _
      rw [if_pos forward]
      cases empty : hit.found.isEmpty with
      | true =>
        rw [empty] at token rest
        rw [if_pos rfl]
        split
        · exact rest
        · rw [List.filterMap_cons_none token]
          exact rest
      | false =>
        rw [empty] at token rest
        rw [Bool.and_false, Bool.false_and, if_neg Bool.false_ne_true, if_neg Bool.false_ne_true,
          List.filterMap_cons_some token]
        exact congrArg _ rest

theorem classify_joined_nil (groups : List (Nat × Token.Kind)) (keywords : List String)
    (input : Array Char) : classify ⟨(joined []).pattern.plan, groups⟩ keywords input = [] := by
  apply List.filterMap_eq_nil_iff.2
  intro found member
  have fits := Plan.allMatches_fits member
  have empty : found.isEmpty = true := by
    obtain ⟨⟨start, stop⟩, groups⟩ := found
    cases fits
    exact beq_self_eq_true start
  rw [token?, if_pos empty]

/-- The first matching rule wins: if no rule ends in a comment, the tokens of a lexicon are those
that the rules give one by one. -/
theorem classify_eq_scanFrom {lexicon : Lexicon}
    (whole : ∀ rule ∈ rules, rule.written.endsInComment = false)
    (joins : ofRules? rules = some lexicon) (keywords : List String) (input : Array Char) :
    lexicon.classify keywords input = scanFrom rules keywords input 0 := by
  rw [ofRules?_eq whole joins]
  by_cases none : rules = []
  · subst none
    rw [classify_joined_nil, scanFrom_of_none keywords rfl]
  · exact filterMap_matchesFrom none 0 false

end Tokens

end Lexicon

end CodeFolding
