import CodeFolding.Proofs.Pattern.Reader.Inside

set_option autoImplicit false

namespace CodeFolding

namespace Pattern

namespace Reader

theorem escaped_shiftGroups (flags : Flags) (escape : Escape) (offset : Nat) :
    (escaped flags escape).shiftGroups offset = escaped flags escape := by
  cases escape with
  | char c => exact ofSet_shiftGroups _
  | oneOf set => exact ofSet_shiftGroups _
  | boundary condition => rfl

section Openings

/-- What stands behind the opening bracket of a group: a condition on the text around it, which is
refused, a name, flags, or nothing of its own. -/
inductive Opening where
  | condition
  | named (rest : List Char)
  | setting (rest : List Char)
  | plain (rest : List Char)

/-- What begins with the given text, up to what has still to be read. -/
def opening : List Char → Opening
  | '?' :: '=' :: _ => .condition
  | '?' :: '!' :: _ => .condition
  | '?' :: '<' :: '=' :: _ => .condition
  | '?' :: '<' :: '!' :: _ => .condition
  | '?' :: 'P' :: '<' :: rest => .named rest
  | '?' :: '<' :: rest => .named rest
  | '?' :: rest => .setting rest
  | rest => .plain rest

/-- The same with `more` behind it. -/
def Opening.behind (more : List Char) : Opening → Opening
  | condition => condition
  | named rest => named (rest ++ more)
  | setting rest => setting (rest ++ more)
  | plain rest => plain (rest ++ more)

/-- Two characters are looked at, and a closing bracket is none of those that count. -/
theorem opening_append (text tail : List Char) :
    opening (text ++ ')' :: tail) = (opening text).behind (')' :: tail) := by
  fun_cases opening text with
  | case1 => rfl
  | case2 => rfl
  | case3 => rfl
  | case4 => rfl
  | case5 => rfl
  | case6 rest noEqual noBang =>
    cases rest with
    | nil => rfl
    | cons d rest => simp_all [opening, Opening.behind]
  | case7 rest =>
    match rest with
    | [] => rfl
    | [d] => simp_all [opening, Opening.behind]
    | d :: e :: rest => simp_all [opening, Opening.behind]
  | case8 text =>
    cases text with
    | nil => rfl
    | cons c text => simp_all [opening, Opening.behind]

/-- Flags behind the question mark, for a group or for what follows. -/
def settingGroup? (state : State) (text : List Char) : Option (State × List Char) := do
  let (flags, seen, rest) ← settings? state.flags [] true text
  match rest with
  | ':' :: rest => return (state.openGroup none flags, rest)
  | _ :: rest =>
    if seen.isEmpty then none
    else return ({ state with
      flags := flags
      level := { state.level with items := .setting :: state.level.items } }, rest)
  | [] => none

theorem group?_eq (state : State) (text : List Char) :
    group? state text = match opening (state.flags.skip text) with
      | .condition => none
      | .named rest => namedGroup? state rest
      | .setting rest => settingGroup? state rest
      | .plain rest => some (state.openCapture, rest) := by
  unfold group?
  split
  · rename_i found
    rw [found]
    rfl
  · rename_i found
    rw [found]
    rfl
  · rename_i found
    rw [found]
    rfl
  · rename_i found
    rw [found]
    rfl
  · rename_i found
    rw [found]
    rfl
  · rename_i rest noEqual noBang found
    rw [found, opening.eq_6 rest noEqual noBang]
  · rename_i rest noEqual noBang noAhead noBehind noPattern noName found
    rw [found, opening.eq_7 rest noEqual noBang noAhead noBehind noPattern noName]
    rfl
  · rename_i noEqual noBang noAhead noBehind noPattern noName noMark
    rw [opening.eq_8 _ noEqual noBang noAhead noBehind noPattern noName noMark]

end Openings

section Steps

variable {place : Place} {state after : State} {text rest more tail : List Char}

theorem takeWhile_append_of_cons {condition : Char → Bool} {c : Char}
    (found : text.dropWhile condition = c :: rest) :
    (text ++ more).takeWhile condition = text.takeWhile condition := by
  have whole : text.takeWhile condition ++ text.dropWhile condition = text :=
    List.takeWhile_append_dropWhile
  rw [List.takeWhile_append, if_neg]
  intro same
  have lengths := congrArg List.length whole
  rw [List.length_append, found, List.length_cons] at lengths
  omega

theorem namedGroup?_inside (clear : place.Clear state.names)
    (read : namedGroup? state text = some (after, rest)) :
    namedGroup? (state.inside place) (text ++ more) =
      if place.Clear after.names then some (after.inside place, rest ++ more) else none := by
  unfold namedGroup? at read ⊢
  dsimp only at read ⊢
  cases found : text.dropWhile (· != '>') with
  | nil =>
    rw [found] at read
    exact nomatch read
  | cons c behind =>
    rw [found] at read
    rw [dropWhile_append_of_cons found, takeWhile_append_of_cons found]
    dsimp only at read ⊢
    split at read
    · rename_i valid
      cases read
      obtain ⟨isName, free⟩ := Bool.and_eq_true_iff.1 valid
      rw [State.inside_openNamed]
      refine if_congr ?_ rfl rfl
      rw [isName, Bool.true_and]
      change ((place.names ++ place.renumber state.names).lookup _).isNone = true ↔
        place.Clear (state.names ++ [(_, _)])
      rw [Place.isNone_lookup_append, free, Bool.and_true, Option.isNone_iff_eq_none,
        Place.clear_append_singleton]
      exact (and_iff_right clear).symm
    · exact nomatch read

theorem settingGroup?_inside (read : settingGroup? state text = some (after, rest)) :
    after.names = state.names ∧
      settingGroup? (state.inside place) (text ++ more) =
        some (after.inside place, rest ++ more) := by
  obtain ⟨⟨flags, seen, behind⟩, set, ends⟩ := Option.bind_eq_some_iff.1 read
  dsimp only at ends
  split at ends
  · cases ends
    exact ⟨rfl, Option.bind_eq_some_iff.2 ⟨_, settings?_append set, rfl⟩⟩
  · rename_i c behind other
    split at ends
    · exact nomatch ends
    · rename_i shown
      cases ends
      refine ⟨rfl, Option.bind_eq_some_iff.2 ⟨_, settings?_append set, ?_⟩⟩
      dsimp only
      split
      · rename_i same
        cases same
        exact (other rfl).elim
      · rename_i same
        cases same
        rw [if_neg shown]
        exact congrArg (fun state => some (state, rest ++ more))
          (State.inside_setting place state flags).symm
      · rename_i same
        exact nomatch same
  · exact nomatch ends

/-- What is read of a pattern alone is read in the place too, unless a name is taken. -/
def Carries (place : Place) (more : List Char) (own placed : Option (State × List Char)) : Prop :=
  ∀ after rest, own = some (after, rest) → after.Finishes rest →
    placed = if place.Clear after.names then some (after.inside place, rest ++ more) else none

theorem Carries.none {placed : Option (State × List Char)} : Carries place more none placed :=
  fun _ _ read => nomatch read

/-- Steps that give no names. -/
theorem Carries.some {placed : Option (State × List Char)} (clear : place.Clear after.names)
    (read : placed = some (after.inside place, rest ++ more)) :
    Carries place more (some (after, rest)) placed := by
  intro _ _ same _
  cases same
  rw [if_pos clear]
  exact read

theorem Carries.bind {α : Type} {own longer : Option (α × List Char)}
    {next later : α × List Char → Option (State × List Char)} (first : Extends more own longer)
    (second : ∀ value rest, Carries place more (next (value, rest)) (later (value, rest ++ more))) :
    Carries place more (own >>= next) (longer >>= later) := by
  intro after rest read finishes
  obtain ⟨⟨value, between⟩, begun, read⟩ := Option.bind_eq_some_iff.1 read
  rw [first _ _ begun]
  exact second _ _ _ _ read finishes

theorem Carries.bind_value {α : Type} {value? : Option α}
    {next later : α → Option (State × List Char)}
    (second : ∀ value, Carries place more (next value) (later value)) :
    Carries place more (value? >>= next) (value? >>= later) := by
  cases value? with
  | none => exact .none
  | some value => exact second value

theorem group?_carries (clear : place.Clear state.names) :
    Carries place (')' :: tail) (group? state text)
      (group? (state.inside place) (text ++ ')' :: tail)) := by
  intro after rest read finishes
  rw [group?_eq] at read ⊢
  have full : state.flags.skip text ≠ [] := by
    intro none
    rw [none] at read
    cases read
    have none := (finishes (Flags.skip_nil _)).2
    exact nomatch none
  rw [State.flags_inside, Flags.skip_append_of_ne_nil full, opening_append]
  cases kind : opening (state.flags.skip text) with
  | condition =>
    rw [kind] at read
    exact nomatch read
  | named name =>
    rw [kind] at read
    exact namedGroup?_inside clear read
  | setting letters =>
    rw [kind] at read
    obtain ⟨same, set⟩ := settingGroup?_inside read
    rw [same, if_pos clear]
    exact set
  | plain behind =>
    rw [kind] at read
    cases read
    exact (if_pos clear).symm

theorem closeGroup?_carries (clear : place.Clear state.names) :
    Carries place more (do return (← state.closeGroup?, rest))
      (do return (← (state.inside place).closeGroup?, rest ++ more)) := by
  cases closes : state.closeGroup? with
  | none => exact .none
  | some after =>
    rw [State.closeGroup?_inside closes]
    refine .some ?_ rfl
    rw [State.names_closeGroup? closes]
    exact clear

theorem repeat?_carries (clear : place.Clear state.names) {least : Nat} {most : Option Nat}
    {greedy : Bool} :
    Carries place more (do return (← state.repeat? least most greedy, rest))
      (do return (← (state.inside place).repeat? least most greedy, rest ++ more)) := by
  cases repeats : state.repeat? least most greedy with
  | none => exact .none
  | some after =>
    rw [State.repeat?_inside repeats]
    refine .some ?_ rfl
    rw [(State.kept_repeat? repeats).2]
    exact clear

/-- The sign behind a counted repetition is looked for at the end of the text too. -/
theorem counted_carries (clear : place.Clear state.names) {least : Nat} {most : Option Nat} :
    Carries place (')' :: tail)
      (do return (← state.repeat? least most (countedGreediness state.flags text).1,
        (countedGreediness state.flags text).2))
      (do return (← (state.inside place).repeat? least most
        (countedGreediness state.flags (text ++ ')' :: tail)).1,
          (countedGreediness state.flags (text ++ ')' :: tail)).2)) := by
  intro after rest read finishes
  obtain ⟨repeated, repeats, same⟩ := Option.bind_eq_some_iff.1 read
  cases same
  have isSealed := finishes.isSealed
  rw [(State.kept_repeat? repeats).1] at isSealed
  rw [countedGreediness_append isSealed]
  exact repeat?_carries clear _ _ read finishes

theorem push_carries (clear : place.Clear state.names) {pattern : Pattern} (depth : Nat)
    (same : pattern.shiftGroups place.number = pattern) :
    Carries place more (some ({ state with level := state.level.push ⟨pattern, depth⟩ }, rest))
      (some ({ state.inside place with
        level := (state.inside place).level.push ⟨pattern, depth⟩ }, rest ++ more)) := by
  refine .some clear ?_
  rw [State.inside_push same state depth]

theorem step?_carries {fuel further : Nat} (within : fuel ≤ further)
    (clear : place.Clear state.names) (c : Char) :
    Carries place (')' :: tail) (step? fuel state c text)
      (step? further (state.inside place) c (text ++ ')' :: tail)) := by
  unfold step?
  split
  · exact group?_carries clear
  · exact closeGroup?_carries clear
  · refine .some clear ?_
    rw [State.inside_nextBranch]
  · exact .bind (bracketed?_extends within) fun nested rest =>
      push_carries clear nested.depth (ofSet_shiftGroups _)
  · rw [greediness_append]
    exact repeat?_carries clear
  · rw [greediness_append]
    exact repeat?_carries clear
  · rw [greediness_append]
    exact repeat?_carries clear
  · intro after rest read finishes
    obtain ⟨⟨least, most, behind⟩, counted, read⟩ := Option.bind_eq_some_iff.1 read
    rw [State.flags_inside, bounds?_append counted]
    exact counted_carries clear _ _ read finishes
  · exact .bind escape?_extends fun escape rest => push_carries clear 0 (escaped_shiftGroups ..)
  · exact .bind_value fun set => push_carries clear 0 (ofSet_shiftGroups _)
  · exact push_carries clear 0 rfl
  · exact push_carries clear 0 rfl
  · exact push_carries clear 0 (escaped_shiftGroups ..)

end Steps

section Names

variable {state after : State} {text rest : List Char}

/-- A step gives at most one name, and none that is taken. -/
def Grows (state : State) (read : Option (State × List Char)) : Prop :=
  ∀ after rest, read = some (after, rest) → after.names = state.names ∨
    ∃ name number, state.names.lookup name = none ∧ after.names = state.names ++ [(name, number)]

theorem Grows.none : Grows state none :=
  fun _ _ read => nomatch read

theorem Grows.kept (same : after.names = state.names) : Grows state (some (after, rest)) := by
  intro _ _ read
  cases read
  exact .inl same

theorem Grows.bind {α : Type} {value? : Option α} {next : α → Option (State × List Char)}
    (second : ∀ value, value? = some value → Grows state (next value)) :
    Grows state (value? >>= next) := by
  cases value? with
  | none => exact .none
  | some value => exact second value rfl

theorem namedGroup?_grows : Grows state (namedGroup? state text) := by
  unfold namedGroup?
  dsimp only
  split
  · exact .none
  · split
    · rename_i valid
      intro _ _ read
      cases read
      exact .inr ⟨_, _, Option.isNone_iff_eq_none.1 (Bool.and_eq_true_iff.1 valid).2, rfl⟩
    · exact .none

theorem settingGroup?_grows : Grows state (settingGroup? state text) := by
  refine .bind fun _ _ => ?_
  dsimp only
  split
  · exact .kept rfl
  · split
    · exact .none
    · exact .kept rfl
  · exact .none

theorem group?_grows : Grows state (group? state text) := by
  rw [group?_eq]
  split
  · exact .none
  · exact namedGroup?_grows
  · exact settingGroup?_grows
  · exact .kept rfl

theorem repeat?_grows {least : Nat} {most : Option Nat} {greedy : Bool} :
    Grows state (do return (← state.repeat? least most greedy, rest)) :=
  .bind fun _ repeats => .kept (State.kept_repeat? repeats).2

theorem step?_grows {fuel : Nat} {c : Char} : Grows state (step? fuel state c text) := by
  unfold step?
  split
  · exact group?_grows
  · exact .bind fun _ closes => .kept (State.names_closeGroup? closes)
  · exact .kept rfl
  · exact .bind fun _ _ => .kept rfl
  · exact repeat?_grows
  · exact repeat?_grows
  · exact repeat?_grows
  · exact .bind fun _ _ => repeat?_grows
  · exact .bind fun _ _ => .kept rfl
  · exact .bind fun _ _ => .kept rfl
  · exact .kept rfl
  · exact .kept rfl
  · exact .kept rfl

theorem read?_of_nil {fuel : Nat} (all : state.flags.skip text = []) :
    read? (fuel + 1) state text = some (state, endsInComment false text) := by
  rw [read?, all]

theorem read?_of_cons {fuel : Nat} {c : Char} {rest : List Char}
    (found : state.flags.skip text = c :: rest) :
    read? (fuel + 1) state text =
      (step? fuel state c rest).bind fun (after, behind) => read? fuel after behind := by
  rw [read?, found]
  rfl

/-- Names are given once if those in front are, those behind are, and none of them is taken. -/
theorem nodup_names_append {front behind : List (String × Nat)} :
    ((front ++ behind).map Prod.fst).Nodup ↔ (front.map Prod.fst).Nodup ∧
      (behind.map Prod.fst).Nodup ∧ ∀ entry ∈ behind, front.lookup entry.1 = none := by
  rw [List.map_append, List.nodup_append]
  refine and_congr_right fun _ => and_congr_right fun _ => ?_
  constructor
  · intro apart entry member
    refine List.lookup_eq_none_iff.2 fun other known => bne_iff_ne.2 fun same => ?_
    exact apart other.1 (List.mem_map_of_mem known) entry.1 (List.mem_map_of_mem member) same.symm
  · intro free _ known _ member same
    obtain ⟨before, given, rfl⟩ := List.mem_map.1 known
    obtain ⟨entry, added, rfl⟩ := List.mem_map.1 member
    exact bne_iff_ne.1 (List.lookup_eq_none_iff.1 (free entry added) before given) same.symm

/-- Reading goes on with the names that were given, and gives each name once. -/
theorem read?_names {fuel : Nat} {final : State} {inComment : Bool}
    (read : read? fuel state text = some (final, inComment)) :
    (∀ entry ∈ state.names, entry ∈ final.names) ∧
      ((state.names.map Prod.fst).Nodup → (final.names.map Prod.fst).Nodup) := by
  induction fuel generalizing state text with
  | zero => exact nomatch read
  | succ fuel ih =>
    cases found : state.flags.skip text with
    | nil =>
      rw [read?_of_nil found] at read
      cases read
      exact ⟨fun entry member => member, fun unique => unique⟩
    | cons c rest =>
      rw [read?_of_cons found] at read
      obtain ⟨⟨after, behind⟩, step, read⟩ := Option.bind_eq_some_iff.1 read
      obtain ⟨kept, once⟩ := ih read
      rcases step?_grows _ _ step with same | ⟨name, number, free, grown⟩
      · rw [same] at kept once
        exact ⟨kept, once⟩
      · rw [grown] at kept once
        refine ⟨fun entry member => kept entry (List.mem_append_left _ member), ?_⟩
        intro unique
        apply once
        refine nodup_names_append.2 ⟨unique, List.pairwise_singleton _ name, ?_⟩
        intro entry single
        cases List.mem_singleton.1 single
        exact free

end Names

section Reading

variable {place : Place} {state final : State} {text tail : List Char}

/-- The state behind the closing bracket of the group that a pattern was read as. -/
def State.leave (place : Place) (final : State) : State where
  flags := {}
  level := place.around.push
    ⟨group place.number (final.level.body.pattern.shiftGroups place.number),
      final.level.body.depth + 1⟩
  outer := []
  groupCount := place.number + final.groupCount
  names := place.names ++ place.renumber final.names

theorem closeGroup?_leave (closed : final.outer = []) :
    (final.inside place).closeGroup? = some (final.leave place) := by
  obtain ⟨flags, level, outer, groupCount, names⟩ := final
  cases closed
  have piece := level.close_enclose place.number
  exact congrArg (fun piece => some { State.leave place ⟨flags, level, [], groupCount, names⟩ with
    level := place.around.push piece }) piece

/-- What is left to read when a pattern has been read to its end. -/
theorem finishes_of_read? {fuel : Nat} (read : read? fuel state text = some (final, false))
    (closed : final.outer = []) : state.Finishes text := by
  intro all
  cases fuel with
  | zero => exact nomatch read
  | succ fuel =>
    rw [read?_of_nil all] at read
    obtain ⟨same, complete⟩ := Prod.mk.inj (Option.some.inj read)
    exact ⟨complete, same ▸ closed⟩

/-- A pattern is read as a group like it is read alone, and reading goes on behind the group. -/
theorem read?_inside {fuel further : Nat} (within : fuel ≤ further)
    (clear : place.Clear state.names) (read : read? fuel state text = some (final, false))
    (closed : final.outer = []) :
    ∃ left, further ≤ left + fuel ∧
      read? further (state.inside place) (text ++ ')' :: tail) =
        if place.Clear final.names then read? left (final.leave place) tail else none := by
  -- The pattern alone never runs out of fuel, so its fuel bounds what the group takes of `further`.
  induction fuel generalizing further state text with
  | zero => exact nomatch read
  | succ fuel ih =>
    obtain ⟨further, rfl⟩ := Nat.exists_eq_succ_of_ne_zero (Nat.ne_zero_of_lt within)
    have fewer := Nat.le_of_succ_le_succ within
    cases found : state.flags.skip text with
    | nil =>
      -- The pattern ends here alone. In its place the bracket is next, and closes the group.
      have isSealed := (finishes_of_read? read closed).isSealed
      rw [read?_of_nil found] at read
      obtain ⟨rfl, -⟩ := Prod.mk.inj (Option.some.inj read)
      have step : step? further (state.inside place) ')' tail = some (state.leave place, tail) := by
        rw [step?, closeGroup?_leave closed]
        rfl
      have bracket : (state.inside place).flags.skip (text ++ ')' :: tail) = ')' :: tail := by
        rw [State.flags_inside, Flags.skip_append isSealed, found, List.nil_append]
      refine ⟨further, by omega, ?_⟩
      rw [read?_of_cons bracket, step, if_pos clear]
      rfl
    | cons c rest =>
      rw [read?_of_cons found] at read
      obtain ⟨⟨after, behind⟩, step, read⟩ := Option.bind_eq_some_iff.1 read
      have carried : step? further (state.inside place) c (rest ++ ')' :: tail) = _ :=
        step?_carries fewer clear c _ _ step (finishes_of_read? read closed)
      have next : (state.inside place).flags.skip (text ++ ')' :: tail) =
          c :: (rest ++ ')' :: tail) :=
        Flags.skip_append_of_cons found
      by_cases free : place.Clear after.names
      · obtain ⟨left, enough, whole⟩ := ih fewer free read
        refine ⟨left, by omega, ?_⟩
        rw [read?_of_cons next, carried, if_pos free]
        exact whole
      · -- Names stay, so one that is taken now is taken at the end.
        have taken : ¬place.Clear final.names :=
          fun all => free fun entry member => all entry ((read?_names read).1 entry member)
        refine ⟨further, by omega, ?_⟩
        rw [read?_of_cons next, carried, if_neg free, if_neg taken]
        rfl

end Reading

end Reader

end Pattern

end CodeFolding
