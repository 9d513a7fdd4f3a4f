import CodeFolding.Pattern.Compose
import CodeFolding.Proofs.Pattern.Shift

set_option autoImplicit false

namespace CodeFolding

namespace Pattern

variable {offset : Nat}

theorem shiftGroups_injective {left right : Pattern}
    (same : left.shiftGroups offset = right.shiftGroups offset) : left = right := by
  induction left generalizing right with
  | group index body ih =>
    cases right <;> simp only [shiftGroups, group.injEq, reduceCtorEq] at same
    rw [Nat.add_left_cancel same.1, ih same.2]
  | seq first second ihFirst ihSecond =>
    cases right <;> simp only [shiftGroups, seq.injEq, reduceCtorEq] at same
    rw [ihFirst same.1, ihSecond same.2]
  | alt first second ihFirst ihSecond =>
    cases right <;> simp only [shiftGroups, alt.injEq, reduceCtorEq] at same
    rw [ihFirst same.1, ihSecond same.2]
  | loop body least most greedy ih =>
    cases right <;> simp only [shiftGroups, loop.injEq, reduceCtorEq] at same
    rw [ih same.1, same.2.1, same.2.2.1, same.2.2.2]
  | _ => cases right <;> first | exact same | cases same

theorem takesNothing_shiftGroups (pattern : Pattern) :
    (pattern.shiftGroups offset).takesNothing = pattern.takesNothing := by
  induction pattern with
  | group index body ih => exact ih
  | seq first second ihFirst ihSecond =>
    simp only [shiftGroups, takesNothing, ihFirst, ihSecond]
  | alt first second ihFirst ihSecond =>
    simp only [shiftGroups, takesNothing, ihFirst, ihSecond]
  | loop body least most greedy ih => simp only [shiftGroups, takesNothing, ih]
  | _ => rfl

theorem elements_shiftGroups (pattern : Pattern) :
    (pattern.shiftGroups offset).elements = pattern.elements.map (shiftGroups offset) := by
  induction pattern with
  | seq first second _ ih => simp only [shiftGroups, elements, ih, List.map_cons]
  | _ => rfl

theorem alternatives_shiftGroups (pattern : Pattern) :
    (pattern.shiftGroups offset).alternatives = pattern.alternatives.map (shiftGroups offset) := by
  induction pattern with
  | alt first second _ ih => simp only [shiftGroups, alternatives, ih, List.map_cons]
  | _ => rfl

theorem joinTexts_shiftGroups (patterns : List Pattern) :
    joinTexts (patterns.map (shiftGroups offset)) =
      (joinTexts patterns).map (shiftGroups offset) := by
  induction patterns with
  | nil => rfl
  | cons pattern rest ih =>
    unfold joinTexts
    rw [List.map_cons]
    dsimp only
    rw [ih]
    cases pattern with
    | text front =>
      cases joinTexts rest with
      | nil => rfl
      | cons next later => cases next <;> rfl
    | _ => rfl

theorem ofElements_shiftGroups (patterns : List Pattern) :
    ofElements (patterns.map (shiftGroups offset)) =
      (ofElements patterns).shiftGroups offset := by
  induction patterns with
  | nil => rfl
  | cons pattern rest ih =>
    cases rest with
    | nil => rfl
    | cons next later => exact congrArg _ ih

theorem ofAlternatives_shiftGroups (patterns : List Pattern) :
    ofAlternatives (patterns.map (shiftGroups offset)) =
      (ofAlternatives patterns).shiftGroups offset := by
  induction patterns with
  | nil => rfl
  | cons pattern rest ih =>
    cases rest with
    | nil => rfl
    | cons next later => exact congrArg _ ih

theorem flatMap_shiftGroups {parts : Pattern → List Pattern}
    (moves : ∀ pattern, parts (shiftGroups offset pattern) =
      (parts pattern).map (shiftGroups offset)) (patterns : List Pattern) :
    (patterns.map (shiftGroups offset)).flatMap parts =
      (patterns.flatMap parts).map (shiftGroups offset) := by
  rw [List.flatMap_map, List.map_flatMap]
  exact congrArg (List.flatMap · patterns) (funext moves)

theorem sequence_shiftGroups (patterns : List Pattern) :
    sequence (patterns.map (shiftGroups offset)) = (sequence patterns).shiftGroups offset := by
  rw [sequence, flatMap_shiftGroups elements_shiftGroups, joinTexts_shiftGroups,
    ofElements_shiftGroups, sequence]

theorem ofSet_shiftGroups (set : Charset) : (ofSet set).shiftGroups offset = ofSet set := by
  unfold ofSet
  split <;> rfl

theorem mapM_shiftGroups {α : Type} {read : Pattern → Option α}
    (same : ∀ pattern, read (shiftGroups offset pattern) = read pattern)
    (patterns : List Pattern) :
    (patterns.map (shiftGroups offset)).mapM read = patterns.mapM read := by
  induction patterns with
  | nil => rfl
  | cons pattern rest ih => rw [List.map_cons, List.mapM_cons, List.mapM_cons, same, ih]

theorem commonSet?_shiftGroups (patterns : List Pattern) :
    commonSet? (patterns.map (shiftGroups offset)) = commonSet? patterns := by
  have characters : ∀ pattern, character? (shiftGroups offset pattern) = character? pattern := by
    intro pattern
    cases pattern <;> rfl
  have sets : ∀ pattern, set? (shiftGroups offset pattern) = set? pattern := by
    intro pattern
    cases pattern <;> rfl
  rw [commonSet?, mapM_shiftGroups characters, mapM_shiftGroups sets, commonSet?]

theorem choiceOf_shiftGroups (patterns : List Pattern) :
    choiceOf (patterns.map (shiftGroups offset)) = (choiceOf patterns).shiftGroups offset := by
  rw [choiceOf, choiceOf, flatMap_shiftGroups alternatives_shiftGroups]
  cases patterns.flatMap alternatives with
  | nil => rfl
  | cons pattern rest =>
    cases rest with
    | nil => rfl
    | cons next later =>
      have common : commonSet? ((pattern :: next :: later).map (shiftGroups offset)) = _ :=
        commonSet?_shiftGroups _
      simp only [List.map_cons] at common ⊢
      rw [common]
      cases commonSet? (pattern :: next :: later) with
      | some set => exact (ofSet_shiftGroups set).symm
      | none => exact ofAlternatives_shiftGroups (pattern :: next :: later)

theorem sharedStart_shiftGroups (left right : List Pattern) :
    sharedStart (left.map (shiftGroups offset)) (right.map (shiftGroups offset)) =
      (sharedStart left right).map (shiftGroups offset) := by
  induction left generalizing right with
  | nil => rfl
  | cons first rest ih =>
    cases right with
    | nil => rfl
    | cons other others =>
      simp only [List.map_cons, sharedStart]
      by_cases same : first = other
      · rw [if_pos same, if_pos (congrArg _ same), ih, List.map_cons]
      · rw [if_neg same, if_neg fun alike => same (shiftGroups_injective alike), List.map_nil]

theorem row?_shiftGroups (pattern : Pattern) :
    row? (shiftGroups offset pattern) = (row? pattern).map (List.map (shiftGroups offset)) := by
  cases pattern with
  | seq first second => exact congrArg some (elements_shiftGroups (.seq first second))
  | _ => rfl

theorem factored?_shiftGroups (patterns : List Pattern) :
    factored? (patterns.map (shiftGroups offset)) =
      (factored? patterns).map fun (start, rows) =>
        (start.map (shiftGroups offset), rows.map (List.map (shiftGroups offset))) := by
  have rows : (patterns.map (shiftGroups offset)).mapM row? =
      (patterns.mapM row?).map (List.map (List.map (shiftGroups offset))) := by
    induction patterns with
    | nil => rfl
    | cons pattern rest ih =>
      rw [List.map_cons, List.mapM_cons, List.mapM_cons, row?_shiftGroups, ih]
      cases row? pattern with
      | none => rfl
      | some row =>
        cases rest.mapM row? with
        | none => rfl
        | some rows => rfl
  have shared : ∀ (others : List (List Pattern)) (row : List Pattern),
      (others.map (List.map (shiftGroups offset))).foldl sharedStart
        (row.map (shiftGroups offset)) =
          (others.foldl sharedStart row).map (shiftGroups offset) := by
    intro others
    induction others with
    | nil => exact fun row => rfl
    | cons other others ih =>
      intro row
      rw [List.map_cons, List.foldl_cons, List.foldl_cons, sharedStart_shiftGroups, ih]
  unfold factored?
  rw [rows]
  cases patterns.mapM row? with
  | none => rfl
  | some found =>
    cases found with
    | nil => rfl
    | cons row others =>
      simp only [Option.map_some, List.map_cons, shared]
      cases others.foldl sharedStart row with
      | nil => rfl
      | cons first start => simp [List.map_drop]

theorem choice_shiftGroups (patterns : List Pattern) :
    choice (patterns.map (shiftGroups offset)) = (choice patterns).shiftGroups offset := by
  have sequences : ∀ rows : List (List Pattern),
      (rows.map (List.map (shiftGroups offset))).map sequence =
        (rows.map sequence).map (shiftGroups offset) := by
    intro rows
    rw [List.map_map, List.map_map]
    exact congrArg (List.map · rows) (funext fun row => sequence_shiftGroups row)
  unfold choice
  rw [flatMap_shiftGroups alternatives_shiftGroups, factored?_shiftGroups]
  cases factored? (patterns.flatMap alternatives) with
  | none => exact choiceOf_shiftGroups patterns
  | some found =>
    obtain ⟨start, rows⟩ := found
    cases rows with
    | nil => exact choiceOf_shiftGroups patterns
    | cons row others =>
      cases others with
      | nil => exact choiceOf_shiftGroups patterns
      | cons other rest =>
        have later : choiceOf (((row :: other :: rest).map (List.map (shiftGroups offset))).map
            sequence) = (choiceOf ((row :: other :: rest).map sequence)).shiftGroups offset := by
          rw [sequences, choiceOf_shiftGroups]
        calc sequence (start.map (shiftGroups offset) ++
              [choiceOf (((row :: other :: rest).map (List.map (shiftGroups offset))).map
                sequence)])
          _ = sequence ((start ++ [choiceOf ((row :: other :: rest).map sequence)]).map
                (shiftGroups offset)) := by rw [later, List.map_append]; rfl
          _ = _ := sequence_shiftGroups _

theorem times_shiftGroups (body : Pattern) (least : Nat) (most : Option Nat) (greedy : Bool) :
    (body.shiftGroups offset).times least most greedy =
      (body.times least most greedy).shiftGroups offset := by
  unfold times
  rw [takesNothing_shiftGroups]
  generalize (if body.takesNothing then (min least 1, some (min (most.getD 1) 1))
    else (least, most)) = bounds
  dsimp only
  split
  · rfl
  · split <;> rfl

end Pattern

end CodeFolding
