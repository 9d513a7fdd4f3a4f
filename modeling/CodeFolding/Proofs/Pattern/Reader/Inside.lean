import CodeFolding.Proofs.Pattern.Compose
import CodeFolding.Proofs.Pattern.Reader.Counts

set_option autoImplicit false

namespace CodeFolding

namespace Pattern

namespace Reader

/-- The piece with other numbers for its groups. -/
def Piece.shift (offset : Nat) (piece : Piece) : Piece :=
  ⟨piece.pattern.shiftGroups offset, piece.depth⟩

theorem Piece.join_shift {compose : List Pattern → Pattern} {offset : Nat}
    (moves : ∀ patterns, compose (patterns.map (shiftGroups offset)) =
      (compose patterns).shiftGroups offset) (pieces : List Piece) :
    join compose (pieces.map (shift offset)) = (join compose pieces).shift offset := by
  have patterns : (pieces.map (shift offset)).map Piece.pattern =
      (pieces.map Piece.pattern).map (shiftGroups offset) := by
    rw [List.map_map, List.map_map]
    rfl
  have depths : (pieces.map (shift offset)).map Piece.depth = pieces.map Piece.depth := by
    rw [List.map_map]
    rfl
  unfold join
  rw [patterns, depths, moves, List.length_map]
  rfl

def Item.shift (offset : Nat) : Item → Item
  | ofPiece piece => ofPiece (piece.shift offset)
  | setting => setting

theorem Item.toPiece_shift (offset : Nat) (item : Item) :
    (item.shift offset).toPiece = item.toPiece.shift offset := by
  cases item <;> rfl

namespace OpenGroup

variable {offset : Nat} {level : OpenGroup} {outer : List OpenGroup}

/-- The group with other numbers for itself and the groups inside it. -/
def shift (offset : Nat) (level : OpenGroup) : OpenGroup :=
  ⟨level.index.map (offset + ·), level.outside, level.branches.map (Piece.shift offset),
    level.items.map (Item.shift offset)⟩

theorem branch_shift (offset : Nat) (level : OpenGroup) :
    (level.shift offset).branch = level.branch.shift offset := by
  have pieces : ((level.shift offset).items.reverse.map Item.toPiece) =
      (level.items.reverse.map Item.toPiece).map (Piece.shift offset) := by
    rw [shift, ← List.map_reverse, List.map_map, List.map_map]
    exact List.map_congr_left fun item _ => Item.toPiece_shift offset item
  rw [branch, pieces, Piece.join_shift sequence_shiftGroups, branch]

theorem body_shift (offset : Nat) (level : OpenGroup) :
    (level.shift offset).body = level.body.shift offset := by
  have pieces : ((level.shift offset).branch :: (level.shift offset).branches).reverse =
      (level.branch :: level.branches).reverse.map (Piece.shift offset) := by
    rw [branch_shift, List.map_reverse]
    rfl
  rw [body, pieces, Piece.join_shift choice_shiftGroups, body]

theorem close_shift (offset : Nat) (level : OpenGroup) :
    (level.shift offset).close = level.close.shift offset := by
  unfold close
  rw [body_shift]
  cases found : level.index with
  | none => simp only [shift, found, Option.map_none, Piece.shift]
  | some index => simp only [shift, found, Option.map_some, Piece.shift, shiftGroups]

/-- An open group where the outermost is read as the group `number`. -/
def enclose (number : Nat) (outer : List OpenGroup) (level : OpenGroup) : OpenGroup :=
  match outer with
  | [] => { level.shift number with index := some number, outside := {} }
  | _ :: _ => level.shift number

theorem items_enclose {number : Nat} :
    (level.enclose number outer).items = level.items.map (Item.shift number) := by
  cases outer <;> rfl

theorem enclose_items {number : Nat} (items : List Item) :
    { level with items := items }.enclose number outer =
      { level.enclose number outer with items := items.map (Item.shift number) } := by
  cases outer <;> rfl

/-- The outermost group is complete at the end of the pattern. -/
theorem close_enclose (level : OpenGroup) (number : Nat) :
    (level.enclose number []).close =
      ⟨group number (level.body.pattern.shiftGroups number), level.body.depth + 1⟩ := by
  change Piece.mk (group number (level.shift number).body.pattern)
    ((level.shift number).body.depth + 1) = _
  rw [body_shift]
  rfl

theorem push_enclose (level : OpenGroup) (outer : List OpenGroup) (number : Nat) (piece : Piece) :
    (level.push piece).enclose number outer =
      (level.enclose number outer).push (piece.shift number) := by
  cases outer <;> rfl

theorem nextBranch_shift (offset : Nat) (level : OpenGroup) :
    level.nextBranch.shift offset = (level.shift offset).nextBranch := by
  rw [nextBranch, nextBranch, branch_shift]
  rfl

theorem nextBranch_enclose {number : Nat} :
    level.nextBranch.enclose number outer = (level.enclose number outer).nextBranch := by
  have same := nextBranch_shift number level
  cases outer with
  | nil => exact congrArg (fun level => { level with index := some number, outside := {} }) same
  | cons up outer => exact same

end OpenGroup

/-- Where a pattern is read as a group of another: the open group around it, its own number, and
the names that are taken. -/
structure Place where
  around : OpenGroup
  number : Nat
  names : List (String × Nat)

namespace Place

/-- The open groups in that place. -/
def encloseAll (place : Place) : List OpenGroup → List OpenGroup
  | [] => [place.around]
  | level :: outer => level.enclose place.number outer :: place.encloseAll outer

/-- Whether none of the names is taken. -/
def Clear (place : Place) (names : List (String × Nat)) : Prop :=
  ∀ entry ∈ names, place.names.lookup entry.1 = none

instance (place : Place) (names : List (String × Nat)) : Decidable (place.Clear names) :=
  inferInstanceAs (Decidable (∀ entry ∈ names, place.names.lookup entry.1 = none))

/-- The names with the numbers that their groups have in that place. -/
def renumber (place : Place) (names : List (String × Nat)) : List (String × Nat) :=
  names.map fun (name, number) => (name, place.number + number)

end Place

namespace State

variable {place : Place} {state after : State}

/-- The state in that place. -/
def inside (place : Place) (state : State) : State where
  flags := state.flags
  level := state.level.enclose place.number state.outer
  outer := place.encloseAll state.outer
  groupCount := place.number + state.groupCount
  names := place.names ++ place.renumber state.names

theorem flags_inside (place : Place) (state : State) : (state.inside place).flags = state.flags :=
  rfl

theorem items_inside (place : Place) (state : State) :
    (state.inside place).level.items = state.level.items.map (Item.shift place.number) :=
  OpenGroup.items_enclose

theorem inside_items (place : Place) (state : State) (flags : Flags) (items : List Item) :
    { state with flags := flags, level := { state.level with items := items } }.inside place =
      { state.inside place with
        flags := flags
        level := { (state.inside place).level with
          items := items.map (Item.shift place.number) } } :=
  congrArg (fun level => { state.inside place with flags := flags, level := level })
    (OpenGroup.enclose_items items)

theorem inside_setting (place : Place) (state : State) (flags : Flags) :
    { state with
      flags := flags
      level := { state.level with items := .setting :: state.level.items } }.inside place =
      { state.inside place with
        flags := flags
        level := { (state.inside place).level with
          items := .setting :: (state.inside place).level.items } } := by
  rw [inside_items, items_inside]
  rfl

theorem inside_push {pattern : Pattern} (same : pattern.shiftGroups place.number = pattern)
    (state : State) (depth : Nat) :
    { state with level := state.level.push ⟨pattern, depth⟩ }.inside place =
      { state.inside place with level := (state.inside place).level.push ⟨pattern, depth⟩ } := by
  have level := state.level.push_enclose state.outer place.number ⟨pattern, depth⟩
  rw [Piece.shift, same] at level
  exact congrArg (fun level => { state.inside place with level := level }) level

theorem inside_nextBranch :
    { state with level := state.level.nextBranch }.inside place =
      { state.inside place with level := (state.inside place).level.nextBranch } :=
  congrArg (fun level => { state.inside place with level := level }) OpenGroup.nextBranch_enclose

theorem inside_openNamed (name : String) :
    (state.openNamed name).inside place = (state.inside place).openNamed name := by
  have names : place.names ++ place.renumber (state.names ++ [(name, state.groupCount + 1)]) =
      place.names ++ place.renumber state.names ++
        [(name, place.number + state.groupCount + 1)] := by
    rw [Place.renumber, List.map_append, List.append_assoc]
    rfl
  exact congrArg (fun names => { (state.inside place).openCapture with names := names }) names

theorem closeGroup?_inside (closes : state.closeGroup? = some after) :
    (state.inside place).closeGroup? = some (after.inside place) := by
  obtain ⟨flags, level, outer, groupCount, names⟩ := state
  cases outer with
  | nil => exact nomatch closes
  | cons up outer =>
    cases closes
    have pushed : (up.enclose place.number outer).push (level.shift place.number).close =
        (up.push level.close).enclose place.number outer := by
      rw [OpenGroup.close_shift, OpenGroup.push_enclose]
    exact congrArg (fun up => some { (State.mk level.outside up outer groupCount names).inside place
      with level := up }) pushed

theorem names_closeGroup? (closes : state.closeGroup? = some after) :
    after.names = state.names := by
  unfold closeGroup? at closes
  split at closes
  · exact nomatch closes
  · cases closes
    rfl

theorem kept_repeat? {least : Nat} {most : Option Nat} {greedy : Bool}
    (repeats : state.repeat? least most greedy = some after) :
    after.flags = state.flags ∧ after.names = state.names := by
  unfold repeat? at repeats
  split at repeats
  · cases repeats
    exact ⟨rfl, rfl⟩
  · exact nomatch repeats

theorem repeat?_inside {least : Nat} {most : Option Nat} {greedy : Bool}
    (repeats : state.repeat? least most greedy = some after) :
    (state.inside place).repeat? least most greedy = some (after.inside place) := by
  unfold repeat? at repeats
  split at repeats
  · rename_i piece items found
    cases repeats
    have again : (state.inside place).level.items =
        .ofPiece (piece.shift place.number) :: items.map (Item.shift place.number) := by
      rw [items_inside, found]
      rfl
    unfold repeat?
    rw [again]
    dsimp only [Piece.shift]
    rw [times_shiftGroups]
    exact congrArg some (inside_items place state state.flags (.ofPiece
      ⟨piece.pattern.times least most (greedy != state.flags.swapGreed), piece.depth + 1⟩ ::
        items)).symm
  · exact nomatch repeats

/-- If nothing is left but blanks and comments, the pattern is complete. -/
def Finishes (state : State) (rest : List Char) : Prop :=
  state.flags.skip rest = [] → endsInComment false rest = false ∧ state.outer = []

theorem Finishes.isSealed {rest : List Char} (finishes : state.Finishes rest) :
    state.flags.Sealed rest :=
  fun all => (finishes all).1

end State

namespace Place

variable {place : Place} {names : List (String × Nat)} {name : String}

theorem lookup_renumber (place : Place) (names : List (String × Nat)) (name : String) :
    (place.renumber names).lookup name = (names.lookup name).map (place.number + ·) := by
  induction names with
  | nil => rfl
  | cons entry names ih =>
    obtain ⟨first, number⟩ := entry
    rw [renumber, List.map_cons, List.lookup_cons, List.lookup_cons]
    cases name == first with
    | true => rfl
    | false => exact ih

theorem isNone_lookup_append : ((place.names ++ place.renumber names).lookup name).isNone =
    ((place.names.lookup name).isNone && (names.lookup name).isNone) := by
  rw [List.lookup_append, lookup_renumber]
  cases place.names.lookup name <;> cases names.lookup name <;> rfl

theorem clear_append_singleton {number : Nat} :
    place.Clear (names ++ [(name, number)]) ↔
      place.Clear names ∧ place.names.lookup name = none := by
  unfold Clear
  rw [List.forall_mem_append, List.forall_mem_singleton]

end Place

end Reader

end Pattern

end CodeFolding
