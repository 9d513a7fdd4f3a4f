import CodeFolding.Proofs.Lexicon.Precedence
import CodeFolding.Proofs.Pattern.Reader.Group

set_option autoImplicit false

namespace CodeFolding

namespace Pattern

namespace Reader

/-- What was read, and whether all groups are complete. -/
def outcome (read : Option (State × Bool)) : Option (Written × Bool) :=
  read.map fun (state, endsInComment) =>
    let whole := state.level.body
    (⟨whole.pattern, whole.depth, state.groupCount, state.names, endsInComment⟩,
      state.outer.isEmpty)

end Reader

open Reader

theorem ofString?_eq (text : String) :
    ofString? text = (outcome (read? (text.length + 1) .start text.toList)).bind
      fun (written, complete) => if complete && written.isModest then some written else none := by
  unfold ofString?
  cases read? (text.length + 1) .start text.toList <;> rfl

theorem read?_of_ofString? {text : String} {written : Written}
    (made : ofString? text = some written) :
    ∃ final, read? (text.length + 1) .start text.toList = some (final, written.endsInComment) ∧
      final.outer = [] ∧ written = ⟨final.level.body.pattern, final.level.body.depth,
        final.groupCount, final.names, written.endsInComment⟩ := by
  unfold ofString? at made
  split at made
  · exact nomatch made
  · rename_i final endsInComment read
    dsimp only at made
    split at made
    · rename_i modest
      cases made
      obtain ⟨complete, -⟩ := Bool.and_eq_true_iff.1 modest
      exact ⟨final, read, List.isEmpty_iff.1 complete, rfl⟩
    · exact nomatch made

end Pattern

namespace Lexicon

open Pattern (Written)
open Pattern.Reader

section Names

theorem toList_groupName (index : Nat) :
    (groupName index).toList = 'r' :: Nat.toDigits 10 index := by
  change ("r" ++ index.repr).toList = _
  rw [String.toList_append, Nat.toList_repr]
  rfl

theorem continuesName_of_isDigit {c : Char} (digit : c.isDigit = true) :
    Unicode.continuesName c = true := by
  have bounds : Unicode.numbers.bounds = 0x30 :: 0x3A :: Unicode.numbers.bounds.drop 2 := by
    decide +kernel
  have range : 0x30 ≤ c.toNat ∧ c.toNat ≤ 0x39 := by
    simpa [Char.isDigit, UInt32.le_iff_toNat_le] using digit
  have held : Unicode.numbers.contains c = true := by
    rw [Charset.contains, Charset.holds, bounds, Charset.within, if_neg (by omega),
      Charset.within, if_pos (by omega)]
    rfl
  rw [Unicode.continuesName, held, Bool.or_true, Bool.true_or]

theorem isGroupName_groupName (index : Nat) : isGroupName (groupName index).toList = true := by
  have begins : Unicode.beginsName 'r' = true := by decide +kernel
  rw [toList_groupName, isGroupName, begins, Bool.true_and, List.all_eq_true]
  intro c member
  exact continuesName_of_isDigit (Nat.isDigit_of_mem_toDigits (by decide) (by decide) member)

theorem not_mem_groupName (index : Nat) : '>' ∉ (groupName index).toList := by
  rw [toList_groupName, List.mem_cons]
  rintro (same | member)
  · exact nomatch same
  · exact nomatch Nat.isDigit_of_mem_toDigits (by decide) (by decide) member

end Names

/-- The text of a rule in its group, with `behind` behind it. -/
def bracketed (index : Nat) (rule : Rule) (behind : List Char) : List Char :=
  '(' :: '?' :: 'P' :: '<' ::
    ((groupName index).toList ++ '>' :: (rule.source.toList ++ ')' :: behind))

theorem length_bracketed (index : Nat) (rule : Rule) (behind : List Char) :
    rule.source.length + behind.length + 6 ≤ (bracketed index rule behind).length := by
  simp only [bracketed, List.length_cons, List.length_append, String.length_toList]
  omega

/-- The text of a rule and those behind it. The group around it has the number `index` in its
name. -/
def glued (index : Nat) (rule : Rule) : List Rule → List Char
  | [] => bracketed index rule []
  | next :: rest => bracketed index rule ('|' :: glued (index + 1) next rest)

theorem toList_joinedText (rule : Rule) (rest : List Rule) :
    (joinedText (rule :: rest)).toList = glued 0 rule rest := by
  have all : ∀ index, ("|".intercalate (((rule :: rest).zipIdx index).map fun entry =>
      "(?P<" ++ groupName entry.2 ++ ">" ++ entry.1.source ++ ")")).toList =
        glued index rule rest := by
    induction rest generalizing rule with
    | nil =>
      intro index
      simp [glued, bracketed]
    | cons next rest ih =>
      intro index
      have behind := ih next (index + 1)
      rw [List.zipIdx_cons, List.map_cons] at behind ⊢
      rw [List.zipIdx_cons, List.map_cons, String.intercalate_cons_cons, String.toList_append,
        behind]
      simp [glued, bracketed]
  exact all 0

/-- The group around a rule, with its depth. -/
def pieceOf (number : Nat) (rule : Rule) : Piece :=
  ⟨.group number (rule.written.pattern.shiftGroups number), rule.written.depth + 1⟩

/-- The groups around the rules. The first group has the number `next`. -/
def pieces (next : Nat) : List Rule → List Piece
  | [] => []
  | rule :: rest => pieceOf next rule :: pieces (next + rule.written.groupCount + 1) rest

/-- The pattern whose branches are complete. -/
def writtenOf (branches : List Piece) (count : Nat) (names : List (String × Nat)) : Written :=
  let whole := Piece.join Pattern.choice branches
  ⟨whole.pattern, whole.depth, count, names, false⟩

/-- The state between two rules. -/
def between (branches : List Piece) (count : Nat) (names : List (String × Nat)) : State :=
  ⟨{}, ⟨none, {}, branches, []⟩, [], count, names⟩

section Reading

variable {branches : List Piece} {count : Nat} {names : List (String × Nat)} {index : Nat}
  {rule : Rule} {behind : List Char}

/-- The place of a rule in the text of all. -/
def placeOf (branches : List Piece) (count : Nat) (names : List (String × Nat)) (index : Nat) :
    Place :=
  ⟨⟨none, {}, branches, []⟩, count + 1, names ++ [(groupName index, count + 1)]⟩

/-- The state behind the bracket that closes the group around a rule. -/
def behindRule (branches : List Piece) (count : Nat) (names : List (String × Nat)) (index : Nat)
    (rule : Rule) : State :=
  ⟨{}, ⟨none, {}, branches, [.ofPiece (pieceOf (count + 1) rule)]⟩, [],
    count + 1 + rule.written.groupCount, names ++ groupNames index (count + 1) [rule]⟩

theorem namedGroup?_groupName (state : State) (index : Nat) (behind : List Char) :
    namedGroup? state ((groupName index).toList ++ '>' :: behind) =
      if state.names.lookup (groupName index) = none then
        some (state.openNamed (groupName index), behind)
      else none := by
  have all : ∀ c ∈ (groupName index).toList, (c != '>') = true :=
    fun c member => bne_iff_ne.2 fun same => not_mem_groupName index (same ▸ member)
  unfold namedGroup?
  rw [List.takeWhile_append_of_pos all, List.dropWhile_append_of_pos all,
    List.takeWhile_cons_of_neg (by simp), List.dropWhile_cons_of_neg (by simp), List.append_nil]
  dsimp only
  rw [isGroupName_groupName, Bool.true_and, String.ofList_toList]
  exact if_congr Option.isNone_iff_eq_none rfl rfl

/-- The text of a rule is read from the beginning, in its place. -/
theorem read?_bracketed (fuel : Nat) :
    read? (fuel + 1) (between branches count names) (bracketed index rule behind) =
      if names.lookup (groupName index) = none then
        read? fuel (State.start.inside (placeOf branches count names index))
          (rule.source.toList ++ ')' :: behind)
      else none := by
  have opened : (between branches count names).openNamed (groupName index) =
      State.start.inside (placeOf branches count names index) :=
    congrArg (fun given => { State.start.inside (placeOf branches count names index) with
      names := given }) (List.append_nil _).symm
  have step : step? fuel (between branches count names) '('
      ('?' :: 'P' :: '<' ::
        ((groupName index).toList ++ '>' :: (rule.source.toList ++ ')' :: behind))) =
      if names.lookup (groupName index) = none then
        some (State.start.inside (placeOf branches count names index),
          rule.source.toList ++ ')' :: behind)
      else none := by
    rw [← opened]
    exact namedGroup?_groupName ..
  rw [bracketed, read?_of_cons rfl, step]
  split <;> rfl

theorem names_placeOf (branches : List Piece) (count : Nat) (names : List (String × Nat))
    (index : Nat) (rule : Rule) :
    (placeOf branches count names index).names ++
      (placeOf branches count names index).renumber rule.written.names =
        names ++ groupNames index (count + 1) [rule] := by
  rw [groupNames, groupNames, List.append_nil, placeOf, List.append_assoc]
  rfl

/-- The names of a rule can be given if that of its group can and they are not taken. -/
theorem nodup_groupNames_iff (branches : List Piece) (count index : Nat)
    (unique : (names.map Prod.fst).Nodup)
    (once : (rule.written.names.map Prod.fst).Nodup) :
    ((names ++ groupNames index (count + 1) [rule]).map Prod.fst).Nodup ↔
      names.lookup (groupName index) = none ∧
        (placeOf branches count names index).Clear rule.written.names := by
  have same : ((placeOf branches count names index).renumber rule.written.names).map Prod.fst =
      rule.written.names.map Prod.fst := by
    rw [Place.renumber, List.map_map]
    rfl
  have around : ((names ++ [(groupName index, count + 1)]).map Prod.fst).Nodup ↔
      names.lookup (groupName index) = none := by
    rw [nodup_names_append, List.forall_mem_singleton]
    exact ⟨fun all => all.2.2, fun free => ⟨unique, List.pairwise_singleton _ _, free⟩⟩
  rw [← names_placeOf branches, nodup_names_append, same]
  refine and_congr around ?_
  rw [Place.renumber, List.forall_mem_map]
  exact ⟨fun all => all.2, fun clear => ⟨once, clear⟩⟩

/-- Reading a rule in its group: unless one of its names is taken, the rule is read as it is read
alone, and reading goes on behind the group. -/
theorem read?_rule {fuel : Nat} (made : Pattern.ofString? rule.source = some rule.written)
    (complete : rule.written.endsInComment = false) (unique : (names.map Prod.fst).Nodup)
    (enough : (bracketed index rule behind).length < fuel) :
    ∃ left, behind.length < left ∧
      read? fuel (between branches count names) (bracketed index rule behind) =
        if ((names ++ groupNames index (count + 1) [rule]).map Prod.fst).Nodup then
          read? left (behindRule branches count names index rule) behind
        else none := by
  obtain ⟨final, read, closed, written⟩ := Pattern.read?_of_ofString? made
  obtain ⟨fuel, rfl⟩ := Nat.exists_eq_succ_of_ne_zero (Nat.ne_zero_of_lt enough)
  have long := length_bracketed index rule behind
  rw [complete] at read
  have once : (rule.written.names.map Prod.fst).Nodup := by
    rw [written]
    exact (read?_names read).2 List.nodup_nil
  have condition := nodup_groupNames_iff branches count index unique once
  have same : final.names = rule.written.names := by
    rw [written]
  have leaves : final.leave (placeOf branches count names index) =
      behindRule branches count names index rule := by
    rw [behindRule, pieceOf, ← names_placeOf branches, written]
    rfl
  by_cases free : names.lookup (groupName index) = none
  · have start : (placeOf branches count names index).Clear State.start.names :=
      fun entry member => nomatch member
    obtain ⟨left, further, whole⟩ := read?_inside (by omega : _ ≤ fuel) start read closed
    refine ⟨left, by omega, ?_⟩
    rw [read?_bracketed, if_pos free, whole, leaves, same]
    exact if_congr (condition.trans (and_iff_right free)).symm rfl rfl
  · refine ⟨fuel, by omega, ?_⟩
    rw [read?_bracketed, if_neg free, if_neg]
    exact fun unique => free (condition.1 unique).1

/-- The group around a rule is a branch of its own. -/
theorem branch_behindRule :
    (behindRule branches count names index rule).level.branch = pieceOf (count + 1) rule := by
  have depth : [(pieceOf (count + 1) rule).depth].foldl max 0 =
      (pieceOf (count + 1) rule).depth := Nat.zero_max ..
  exact congrArg (Piece.mk (pieceOf (count + 1) rule).pattern) depth

theorem read?_bar (fuel : Nat) (text : List Char) :
    read? (fuel + 1) (behindRule branches count names index rule) ('|' :: text) =
      read? fuel (between (pieceOf (count + 1) rule :: branches)
        (count + 1 + rule.written.groupCount) (names ++ groupNames index (count + 1) [rule]))
          text := by
  rw [read?_of_cons rfl]
  exact congrArg (fun branch => read? fuel (between (branch :: branches) _ _) text)
    branch_behindRule

theorem read?_end (fuel : Nat) :
    outcome (read? (fuel + 1) (behindRule branches count names index rule) []) =
      some (writtenOf (branches.reverse ++ pieces (count + 1) [rule])
        (count + 1 + rule.written.groupCount) (names ++ groupNames index (count + 1) [rule]),
          true) := by
  have reversed : (pieceOf (count + 1) rule :: branches).reverse =
      branches.reverse ++ pieces (count + 1) [rule] := List.reverse_cons
  rw [read?_of_nil rfl, ← reversed, ← branch_behindRule]
  rfl

theorem groupNames_cons (index next : Nat) (rule : Rule) (rest : List Rule) :
    groupNames index next (rule :: rest) = groupNames index next [rule] ++
      groupNames (index + 1) (next + rule.written.groupCount + 1) rest := by
  rw [groupNames, groupNames, groupNames, List.append_nil]

/-- The text of the rules is read as the choice between their groups, unless two groups have the
same name. -/
theorem outcome_glued {rest : List Rule} {fuel : Nat}
    (made : ∀ other ∈ rule :: rest, Pattern.ofString? other.source = some other.written)
    (complete : ∀ other ∈ rule :: rest, other.written.endsInComment = false)
    (unique : (names.map Prod.fst).Nodup) (enough : (glued index rule rest).length < fuel) :
    outcome (read? fuel (between branches count names) (glued index rule rest)) =
      if ((names ++ groupNames index (count + 1) (rule :: rest)).map Prod.fst).Nodup then
        some (writtenOf (branches.reverse ++ pieces (count + 1) (rule :: rest))
          (((rule :: rest).map fun other => other.written.groupCount + 1).foldl (· + ·) count)
            (names ++ groupNames index (count + 1) (rule :: rest)), true)
      else none := by
  -- `branches`, `count` and `names` are what the rules in front have left.
  induction rest generalizing rule branches count names index fuel with
  | nil =>
    obtain ⟨left, further, whole⟩ := read?_rule (made rule List.mem_cons_self)
      (complete rule List.mem_cons_self) unique enough
    obtain ⟨left, rfl⟩ := Nat.exists_eq_succ_of_ne_zero (Nat.ne_zero_of_lt further)
    have total : count + (rule.written.groupCount + 1) = count + 1 + rule.written.groupCount := by
      omega
    rw [glued, whole, List.map_singleton, List.foldl_cons, List.foldl_nil, total]
    split
    · exact read?_end left
    · rfl
  | cons next rest ih =>
    obtain ⟨left, further, whole⟩ := read?_rule (made rule List.mem_cons_self)
      (complete rule List.mem_cons_self) unique enough
    obtain ⟨left, rfl⟩ := Nat.exists_eq_succ_of_ne_zero (Nat.ne_zero_of_lt further)
    have total : count + (rule.written.groupCount + 1) = count + 1 + rule.written.groupCount := by
      omega
    rw [glued, whole, List.map_cons, List.foldl_cons, total,
      groupNames_cons index (count + 1) rule (next :: rest), pieces, ← List.append_assoc]
    by_cases own : ((names ++ groupNames index (count + 1) [rule]).map Prod.fst).Nodup
    · rw [if_pos own, read?_bar,
        ih (fun other member => made other (List.mem_cons_of_mem rule member))
          (fun other member => complete other (List.mem_cons_of_mem rule member)) own
          (Nat.lt_of_succ_lt_succ further),
        List.reverse_cons, ← List.append_cons]
    · rw [if_neg own, if_neg]
      · rfl
      · exact fun all => own (nodup_names_append.1 all).1

end Reading

section Whole

theorem pattern_pieces (next : Nat) (rules : List Rule) :
    (pieces next rules).map Piece.pattern = grouped next rules := by
  induction rules generalizing next with
  | nil => rfl
  | cons rule rest ih => exact congrArg _ (ih _)

theorem depth_pieces (next : Nat) (rules : List Rule) :
    (pieces next rules).map Piece.depth = rules.map fun rule => rule.written.depth + 1 := by
  induction rules generalizing next with
  | nil => rfl
  | cons rule rest ih => exact congrArg _ (ih _)

theorem writtenOf_pieces (rules : List Rule) :
    writtenOf (pieces 1 rules) ((rules.map fun rule => rule.written.groupCount + 1).foldl (· + ·) 0)
      (groupNames 0 1 rules) = joined rules := by
  have length : (pieces 1 rules).length = rules.length := by
    rw [← List.length_map, depth_pieces, List.length_map]
  unfold writtenOf joined Piece.join
  dsimp only
  rw [pattern_pieces, depth_pieces, length]
  split <;> rfl

theorem ofString?_of_made {rule : Rule} (made : Rule.ofString? rule.source rule.kind = some rule) :
    Pattern.ofString? rule.source = some rule.written := by
  obtain ⟨written, found, same⟩ := Option.map_eq_some_iff.1 made
  rw [found, ← congrArg Rule.written same]

/-- The text of all rules is read as the choice between their groups. -/
theorem outcome_joinedText {rule : Rule} {rest : List Rule}
    (made : ∀ other ∈ rule :: rest, Rule.ofString? other.source other.kind = some other)
    (complete : ∀ other ∈ rule :: rest, other.written.endsInComment = false) :
    outcome (read? ((joinedText (rule :: rest)).length + 1) .start
        (joinedText (rule :: rest)).toList) =
      if ((joined (rule :: rest)).names.map Prod.fst).Nodup then
        some (joined (rule :: rest), true)
      else none := by
  have enough : (glued 0 rule rest).length < (joinedText (rule :: rest)).length + 1 := by
    rw [← toList_joinedText, String.length_toList]
    exact Nat.lt_succ_self _
  rw [toList_joinedText, ← writtenOf_pieces]
  exact outcome_glued (fun other member => ofString?_of_made (made other member)) complete
    List.nodup_nil enough

theorem joined?_eq_ofString? {rules : List Rule}
    (made : ∀ rule ∈ rules, Rule.ofString? rule.source rule.kind = some rule) :
    joined? rules = Pattern.ofString? (joinedText rules) := by
  unfold joined?
  split
  · rfl
  · rename_i noComment
    cases rules with
    | nil => rfl
    | cons rule rest =>
      have complete : ∀ other ∈ rule :: rest, other.written.endsInComment = false := by
        intro other member
        apply Bool.eq_false_iff.2
        exact fun ends => noComment (List.any_eq_true.2 ⟨other, member, ends⟩)
      rw [Pattern.ofString?_eq, outcome_joinedText made complete]
      dsimp only
      by_cases unique : ((joined (rule :: rest)).names.map Prod.fst).Nodup
      · rw [if_pos unique]
        exact if_congr (and_iff_right unique) rfl rfl
      · rw [if_neg unique, if_neg fun all => unique all.1]
        rfl

end Whole

section Text

/-- The lexicon of the text of all rules: each rule is written in a group with a name of its own,
the text is read as one pattern, and the groups are found by their names. -/
def ofText? (rules : List Rule) : Option Lexicon :=
  (Pattern.ofString? (joinedText rules)).map fun whole =>
    ⟨whole.pattern.plan, rules.zipIdx.filterMap fun (rule, index) =>
      (whole.names.lookup (groupName index)).map fun number => (number, rule.kind)⟩

theorem ofRules?_eq_ofText? {rules : List Rule}
    (made : ∀ rule ∈ rules, Rule.ofString? rule.source rule.kind = some rule) :
    ofRules? rules = ofText? rules := by
  rw [ofRules?, joined?_eq_ofString? made]
  rfl

/-- The first matching rule wins. Whatever groups, choices and flags the rules hold, the tokens
that the text of all rules gives are those that the rules give one by one, unless a comment at the
end of a rule hides the bracket behind it. -/
theorem classify_firstRule {rules : List Rule} {lexicon : Lexicon}
    (made : ∀ rule ∈ rules, Rule.ofString? rule.source rule.kind = some rule)
    (complete : ∀ rule ∈ rules, rule.written.endsInComment = false)
    (joins : ofText? rules = some lexicon) (keywords : List String) (input : Array Char) :
    ofRules? rules = some lexicon ∧
      lexicon.classify keywords input = scanFrom rules keywords input 0 := by
  have whole : ofRules? rules = some lexicon := (ofRules?_eq_ofText? made).trans joins
  exact ⟨whole, classify_eq_scanFrom complete whole keywords input⟩

-- A comment at the end of the first rule goes on to the break in the second, so that the text has
-- one group for `ab`. Alone the first rule matches `a`.
example :
    ((Rule.ofString? "(?x)a#" .identifier).bind fun first =>
      (Rule.ofString? "\nb" .number).bind fun second =>
        (ofText? [first, second]).map fun lexicon =>
          (lexicon.classify [] #['a'], (firstFrom? [first, second] #['a'] 0).isSome)) =
      some ([], true) := by
  decide +kernel

/-- A rule with a group, and one with a flag and a choice. -/
def letters : List Rule :=
  [⟨"(a)b", ⟨.seq (.group 1 (.text ['a'])) (.text ['b']), 2, 1, [], false⟩, .identifier⟩,
    ⟨"(?s)b|.", ⟨.alt (.text ['b']) (.oneOf .any), 2, 0, [], false⟩, .number⟩]

theorem classify_firstRule_letters :
    (ofText? letters).isSome = true ∧
      scanFrom letters ["ab"] #['a', 'b', '\n'] 0 = [⟨⟨0, 2⟩, .keyword⟩, ⟨⟨2, 3⟩, .number⟩] := by
  have made : ∀ rule ∈ letters, Rule.ofString? rule.source rule.kind = some rule := by
    rw [letters, List.forall_mem_cons, List.forall_mem_singleton]
    exact ⟨rfl, rfl⟩
  have tokens : ((ofText? letters).map fun lexicon =>
      lexicon.classify ["ab"] #['a', 'b', '\n']) =
        some [⟨⟨0, 2⟩, .keyword⟩, ⟨⟨2, 3⟩, .number⟩] := by
    decide +kernel
  obtain ⟨lexicon, joins, shown⟩ := Option.map_eq_some_iff.1 tokens
  refine ⟨Option.isSome_of_eq_some joins, ?_⟩
  rw [← (classify_firstRule made (by decide) joins _ _).2]
  exact shown

end Text

end Lexicon

end CodeFolding
