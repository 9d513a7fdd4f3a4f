import CodeFolding.Proofs.Pattern.Reader.Behind
import Mathlib.Data.List.TakeWhile

set_option autoImplicit false

namespace CodeFolding

namespace Pattern

namespace Reader

variable {flags : Flags} {text rest more tail : List Char} {c : Char}

section Opening

variable {level : OpenSet}

theorem leadingHyphens_append {fuel further : Nat} {started : OpenSet}
    (enough : text.length ≤ fuel) (within : fuel ≤ further)
    (ends : leadingHyphens flags fuel level text = (started, c :: rest)) :
    leadingHyphens flags further level (text ++ more) = (started, c :: (rest ++ more)) := by
  induction fuel generalizing further level text with
  | zero =>
    cases List.length_eq_zero_iff.1 (Nat.le_zero.1 enough)
    exact nomatch ends
  | succ fuel ih =>
    obtain ⟨further, rfl⟩ := Nat.exists_eq_succ_of_ne_zero (Nat.ne_zero_of_lt within)
    unfold leadingHyphens at ends ⊢
    cases found : flags.skip text with
    | nil =>
      rw [found] at ends
      exact nomatch ends
    | cons d later =>
      rw [found] at ends
      rw [Flags.skip_append_of_cons found]
      by_cases hyphen : d = '-'
      · subst hyphen
        exact ih (Flags.length_le_of_skip enough found) (Nat.le_of_succ_le_succ within) ends
      · split at ends
        · rename_i same
          exact (hyphen (List.cons.inj same).1).elim
        · cases ends
          split
          · rename_i same
            exact (hyphen (List.cons.inj same).1).elim
          · rfl

/-- The beginning of a bracket behind its caret. -/
def openBehindCaret (flags : Flags) (negated : Bool) (text : List Char) : OpenSet × List Char :=
  let (level, rest) := leadingHyphens flags text.length (.start negated) text
  match level.count, flags.skip rest with
  | 0, ']' :: rest => (level.add ⟨.single ']', 0⟩, rest)
  | _, rest => (level, rest)

theorem openBracket_of_caret (found : flags.skip text = '^' :: rest) :
    openBracket flags text = openBehindCaret flags true rest := by
  unfold openBracket
  rw [found]
  rfl

theorem openBracket_of_noCaret (other : ∀ rest, flags.skip text ≠ '^' :: rest) :
    openBracket flags text = openBehindCaret flags false (flags.skip text) := by
  unfold openBracket
  split
  · rename_i found
    split at found
    · rename_i caret
      exact (other _ caret).elim
    · cases found
      rfl

theorem openBehindCaret_nil {negated : Bool} :
    openBehindCaret flags negated [] = (.start negated, []) := by
  unfold openBehindCaret
  rw [List.length_nil, leadingHyphens]
  dsimp only
  rw [Flags.skip_nil]
  rfl

theorem openBehindCaret_append {negated : Bool}
    (ends : openBehindCaret flags negated text = (level, c :: rest)) :
    openBehindCaret flags negated (text ++ more) = (level, c :: (rest ++ more)) := by
  have longer : text.length ≤ (text ++ more).length := by
    rw [List.length_append]
    exact Nat.le_add_right ..
  unfold openBehindCaret at ends ⊢
  cases begun : leadingHyphens flags text.length (.start negated) text with
  | mk started behind =>
    rw [begun] at ends
    dsimp only at ends
    cases found : flags.skip behind with
    | nil =>
      rw [found] at ends
      split at ends
      · rename_i same
        exact nomatch same
      · exact nomatch ends
    | cons d later =>
      obtain ⟨e, between, rfl⟩ := List.exists_cons_of_ne_nil
        (Flags.ne_nil_of_skip (found ▸ List.cons_ne_nil d later))
      rw [found] at ends
      rw [leadingHyphens_append (Nat.le_refl _) longer begun, ← List.cons_append]
      dsimp only
      rw [Flags.skip_append_of_cons found]
      split at ends
      · rename_i zero same
        cases same
        cases ends
        rw [zero]
        rfl
      · rename_i other
        cases ends
        split
        · rename_i zero same
          cases same
          exact (other _ zero rfl).elim
        · rfl

/-- Behind the beginning of a bracket is what was behind it. -/
theorem openBracket_append (ends : openBracket flags text = (level, c :: rest)) :
    openBracket flags (text ++ more) = (level, c :: (rest ++ more)) := by
  cases found : flags.skip text with
  | nil =>
    have other : ∀ rest, flags.skip text ≠ '^' :: rest := by
      rw [found]
      exact fun rest same => nomatch same
    rw [openBracket_of_noCaret other, found, openBehindCaret_nil] at ends
    exact nomatch ends
  | cons d later =>
    by_cases caret : d = '^'
    · subst caret
      rw [openBracket_of_caret found] at ends
      rw [openBracket_of_caret (Flags.skip_append_of_cons found)]
      exact openBehindCaret_append ends
    · have own : ∀ rest, flags.skip text ≠ '^' :: rest := by
        rw [found]
        exact cons_ne_of_ne caret _
      have longer : ∀ rest, flags.skip (text ++ more) ≠ '^' :: rest := by
        rw [Flags.skip_append_of_cons found]
        exact cons_ne_of_ne caret _
      rw [openBracket_of_noCaret own, found] at ends
      rw [openBracket_of_noCaret longer, Flags.skip_append_of_cons found]
      exact openBehindCaret_append ends

end Opening

section Named

theorem asciiSet?_bracket {name : List Char} (inside : ')' ∈ name) :
    asciiSet? (String.ofList name) = none := by
  have apart : ∀ known : String, ')' ∉ known.toList → String.ofList name ≠ known := by
    rintro known outside rfl
    rw [String.toList_ofList] at outside
    exact outside inside
  unfold asciiSet?
  split
  all_goals first | rfl | exact absurd ‹_› (apart _ (by decide))

/-- The named set whose name begins with the text. -/
def nameIn? (negated : Bool) (text : List Char) : Option (Charset × Bool × List Char) :=
  match text.dropWhile (· != ':') with
  | ':' :: ']' :: behind => do
    let set ← asciiSet? (String.ofList (text.takeWhile (· != ':')))
    return (set, negated, behind)
  | _ => none

/-- What a named set is read to, with `more` behind what is left. -/
def putBehind (more : List Char) (named : Charset × Bool × List Char) :
    Charset × Bool × List Char :=
  (named.1, named.2.1, named.2.2 ++ more)

theorem nameIn?_append (negated : Bool) (text tail : List Char) :
    nameIn? negated (text ++ ')' :: tail) =
      (nameIn? negated text).map (putBehind (')' :: tail)) := by
  unfold nameIn?
  by_cases ends : ':' ∈ text
  · obtain ⟨name, later, rfl, outside⟩ := List.eq_append_cons_of_mem ends
    have all : ∀ c ∈ name, (c != ':') = true :=
      fun c member => bne_iff_ne.2 fun same => outside (same ▸ member)
    rw [List.append_assoc, List.takeWhile_append_of_pos all, List.dropWhile_append_of_pos all,
      List.takeWhile_append_of_pos all, List.dropWhile_append_of_pos all, List.cons_append]
    rw [List.dropWhile_cons_of_neg (by simp), List.dropWhile_cons_of_neg (by simp),
      List.takeWhile_cons_of_neg (by simp), List.takeWhile_cons_of_neg (by simp)]
    cases later with
    | nil => rfl
    | cons d later =>
      by_cases bracket : d = ']'
      · subst bracket
        cases asciiSet? (String.ofList (name ++ [])) <;> rfl
      · split
        · rename_i same
          cases same
          exact (bracket rfl).elim
        · split
          · rename_i same
            cases same
            exact (bracket rfl).elim
          · rfl
  · have all : ∀ c ∈ text, (c != ':') = true :=
      fun c member => bne_iff_ne.2 fun same => ends (same ▸ member)
    have none : asciiSet? (String.ofList ((text ++ ')' :: tail).takeWhile (· != ':'))) = none := by
      apply asciiSet?_bracket
      rw [List.takeWhile_append_of_pos all]
      exact List.mem_append_right _ List.mem_cons_self
    have own : text.dropWhile (· != ':') = [] := List.dropWhile_eq_nil_iff.2 all
    rw [none, own]
    split
    · rfl
    · rfl

theorem namedSet?_of_noCaret (other : ∀ rest, text ≠ '^' :: rest) :
    namedSet? (':' :: text) = nameIn? false text := by
  rw [namedSet?]
  · rfl
  · exact other

theorem namedSet?_of_noColon (other : ∀ rest, text ≠ ':' :: rest) : namedSet? text = none := by
  unfold namedSet?
  split
  · exact (other _ rfl).elim
  · rfl

theorem namedSet?_append (text tail : List Char) :
    namedSet? (text ++ ')' :: tail) = (namedSet? text).map (putBehind (')' :: tail)) := by
  cases text with
  | nil => rfl
  | cons c text =>
    rw [List.cons_append]
    by_cases colon : c = ':'
    · subst colon
      cases text with
      | nil => exact nameIn?_append false [] tail
      | cons d text =>
        by_cases caret : d = '^'
        · subst caret
          exact nameIn?_append true text tail
        · rw [namedSet?_of_noCaret (cons_ne_of_ne caret _), List.cons_append,
            namedSet?_of_noCaret (cons_ne_of_ne caret _)]
          exact nameIn?_append false (d :: text) tail
    · rw [namedSet?_of_noColon (cons_ne_of_ne colon _),
        namedSet?_of_noColon (cons_ne_of_ne colon _)]
      rfl

end Named

section Range

/-- Blanks in front of nothing are passed over. -/
theorem passBlanks_of_blanks {inComment : Bool} (blank : ∀ c ∈ text, Unicode.isBlank c = true) :
    passBlanks inComment text = [] := by
  induction text generalizing inComment with
  | nil => rfl
  | cons c text ih =>
    rw [passBlanks]
    split
    · exact ih fun d member => blank d (List.mem_cons_of_mem c member)
    · rw [if_pos (blank c List.mem_cons_self)]
      exact ih fun d member => blank d (List.mem_cons_of_mem c member)

theorem passBlanks_dropWhile (text : List Char) :
    passBlanks false (text.dropWhile Unicode.isBlank) = passBlanks false text := by
  induction text with
  | nil => rfl
  | cons c text ih =>
    by_cases blank : Unicode.isBlank c
    · rw [List.dropWhile_cons_of_pos blank, passBlanks, if_neg Bool.false_ne_true, if_pos blank]
      exact ih
    · rw [List.dropWhile_cons_of_neg blank]

theorem dropWhile_append_of_cons {condition : Char → Bool}
    (found : text.dropWhile condition = c :: rest) :
    (text ++ more).dropWhile condition = c :: (rest ++ more) := by
  rw [List.dropWhile_append, found]
  rfl

/-- The character behind a hyphen stays the same. -/
theorem behindHyphen?_append (found : behindHyphen? flags text = some c) :
    behindHyphen? flags (text ++ more) = some c := by
  unfold behindHyphen? at found ⊢
  by_cases verbose : flags.verbose
  · rw [if_pos verbose] at found ⊢
    split at found
    · rename_i later first
      obtain ⟨others, second⟩ := List.head?_eq_some_iff.1 found
      rw [dropWhile_append_of_cons first]
      change ((later ++ more).dropWhile Unicode.isBlank).head? = some c
      rw [dropWhile_append_of_cons second]
      rfl
    · rename_i other
      obtain ⟨others, first⟩ := List.head?_eq_some_iff.1 found
      rw [dropWhile_append_of_cons first]
      split
      · rename_i same
        cases same
        exact (other _ first).elim
      · rfl
  · rw [if_neg verbose] at found ⊢
    cases text with
    | nil => exact nomatch found
    | cons d text => exact found

/-- Nothing stands behind a hyphen at the end. -/
theorem skip_of_behindHyphen? (none : behindHyphen? flags text = none) : flags.skip text = [] := by
  unfold behindHyphen? at none
  unfold Flags.skip
  by_cases verbose : flags.verbose
  · rw [if_pos verbose] at none ⊢
    rw [← passBlanks_dropWhile]
    split at none
    · rename_i later found
      have blank := List.dropWhile_eq_nil_iff.1 (List.head?_eq_none_iff.1 none)
      rw [found]
      change passBlanks true later = []
      exact passBlanks_of_blanks blank
    · rw [List.head?_eq_none_iff.1 none]
      rfl
  · rw [if_neg verbose] at none ⊢
    exact List.head?_eq_none_iff.1 none

/-- What a hyphen behind an item makes of it. -/
def behindItem? (flags : Flags) (first : Escape) (behind : List Char) :
    Option (Charset × List Char) :=
  if behindHyphen? flags behind = some ']' ∨ behindHyphen? flags behind = some '-' then do
    return (← itemSet? flags first, '-' :: behind)
  else do
    let (last, rest) ← setItem? flags (flags.skip behind)
    match first, last with
    | .char a, .char b =>
      if a ≤ b ∧ isItem flags a ∧ isItem flags b then
        return (.range a.toNat b.toNat, rest)
      else none
    | _, _ => none

theorem behindItem?_extends {first : Escape} :
    Extends (')' :: tail) (behindItem? flags first text)
      (behindItem? flags first (text ++ ')' :: tail)) := by
  unfold behindItem?
  cases next : behindHyphen? flags text with
  | none =>
    -- The item behind the hyphen is missing.
    rw [skip_of_behindHyphen? next]
    exact .none
  | some c =>
    rw [behindHyphen?_append next]
    by_cases closes : some c = some ']' ∨ some c = some '-'
    · rw [if_pos closes, if_pos closes]
      exact .bind_value fun set => .some
    · rw [if_neg closes, if_neg closes]
      by_cases missing : flags.skip text = []
      · rw [missing]
        exact .none
      · rw [Flags.skip_append_of_ne_nil missing]
        refine .bind setItem?_extends fun last rest => ?_
        dsimp only
        split
        · split
          · exact .some
          · exact .none
        · exact .none

/-- A set that does not reach the end of its text. -/
theorem setRange?_append {set : Charset} (read : setRange? flags text = some (set, c :: rest)) :
    setRange? flags (text ++ ')' :: tail) = some (set, c :: (rest ++ ')' :: tail)) := by
  obtain ⟨⟨first, behind⟩, item, read⟩ := Option.bind_eq_some_iff.1 read
  refine Option.bind_eq_some_iff.2 ⟨_, setItem?_extends _ _ item, ?_⟩
  dsimp only at read ⊢
  cases found : flags.skip behind with
  | nil =>
    rw [found] at read
    obtain ⟨_, -, same⟩ := Option.bind_eq_some_iff.1 read
    exact nomatch same
  | cons d later =>
    rw [found] at read
    rw [Flags.skip_append_of_cons found]
    split at read
    · rename_i same
      cases same
      split
      · rename_i same
        cases same
        exact behindItem?_extends _ _ read
      · rename_i other
        exact (other _ rfl).elim
    · rename_i other
      obtain ⟨_, known, same⟩ := Option.bind_eq_some_iff.1 read
      cases same
      split
      · rename_i same
        cases same
        exact (other _ rfl).elim
      · exact Option.bind_eq_some_iff.2 ⟨_, known, rfl⟩

end Range

section Brackets

theorem brackets?_nil {fuel : Nat} {level : OpenSet} {outer : List OpenSet} :
    brackets? flags fuel level outer [] = none := by
  cases fuel with
  | zero => rfl
  | succ fuel =>
    unfold brackets?
    rw [Flags.skip_nil]

/-- No operation begins in the text and ends behind it. -/
theorem cons_append_ne_doubled {d : Char} (apart : d ≠ ')')
    (none : ∀ rest, c :: text ≠ d :: d :: rest) : c :: (text ++ ')' :: tail) ≠ d :: d :: rest := by
  intro doubled
  obtain ⟨first, others⟩ := List.cons.inj doubled
  cases text with
  | nil => exact apart (List.cons.inj others).1.symm
  | cons e text => exact none text (by rw [first, (List.cons.inj others).1])

/-- A bracket that was opened inside the text has to be closed there. -/
theorem behindOpening_extends {fuel further : Nat} {outer : List OpenSet}
    (inside : ∀ level rest, Extends (')' :: tail) (brackets? flags fuel level outer rest)
      (brackets? flags further level outer (rest ++ ')' :: tail))) :
    Extends (')' :: tail)
      (brackets? flags fuel (openBracket flags text).1 outer (openBracket flags text).2)
      (brackets? flags further (openBracket flags (text ++ ')' :: tail)).1 outer
        (openBracket flags (text ++ ')' :: tail)).2) := by
  cases begun : openBracket flags text with
  | mk level behind =>
    cases behind with
    | nil =>
      rw [brackets?_nil]
      exact .none
    | cons c behind =>
      rw [openBracket_append begun]
      exact inside level (c :: behind)

theorem brackets?_extends {fuel further : Nat} (within : fuel ≤ further) {level : OpenSet}
    {outer : List OpenSet} :
    Extends (')' :: tail) (brackets? flags fuel level outer text)
      (brackets? flags further level outer (text ++ ')' :: tail)) := by
  induction fuel generalizing further level outer text with
  | zero => exact .none
  | succ fuel ih =>
    obtain ⟨further, rfl⟩ := Nat.exists_eq_succ_of_ne_zero (Nat.ne_zero_of_lt within)
    have fewer := Nat.le_of_succ_le_succ within
    unfold brackets?
    cases found : flags.skip text with
    | nil => exact .none
    | cons c later =>
      rw [Flags.skip_append_of_cons found]
      split
      · exact .none
      · rename_i same
        cases same
        refine .bind_value fun closed => ?_
        cases outer with
        | nil => exact .some
        | cons up outer => exact ih fewer
      · rename_i same
        cases same
        simp only [namedSet?_append]
        cases namedSet? later with
        | some named => exact .bind_value fun set => ih fewer
        | none => exact behindOpening_extends fun inner rest => ih fewer
      · rename_i same
        cases same
        exact ih fewer
      · rename_i same
        cases same
        exact ih fewer
      · rename_i same
        cases same
        exact ih fewer
      · rename_i noClose noOpen noInter noDiff noSymmDiff
        split
        · rename_i same
          exact nomatch same
        · rename_i same
          cases same
          exact (noClose _ rfl).elim
        · rename_i same
          cases same
          exact (noOpen _ rfl).elim
        · rename_i same
          exact (cons_append_ne_doubled (by decide) noInter same).elim
        · rename_i same
          exact (cons_append_ne_doubled (by decide) noDiff same).elim
        · rename_i same
          exact (cons_append_ne_doubled (by decide) noSymmDiff same).elim
        · -- An item at the very end of the text leaves the bracket open.
          intro value rest read
          obtain ⟨⟨set, behind⟩, range, read⟩ := Option.bind_eq_some_iff.1 read
          cases behind with
          | nil => exact nomatch brackets?_nil.symm.trans read
          | cons d behind =>
            exact Option.bind_eq_some_iff.2 ⟨_, setRange?_append range, ih fewer _ _ read⟩

theorem bracketed?_extends {fuel further : Nat} (within : fuel ≤ further) :
    Extends (')' :: tail) (bracketed? flags fuel text)
      (bracketed? flags further (text ++ ')' :: tail)) :=
  behindOpening_extends fun _ _ => brackets?_extends within

end Brackets

end Reader

end Pattern

end CodeFolding
