import CodeFolding.Pattern.Reader.Class

set_option autoImplicit false

namespace CodeFolding

namespace Pattern

namespace Reader

/-- Whatever is read from a text is read from a longer one too, with `more` behind what is left. -/
def Extends {α : Type} (more : List Char) (own longer : Option (α × List Char)) : Prop :=
  ∀ value rest, own = some (value, rest) → longer = some (value, rest ++ more)

namespace Extends

variable {α β : Type} {more : List Char} {own longer : Option (α × List Char)}

theorem none : Extends more none longer :=
  fun _ _ read => nomatch read

theorem some {value : α} {rest : List Char} :
    Extends more (some (value, rest)) (some (value, rest ++ more)) := by
  intro _ _ read
  cases read
  rfl

theorem bind {next later : α × List Char → Option (β × List Char)} (first : Extends more own longer)
    (second : ∀ value rest, Extends more (next (value, rest)) (later (value, rest ++ more))) :
    Extends more (own >>= next) (longer >>= later) := by
  intro value rest read
  obtain ⟨⟨middle, between⟩, begun, read⟩ := Option.bind_eq_some_iff.1 read
  exact Option.bind_eq_some_iff.2 ⟨_, first _ _ begun, second _ _ _ _ read⟩

theorem bind_value {value? : Option α} {next later : α → Option (β × List Char)}
    (second : ∀ value, Extends more (next value) (later value)) :
    Extends more (value? >>= next) (value? >>= later) := by
  intro value rest read
  obtain ⟨middle, known, read⟩ := Option.bind_eq_some_iff.1 read
  exact Option.bind_eq_some_iff.2 ⟨_, known, second _ _ _ read⟩

theorem map {change : α → β} (first : Extends more own longer) :
    Extends more (own.map fun (value, rest) => (change value, rest))
      (longer.map fun (value, rest) => (change value, rest)) := by
  intro value rest read
  obtain ⟨_, begun, same⟩ := Option.map_eq_some_iff.1 read
  cases same
  exact Option.map_eq_some_iff.2 ⟨_, first _ _ begun, rfl⟩

end Extends

theorem cons_ne_of_ne {c d : Char} (apart : c ≠ d) (text rest : List Char) :
    c :: text ≠ d :: rest :=
  fun same => apart (List.cons.inj same).1

section Blanks

variable {text rest more tail : List Char} {c : Char}

theorem passBlanks_append {inComment : Bool} (stops : passBlanks inComment text = c :: rest) :
    passBlanks inComment (text ++ more) = c :: (rest ++ more) := by
  induction text generalizing inComment with
  | nil => exact nomatch stops
  | cons d text ih =>
    rw [passBlanks] at stops
    rw [List.cons_append, passBlanks]
    by_cases inside : inComment
    · rw [if_pos inside] at stops ⊢
      exact ih stops
    · rw [if_neg inside] at stops ⊢
      by_cases blank : Unicode.isBlank d
      · rw [if_pos blank] at stops ⊢
        exact ih stops
      · rw [if_neg blank] at stops ⊢
        by_cases sign : d = '#'
        · rw [if_pos sign] at stops ⊢
          exact ih stops
        · rw [if_neg sign] at stops ⊢
          cases stops
          rfl

/-- Behind blanks and complete comments a bracket is seen. -/
theorem passBlanks_append_bracket {inComment : Bool} (all : passBlanks inComment text = [])
    (complete : endsInComment inComment text = false) :
    passBlanks inComment (text ++ ')' :: tail) = ')' :: tail := by
  induction text generalizing inComment with
  | nil =>
    cases complete
    rfl
  | cons d text ih =>
    rw [passBlanks] at all
    rw [endsInComment] at complete
    rw [List.cons_append, passBlanks]
    by_cases inside : inComment
    · rw [if_pos inside] at all complete ⊢
      exact ih all complete
    · rw [if_neg inside] at all complete ⊢
      by_cases blank : Unicode.isBlank d
      · have apart : d ≠ '#' := by
          rintro rfl
          exact nomatch blank
        rw [if_pos blank] at all ⊢
        rw [decide_eq_false apart] at complete
        exact ih all complete
      · rw [if_neg blank] at all ⊢
        by_cases sign : d = '#'
        · rw [if_pos sign] at all ⊢
          rw [decide_eq_true sign] at complete
          exact ih all complete
        · rw [if_neg sign] at all
          exact nomatch all

theorem length_passBlanks_le (inComment : Bool) (text : List Char) :
    (passBlanks inComment text).length ≤ text.length := by
  fun_induction passBlanks inComment text with
  | case1 => exact Nat.le_refl _
  | case2 _ _ ih => exact Nat.le_succ_of_le ih
  | case3 _ _ _ _ _ ih => exact Nat.le_succ_of_le ih
  | case4 _ _ _ _ ih => exact Nat.le_succ_of_le ih
  | case5 => exact Nat.le_refl _

end Blanks

namespace Flags

variable {flags : Flags} {text rest more tail : List Char} {c : Char}

/-- Nothing behind the text is hidden: if only blanks and comments are left of it, the comments are
complete. -/
def Sealed (flags : Flags) (text : List Char) : Prop :=
  flags.skip text = [] → endsInComment false text = false

theorem skip_nil (flags : Flags) : flags.skip [] = [] := by
  unfold skip
  split <;> rfl

theorem ne_nil_of_skip (stops : flags.skip text ≠ []) : text ≠ [] := by
  rintro rfl
  exact stops flags.skip_nil

theorem skip_append_of_cons (stops : flags.skip text = c :: rest) :
    flags.skip (text ++ more) = c :: (rest ++ more) := by
  unfold skip at stops ⊢
  by_cases verbose : flags.verbose
  · rw [if_pos verbose] at stops ⊢
    exact passBlanks_append stops
  · rw [if_neg verbose] at stops ⊢
    rw [stops, List.cons_append]

theorem skip_append_of_ne_nil (stops : flags.skip text ≠ []) :
    flags.skip (text ++ more) = flags.skip text ++ more := by
  obtain ⟨c, rest, found⟩ := List.exists_cons_of_ne_nil stops
  rw [found, skip_append_of_cons found, List.cons_append]

theorem skip_append (isSealed : flags.Sealed text) :
    flags.skip (text ++ ')' :: tail) = flags.skip text ++ ')' :: tail := by
  by_cases all : flags.skip text = []
  · have complete := isSealed all
    rw [all, List.nil_append]
    unfold skip at all ⊢
    by_cases verbose : flags.verbose
    · rw [if_pos verbose] at all ⊢
      exact passBlanks_append_bracket all complete
    · rw [if_neg verbose] at all ⊢
      rw [all, List.nil_append]
  · exact skip_append_of_ne_nil all

theorem take?_extends {count : Nat} :
    Extends more (flags.take? count text) (flags.take? count (text ++ more)) := by
  induction count generalizing text with
  | zero => exact .some
  | succ count ih =>
    unfold take?
    cases found : flags.skip text with
    | nil => exact .none
    | cons c later =>
      rw [skip_append_of_cons found]
      exact .map ih

theorem length_skip_le (flags : Flags) (text : List Char) :
    (flags.skip text).length ≤ text.length := by
  unfold skip
  split
  · exact length_passBlanks_le false text
  · exact Nat.le_refl _

theorem length_le_of_skip {fuel : Nat} (enough : text.length ≤ fuel + 1)
    (found : flags.skip text = c :: rest) : rest.length ≤ fuel := by
  have fewer := flags.length_skip_le text
  rw [found, List.length_cons] at fewer
  omega

/-- A span that ends in the text ends there in a longer one too. -/
theorem span_append {condition : Char → Bool} {fuel further : Nat} {chars : List Char}
    (enough : text.length ≤ fuel) (within : fuel ≤ further)
    (ends : flags.span condition fuel text = (chars, c :: rest)) :
    flags.span condition further (text ++ more) = (chars, c :: (rest ++ more)) := by
  induction fuel generalizing further text chars with
  | zero =>
    cases List.length_eq_zero_iff.1 (Nat.le_zero.1 enough)
    exact nomatch ends
  | succ fuel ih =>
    obtain ⟨further, rfl⟩ := Nat.exists_eq_succ_of_ne_zero (Nat.ne_zero_of_lt within)
    unfold span at ends ⊢
    cases found : flags.skip text with
    | nil =>
      rw [found] at ends
      exact nomatch ends
    | cons d later =>
      rw [found] at ends
      rw [skip_append_of_cons found]
      dsimp only at ends ⊢
      by_cases satisfied : condition d
      · rw [if_pos satisfied] at ends ⊢
        cases inner : flags.span condition fuel later with
        | mk chars behind =>
          rw [inner] at ends
          cases ends
          rw [ih (length_le_of_skip enough found) (Nat.le_of_succ_le_succ within) inner]
      · rw [if_neg satisfied] at ends ⊢
        cases ends
        rfl

theorem span_append_length {condition : Char → Bool} {chars : List Char}
    (ends : flags.span condition text.length text = (chars, c :: rest)) :
    flags.span condition (text ++ more).length (text ++ more) = (chars, c :: (rest ++ more)) := by
  apply span_append (Nat.le_refl _) _ ends
  rw [List.length_append]
  exact Nat.le_add_right ..

theorem braced?_extends : Extends more (flags.braced? text) (flags.braced? (text ++ more)) := by
  intro inner rest read
  unfold braced? at read ⊢
  split at read
  · exact nomatch read
  · rename_i ends
    cases read
    rw [span_append_length ends]

end Flags

section Escapes

variable {flags : Flags} {text rest more tail : List Char}

theorem hexEscape?_extends {width : Nat} (digits : 0 < width) :
    Extends more (hexEscape? flags width text) (hexEscape? flags width (text ++ more)) := by
  obtain ⟨width, rfl⟩ := Nat.exists_eq_succ_of_ne_zero (Nat.ne_zero_of_lt digits)
  unfold hexEscape?
  cases found : flags.skip text with
  | nil =>
    have none : flags.take? (width + 1) [] = none := by
      unfold Flags.take?
      rw [Flags.skip_nil]
    dsimp only
    rw [none]
    exact .none
  | cons c later =>
    rw [Flags.skip_append_of_cons found]
    split
    · rename_i same
      cases same
      refine .bind Flags.braced?_extends fun digits rest => ?_
      exact .bind_value fun c => .some
    · rename_i other
      split
      · rename_i same
        cases same
        exact (other _ rfl).elim
      · refine .bind Flags.take?_extends fun digits rest => ?_
        refine .bind_value fun c => ?_
        split
        · exact .none
        · exact .some

theorem propertyText?_extends :
    Extends more (propertyText? flags text) (propertyText? flags (text ++ more)) := by
  unfold propertyText?
  cases found : flags.skip text with
  | nil => exact .none
  | cons c later =>
    rw [Flags.skip_append_of_cons found]
    split
    · exact .none
    · rename_i same
      cases same
      exact .bind Flags.braced?_extends fun inner rest => .some
    · rename_i other same
      cases same
      split
      · rename_i same
        cases same
      · rename_i same
        cases same
        exact (other rfl).elim
      · rename_i same
        cases same
        exact .some

theorem propertyEscape?_extends {negated : Bool} :
    Extends more (propertyEscape? flags negated text)
      (propertyEscape? flags negated (text ++ more)) := by
  refine .bind propertyText?_extends fun set? rest => ?_
  refine .bind_value fun set => ?_
  split
  · exact .some
  · exact .none

/-- A bracket behind a word boundary does not begin its name. -/
theorem wordBoundary?_extends :
    Extends (')' :: tail) (wordBoundary? flags text)
      (wordBoundary? flags (text ++ ')' :: tail)) := by
  cases text with
  | nil => exact .some
  | cons c text =>
    rw [List.cons_append]
    by_cases brace : c = '\x7b'
    · subst brace
      rw [wordBoundary?, wordBoundary?]
      cases found : flags.skip text with
      | nil => exact .none
      | cons d later =>
        rw [Flags.skip_append_of_cons found]
        dsimp only
        split
        · refine .bind Flags.braced?_extends fun name rest => ?_
          dsimp only
          split
          · exact .some
          · exact .some
          · exact .some
          · exact .some
          · exact .none
        · exact .some
    · rw [wordBoundary?.eq_2 _ _ (cons_ne_of_ne brace _),
        wordBoundary?.eq_2 _ _ (cons_ne_of_ne brace _)]
      exact .some

theorem escape?_extends :
    Extends (')' :: tail) (escape? flags text) (escape? flags (text ++ ')' :: tail)) := by
  cases text with
  | nil => exact .none
  | cons c text =>
    rw [List.cons_append]
    unfold escape?
    dsimp only
    split
    · exact hexEscape?_extends (by decide)
    · exact hexEscape?_extends (by decide)
    · exact hexEscape?_extends (by decide)
    · exact propertyEscape?_extends
    · exact propertyEscape?_extends
    · exact .some
    · exact .some
    · exact .some
    · exact .some
    · exact .some
    · exact .some
    · exact .some
    · exact .some
    · exact wordBoundary?_extends
    · exact .some
    · exact .some
    · exact .some
    · split
      · exact .some
      · cases setOfLetter? flags c with
        | none => exact .none
        | some escape => exact .some

theorem setItem?_extends :
    Extends (')' :: tail) (setItem? flags text) (setItem? flags (text ++ ')' :: tail)) := by
  cases text with
  | nil => exact .none
  | cons c text =>
    rw [List.cons_append]
    unfold setItem?
    split
    · rename_i same
      exact nomatch same
    · rename_i same
      cases same
      refine .bind escape?_extends fun escape rest => ?_
      dsimp only
      split
      · exact .none
      · exact .some
    · rename_i other same
      cases same
      split
      · rename_i same
        exact nomatch same
      · rename_i same
        cases same
        exact (other rfl).elim
      · rename_i same
        cases same
        exact .some

end Escapes

end Reader

end Pattern

end CodeFolding
