import CodeFolding.Pattern.Reader
import CodeFolding.Proofs.Pattern.Reader.Sets

set_option autoImplicit false

namespace CodeFolding

namespace Pattern

namespace Reader

variable {flags : Flags} {text rest more tail : List Char} {c : Char}

theorem greediness_append (text tail : List Char) :
    greediness (text ++ ')' :: tail) =
      ((greediness text).1, (greediness text).2 ++ ')' :: tail) := by
  cases text with
  | nil => rfl
  | cons c text =>
    by_cases sign : c = '?'
    · subst sign
      rfl
    · rw [List.cons_append, greediness.eq_2 _ (cons_ne_of_ne sign _),
        greediness.eq_2 _ (cons_ne_of_ne sign _)]
      rfl

/-- Unless a comment at the end hides the bracket. -/
theorem countedGreediness_append (isSealed : flags.Sealed (countedGreediness flags text).2) :
    countedGreediness flags (text ++ ')' :: tail) =
      ((countedGreediness flags text).1, (countedGreediness flags text).2 ++ ')' :: tail) := by
  unfold countedGreediness at isSealed ⊢
  cases found : flags.skip text with
  | nil =>
    rw [found] at isSealed
    have whole : flags.Sealed text := isSealed
    rw [Flags.skip_append whole, found]
    rfl
  | cons c later =>
    rw [Flags.skip_append_of_cons found]
    by_cases sign : c = '?'
    · subst sign
      rfl
    · split
      · rename_i same
        cases same
        exact (sign rfl).elim
      · split
        · rename_i same
          cases same
          exact (sign rfl).elim
        · rfl

theorem countIn_nil (flags : Flags) : countIn flags [] = (none, []) := by
  unfold countIn
  rw [Flags.skip_nil]
  rfl

/-- A count in front of something else. -/
theorem countIn_append {count : Option Nat} (read : countIn flags text = (count, c :: rest)) :
    countIn flags (text ++ more) = (count, c :: (rest ++ more)) := by
  unfold countIn at read ⊢
  dsimp only at read ⊢
  obtain ⟨counted, left⟩ := Prod.mk.inj read
  cases blanks : (flags.skip text).dropWhile Unicode.isBlank with
  | nil =>
    rw [blanks] at left
    exact nomatch left
  | cons d later =>
    have full : flags.skip text ≠ [] := by
      intro none
      rw [none] at blanks
      exact nomatch blanks
    rw [blanks] at counted left
    rw [Flags.skip_append_of_ne_nil full, dropWhile_append_of_cons blanks]
    cases digits : flags.span Char.isDigit (d :: later).length (d :: later) with
    | mk chars behind =>
      rw [digits] at counted left
      cases behind with
      | nil => exact nomatch left
      | cons e behind =>
        rw [← List.cons_append, Flags.span_append_length digits]
        exact Prod.ext counted (dropWhile_append_of_cons left)

/-- The bounds of a counted repetition behind the comma. -/
def behindComma? (flags : Flags) (least : Nat) (text : List Char) :
    Option (Nat × Option Nat × List Char) :=
  match flags.skip text with
  | '\x7d' :: rest => some (least, none, rest)
  | rest => do
    let (most?, rest) := countIn flags rest
    let most ← most?
    match rest with
    | '\x7d' :: rest => if least ≤ most then return (least, some most, rest) else none
    | _ => none

theorem behindComma?_append {least least' : Nat} {most : Option Nat}
    (read : behindComma? flags least text = some (least', most, rest)) :
    behindComma? flags least (text ++ more) = some (least', most, rest ++ more) := by
  unfold behindComma? at read ⊢
  have full : flags.skip text ≠ [] := by
    intro none
    rw [none] at read
    dsimp only at read
    rw [countIn_nil] at read
    exact nomatch read
  obtain ⟨c, later, found⟩ := List.exists_cons_of_ne_nil full
  rw [found] at read
  rw [Flags.skip_append_of_cons found]
  split at read
  · rename_i same
    cases same
    cases read
    rfl
  · rename_i other
    split
    · rename_i same
      cases same
      exact (other _ rfl).elim
    · cases second : countIn flags (c :: later) with
      | mk most? behind =>
        rw [second] at read
        obtain ⟨value, rfl, ends⟩ := Option.bind_eq_some_iff.1 read
        cases behind with
        | nil => exact nomatch ends
        | cons d behind =>
          rw [← List.cons_append, countIn_append second]
          refine Option.bind_eq_some_iff.2 ⟨value, rfl, ?_⟩
          split at ends
          · rename_i same
            cases same
            split at ends
            · rename_i ordered
              cases ends
              exact if_pos ordered
            · exact nomatch ends
          · exact nomatch ends

theorem bounds?_append {least : Nat} {most : Option Nat}
    (read : bounds? flags text = some (least, most, rest)) :
    bounds? flags (text ++ more) = some (least, most, rest ++ more) := by
  unfold bounds? at read ⊢
  cases first : countIn flags text with
  | mk least? behind =>
    rw [first] at read
    obtain ⟨value, rfl, ends⟩ := Option.bind_eq_some_iff.1 read
    cases behind with
    | nil => exact nomatch ends
    | cons c behind =>
      rw [countIn_append first]
      refine Option.bind_eq_some_iff.2 ⟨value, rfl, ?_⟩
      split at ends
      · rename_i same
        cases same
        cases ends
        rfl
      · rename_i same
        cases same
        exact behindComma?_append ends
      · exact nomatch ends

theorem settings?_append {seen met : List Char} {on : Bool} {set : Flags}
    (read : settings? flags seen on text = some (set, met, rest)) :
    settings? flags seen on (text ++ more) = some (set, met, rest ++ more) := by
  induction text generalizing flags seen on with
  | nil => exact nomatch read
  | cons c text ih =>
    rw [List.cons_append]
    unfold settings? at read ⊢
    split at read
    · rename_i ends
      rw [if_pos ends]
      split at read
      · exact nomatch read
      · rename_i shown
        cases read
        rw [if_neg shown]
        rfl
    · rename_i goes
      rw [if_neg goes]
      split at read
      · exact nomatch read
      · rename_i unseen
        rw [if_neg unseen]
        split at read
        · exact ih read
        · exact ih read
        · exact ih read
        · exact ih read
        · exact ih read
        · exact ih read
        · exact ih read
        · exact ih read
        · exact nomatch read

end Reader

end Pattern

end CodeFolding
