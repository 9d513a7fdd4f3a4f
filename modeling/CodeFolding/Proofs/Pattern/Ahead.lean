import CodeFolding.Proofs.Pattern.Backtrack

set_option autoImplicit false

namespace CodeFolding

namespace Plan

/-- The characters from a position on. -/
def ahead (input : Array Char) (position : Nat) : List Char :=
  input.toList.drop position

/-- The same match, some characters further on. -/
def Progress.forward (progress : Progress) (count : Nat) : Progress :=
  { progress with position := progress.position + count }

theorem Progress.forward_one (progress : Progress) (count : Nat) :
    (progress.forward 1).forward count = progress.forward (count + 1) := by
  rw [forward, forward, forward, Nat.add_assoc, Nat.add_comm 1]

section Texts

variable {input : Array Char} {position : Nat}

theorem ahead_zero (input : Array Char) : ahead input 0 = input.toList :=
  List.drop_zero

theorem ahead_add (input : Array Char) (position count : Nat) :
    ahead input (position + count) = (ahead input position).drop count :=
  List.drop_drop.symm

theorem ahead_of_append {front rest : List Char} (here : ahead input position = front ++ rest) :
    ahead input (position + front.length) = rest := by
  rw [ahead_add, here, List.drop_left]

theorem ahead_of_cons {c : Char} {rest : List Char} (here : ahead input position = c :: rest) :
    ahead input (position + 1) = rest :=
  ahead_of_append (show ahead input position = [c] ++ rest from here)

theorem length_ahead (input : Array Char) (position : Nat) :
    (ahead input position).length = input.size - position := by
  rw [ahead, List.length_drop, Array.length_toList]

theorem getElem?_eq_head?_ahead (input : Array Char) (position : Nat) :
    input[position]? = (ahead input position).head? := by
  rw [ahead, List.head?_drop, Array.getElem?_toList]

theorem ahead_of_suffix {front rest : List Char} (whole : input.toList = front ++ rest) :
    ahead input (input.size - rest.length) = rest := by
  have size := congrArg List.length whole
  rw [Array.length_toList, List.length_append] at size
  have start : input.size - rest.length = front.length := by omega
  rw [start, ahead, whole, List.drop_left]

theorem le_size_of_ahead (filled : ahead input position ≠ []) : position ≤ input.size := by
  have positive := List.length_pos_iff.2 filled
  rw [length_ahead] at positive
  omega

theorem lt_size_of_ahead {c : Char} {rest : List Char} (here : ahead input position = c :: rest) :
    position < input.size := by
  have length := length_ahead input position
  rw [here, List.length_cons] at length
  omega

theorem hasText_iff (chars : List Char) (position : Nat) :
    hasText input chars position = true ↔ ∃ rest, ahead input position = chars ++ rest := by
  induction chars generalizing position with
  | nil => exact ⟨fun _ => ⟨_, rfl⟩, fun _ => rfl⟩
  | cons c chars ih =>
    rw [hasText, Bool.and_eq_true, beq_iff_eq, getElem?_eq_head?_ahead, ih]
    constructor
    · rintro ⟨first, rest, behind⟩
      obtain ⟨more, here⟩ := List.head?_eq_some_iff.1 first
      rw [ahead_of_cons here] at behind
      exact ⟨rest, by rw [here, behind, List.cons_append]⟩
    · rintro ⟨rest, here⟩
      rw [List.cons_append] at here
      exact ⟨by rw [here, List.head?_cons], rest, ahead_of_cons here⟩

end Texts

section Firsts

variable {α : Type} {input : Array Char} {progress : Progress} {next : Progress → Option α}
  {value : α}

theorem seek_text_iff (chars : List Char) :
    (text chars).seek input progress next = some value ↔
      (∃ rest, ahead input progress.position = chars ++ rest) ∧
        next (progress.forward chars.length) = some value := by
  rw [← hasText_iff]
  unfold seek
  split
  · rename_i here
    exact (and_iff_right here).symm
  · rename_i elsewhere
    exact iff_of_false (Option.some_ne_none value).symm fun both => elsewhere both.1

theorem seek_oneOf_of_mem {set : Charset} {c : Char} {rest : List Char}
    (here : ahead input progress.position = c :: rest) (member : set.contains c = true) :
    (oneOf set).seek input progress next = next (progress.forward 1) := by
  have found : input[progress.position]?.any set.contains = true := by
    rw [getElem?_eq_head?_ahead, here, List.head?_cons, Option.any_some, member]
  rw [seek, if_pos found]
  rfl

theorem seek_oneOf_of_not_mem {set : Charset}
    (stops : ∀ c rest, ahead input progress.position = c :: rest → set.contains c = false) :
    (oneOf set).seek input progress next = none := by
  rw [seek, if_neg]
  rw [getElem?_eq_head?_ahead, Option.any_eq_true]
  rintro ⟨c, first, member⟩
  obtain ⟨rest, here⟩ := List.head?_eq_some_iff.1 first
  exact Bool.false_ne_true ((stops c rest here).symm.trans member)

theorem seek_oneOf_iff (set : Charset) :
    (oneOf set).seek input progress next = some value ↔
      (∃ c rest, ahead input progress.position = c :: rest ∧ set.contains c = true) ∧
        next (progress.forward 1) = some value := by
  by_cases fits : ∃ c rest, ahead input progress.position = c :: rest ∧ set.contains c = true
  · obtain ⟨c, rest, here, member⟩ := fits
    rw [seek_oneOf_of_mem here member]
    exact ⟨fun ends => ⟨⟨c, rest, here, member⟩, ends⟩, And.right⟩
  · have stops : ∀ c rest, ahead input progress.position = c :: rest →
        set.contains c = false := fun c rest here =>
      Bool.eq_false_iff.2 fun member => fits ⟨c, rest, here, member⟩
    rw [seek_oneOf_of_not_mem stops]
    exact iff_of_false (Option.some_ne_none value).symm fun both => fits both.1

variable {mark : Nat} {set : Charset} {greedy : Bool}

/-- In front of a character of the set, a repetition takes it and goes on, or stops. -/
theorem seek_star_of_mem {c : Char} {rest : List Char}
    (here : ahead input progress.position = c :: rest) (member : set.contains c = true) :
    (star mark (oneOf set) greedy).seek input progress next =
      if greedy then
        ((star mark (oneOf set) greedy).seek input (progress.forward 1) next).or (next progress)
      else
        (next progress).or
          ((star mark (oneOf set) greedy).seek input (progress.forward 1) next) := by
  have known := lt_size_of_ahead here
  have fuel : input.size + 1 - progress.position =
      (input.size + 1 - (progress.forward 1).position) + 1 := by
    dsimp only [Progress.forward]
    omega
  rw [seek, fuel, seekRounds, seek_oneOf_of_mem here member]
  rfl

theorem seek_star_of_not_mem (inside : progress.position ≤ input.size)
    (stops : ∀ c rest, ahead input progress.position = c :: rest → set.contains c = false) :
    (star mark (oneOf set) greedy).seek input progress next = next progress := by
  have fuel : input.size + 1 - progress.position = (input.size - progress.position) + 1 := by
    omega
  rw [seek, fuel, seekRounds, seek_oneOf_of_not_mem stops]
  split
  · exact Option.none_or
  · exact Option.or_none

/-- How many characters of the set are ahead, up to the first other one. -/
def runLength (input : Array Char) (set : Charset) (position : Nat) : Nat :=
  ((ahead input position).takeWhile set.contains).length

theorem run_cases (input : Array Char) (set : Charset) (position : Nat) :
    (runLength input set position = 0 ∧
      ∀ c rest, ahead input position = c :: rest → set.contains c = false) ∨
    ∃ c rest, ahead input position = c :: rest ∧ set.contains c = true ∧
      runLength input set position = runLength input set (position + 1) + 1 := by
  unfold runLength
  cases chars : ahead input position with
  | nil => exact Or.inl ⟨rfl, fun c rest here => nomatch here⟩
  | cons first more =>
    by_cases member : set.contains first = true
    · refine Or.inr ⟨first, more, rfl, member, ?_⟩
      rw [List.takeWhile_cons_of_pos member, List.length_cons, ahead_of_cons chars]
    · refine Or.inl ⟨by rw [List.takeWhile_cons_of_neg member, List.length_nil], ?_⟩
      rintro c rest ⟨⟩
      exact Bool.eq_false_iff.2 member

/-- A run is as long as the characters of the set that stand in front of another one. -/
theorem runLength_of_append {position : Nat} {front rest : List Char}
    (here : ahead input position = front ++ rest) (all : ∀ c ∈ front, set.contains c = true)
    (stops : ∀ c ∈ rest.head?, set.contains c = false) :
    runLength input set position = front.length := by
  have none : rest.takeWhile set.contains = [] := by
    cases rest with
    | nil => rfl
    | cons c rest =>
      exact List.takeWhile_cons_of_neg (Bool.eq_false_iff.1 (stops c rfl))
  rw [runLength, here, List.takeWhile_append_of_pos all, none, List.append_nil]

theorem add_runLength_le {position : Nat} (inside : position ≤ input.size) :
    position + runLength input set position ≤ input.size := by
  have bound := (List.takeWhile_prefix (l := ahead input position) set.contains).length_le
  rw [length_ahead] at bound
  unfold runLength
  omega

theorem ahead_runLength (input : Array Char) (set : Charset) (position : Nat) :
    ahead input (position + runLength input set position) =
      (ahead input position).dropWhile set.contains :=
  ahead_of_append List.takeWhile_append_dropWhile.symm

/-- Inside a run stand characters of the set. -/
theorem ahead_of_lt_runLength {position count : Nat}
    (inRun : count < runLength input set position) :
    ∃ c rest, ahead input (position + count) = c :: rest ∧ set.contains c = true := by
  induction count generalizing position with
  | zero =>
    obtain ⟨none, -⟩ | ⟨c, rest, here, member, -⟩ := run_cases input set position
    · omega
    · exact ⟨c, rest, here, member⟩
  | succ count ih =>
    obtain ⟨none, -⟩ | ⟨-, -, -, -, more⟩ := run_cases input set position
    · omega
    · have later := @ih (position + 1) (by omega)
      rwa [Nat.add_assoc, Nat.add_comm 1] at later

/-- Another character ahead is still ahead inside a run, and behind it. -/
theorem mem_ahead_of_le_runLength {position count : Nat} {c : Char}
    (member : c ∈ ahead input position) (other : set.contains c = false)
    (inRun : count ≤ runLength input set position) : c ∈ ahead input (position + count) := by
  induction count generalizing position with
  | zero => exact member
  | succ count ih =>
    obtain ⟨none, -⟩ | ⟨first, rest, here, inSet, more⟩ := run_cases input set position
    · omega
    · have further : c ∈ ahead input (position + 1) := by
        rw [ahead_of_cons here]
        rw [here] at member
        refine (List.mem_cons.1 member).resolve_left ?_
        rintro rfl
        exact Bool.false_ne_true (other.symm.trans inSet)
      have later := @ih (position + 1) further (by omega)
      rwa [Nat.add_assoc, Nat.add_comm 1] at later

/-- A repetition fails if the rest fails behind every number of rounds. -/
theorem seek_star_eq_none_iff (inside : progress.position ≤ input.size) :
    (star mark (oneOf set) greedy).seek input progress next = none ↔
      ∀ count ≤ runLength input set progress.position, next (progress.forward count) = none := by
  induction counted : runLength input set progress.position generalizing progress with
  | zero =>
    obtain ⟨-, stops⟩ | ⟨c, rest, -, -, more⟩ := run_cases input set progress.position
    · rw [seek_star_of_not_mem inside stops]
      constructor
      · intro fails count none
        rw [Nat.le_zero.1 none]
        exact fails
      · exact fun all => all 0 (Nat.le_refl 0)
    · omega
  | succ longest ih =>
    obtain ⟨none, -⟩ | ⟨c, rest, here, member, more⟩ := run_cases input set progress.position
    · omega
    · have behind := @ih (progress.forward 1) (lt_size_of_ahead here) (by
        dsimp only [Progress.forward]
        omega)
      have both : (star mark (oneOf set) greedy).seek input progress next = none ↔
          next progress = none ∧
            (star mark (oneOf set) greedy).seek input (progress.forward 1) next = none := by
        rw [seek_star_of_mem here member]
        split
        · rw [Option.or_eq_none_iff, and_comm]
        · rw [Option.or_eq_none_iff]
      rw [both, behind]
      constructor
      · rintro ⟨fails, later⟩ count known
        cases count with
        | zero => exact fails
        | succ count =>
          rw [← Progress.forward_one]
          exact later count (Nat.le_of_succ_le_succ known)
      · intro all
        refine ⟨all 0 (Nat.zero_le _), fun count known => ?_⟩
        rw [Progress.forward_one]
        exact all (count + 1) (Nat.succ_le_succ known)

/-- A greedy repetition takes the whole run if the rest succeeds behind it. -/
theorem seek_star_greedy (inside : progress.position ≤ input.size)
    (ends : next (progress.forward (runLength input set progress.position)) = some value) :
    (star mark (oneOf set) true).seek input progress next = some value := by
  induction counted : runLength input set progress.position generalizing progress with
  | zero =>
    obtain ⟨-, stops⟩ | ⟨c, rest, -, -, more⟩ := run_cases input set progress.position
    · rw [counted] at ends
      rw [seek_star_of_not_mem inside stops]
      exact ends
    · omega
  | succ longest ih =>
    obtain ⟨none, -⟩ | ⟨c, rest, here, member, more⟩ := run_cases input set progress.position
    · omega
    · have further : runLength input set (progress.forward 1).position = longest := by
        dsimp only [Progress.forward]
        omega
      have later := @ih (progress.forward 1) (lt_size_of_ahead here) (by
        rw [further, Progress.forward_one, ← counted]
        exact ends) further
      rw [seek_star_of_mem here member, if_pos rfl, later, Option.some_or]

/-- Where the rest fails in front of every character of the set, a greedy repetition takes the whole
run or fails. -/
theorem seek_star_whole (inside : progress.position ≤ input.size)
    (fails : ∀ count < runLength input set progress.position,
      next (progress.forward count) = none) :
    (star mark (oneOf set) true).seek input progress next =
      next (progress.forward (runLength input set progress.position)) := by
  cases ends : next (progress.forward (runLength input set progress.position)) with
  | some value => exact seek_star_greedy inside ends
  | none =>
    refine (seek_star_eq_none_iff inside).2 fun count known => ?_
    rcases Nat.lt_or_eq_of_le known with fewer | rfl
    · exact fails count fewer
    · exact ends

/-- A lazy repetition stops at the first place where the rest succeeds. -/
theorem seek_star_lazy (count : Nat) (inside : progress.position ≤ input.size)
    (known : count ≤ runLength input set progress.position)
    (ends : next (progress.forward count) = some value)
    (fails : ∀ fewer < count, next (progress.forward fewer) = none) :
    (star mark (oneOf set) false).seek input progress next = some value := by
  induction count generalizing progress with
  | zero =>
    obtain ⟨-, stops⟩ | ⟨c, rest, here, member, -⟩ := run_cases input set progress.position
    · rw [seek_star_of_not_mem inside stops]
      exact ends
    · have first : next progress = some value := ends
      rw [seek_star_of_mem here member, if_neg Bool.false_ne_true, first, Option.some_or]
  | succ count ih =>
    obtain ⟨none, -⟩ | ⟨c, rest, here, member, more⟩ := run_cases input set progress.position
    · omega
    · have first : next progress = none := fails 0 (Nat.succ_pos count)
      have later := @ih (progress.forward 1) (lt_size_of_ahead here) (by
        dsimp only [Progress.forward]
        omega) (by
        rw [Progress.forward_one]
        exact ends) (by
        intro fewer less
        rw [Progress.forward_one]
        exact fails (fewer + 1) (Nat.succ_lt_succ less))
      rw [seek_star_of_mem here member, if_neg Bool.false_ne_true, first, Option.none_or, later]

end Firsts

end Plan

end CodeFolding
