import CodeFolding.Proofs.Cursor

set_option autoImplicit false

namespace CodeFolding

namespace Token

/-- Tokens that are not empty and stand one behind the other. -/
structure Spaced (tokens : List Token) : Prop where
  filled : ∀ token ∈ tokens, token.start < token.stop
  apart : tokens.Pairwise fun left right => left.stop ≤ right.start

theorem select_spaced {tokens : List Token} (ordered : Ordered tokens) (length covered : Nat) :
    Spaced (select length covered tokens) ∧
      ∀ token ∈ select length covered tokens, covered ≤ token.start := by
  induction tokens generalizing covered with
  | nil => exact ⟨⟨fun token member => absurd member List.not_mem_nil, List.Pairwise.nil⟩,
      fun token member => absurd member List.not_mem_nil⟩
  | cons first rest ih =>
    have later := ih fun token member => ordered token (List.mem_cons_of_mem first member)
    unfold select
    split
    · exact later covered
    · rename_i usable
      simp only [Span.isEmpty, Bool.or_eq_true, beq_iff_eq, decide_eq_true_eq, not_or] at usable
      obtain ⟨spaced, behind⟩ := later first.stop
      have inOrder := ordered first List.mem_cons_self
      refine ⟨⟨?_, List.Pairwise.cons behind spaced.apart⟩, ?_⟩
      · intro token member
        rcases List.mem_cons.1 member with rfl | further
        · omega
        · exact spaced.filled token further
      · intro token member
        rcases List.mem_cons.1 member with rfl | further
        · omega
        · have start := behind token further
          omega

theorem Ordered.arrange_spaced {tokens : List Token} (ordered : Ordered tokens) (length : Nat) :
    Spaced (arrange length tokens) := by
  refine (select_spaced ?_ length 0).1
  intro token member
  exact ordered token (List.mem_mergeSort.1 member)

namespace Spaced

variable {tokens : List Token} {first second : Token}

theorem cases_of_ne (spaced : Spaced tokens) (one : first ∈ tokens) (two : second ∈ tokens)
    (different : first ≠ second) : first.stop ≤ second.start ∨ second.stop ≤ first.start := by
  obtain ⟨i, iKnown, rfl⟩ := List.getElem_of_mem one
  obtain ⟨j, jKnown, rfl⟩ := List.getElem_of_mem two
  rcases Nat.lt_trichotomy i j with before | same | behind
  · exact Or.inl (List.pairwise_iff_getElem.1 spaced.apart i j iKnown jKnown before)
  · subst same
    exact absurd rfl different
  · exact Or.inr (List.pairwise_iff_getElem.1 spaced.apart j i jKnown iKnown behind)

theorem eq_of_overlap (spaced : Spaced tokens) (one : first ∈ tokens) (two : second ∈ tokens)
    (left : first.start < second.stop) (right : second.start < first.stop) : first = second := by
  apply Decidable.byContradiction
  intro different
  rcases spaced.cases_of_ne one two different with apart | apart <;> omega

theorem stop_le_of_start_lt (spaced : Spaced tokens) (one : first ∈ tokens)
    (two : second ∈ tokens) (before : first.start < second.start) :
    first.stop ≤ second.start := by
  have different : first ≠ second := by
    rintro rfl
    omega
  have filled := spaced.filled second two
  rcases spaced.cases_of_ne one two different with apart | apart <;> omega

end Spaced

/-- Dropping the tokens in front of a position from tokens in order drops all of them. -/
theorem dropWhile_eq_filter {tokens : List Token} (spaced : Spaced tokens) (position : Nat) :
    tokens.dropWhile (fun token => token.start < position) =
      tokens.filter fun token => position ≤ token.start := by
  induction tokens with
  | nil => rfl
  | cons first rest ih =>
    obtain ⟨behind, apart⟩ := List.pairwise_cons.1 spaced.apart
    have later := ih ⟨fun token member => spaced.filled token (List.mem_cons_of_mem first member),
      apart⟩
    by_cases before : first.start < position
    · rw [List.dropWhile_cons_of_pos (by simpa using before), later,
        List.filter_cons_of_neg (by simpa using before)]
    · have all : rest.filter (fun token => position ≤ token.start) = rest := by
        apply List.filter_eq_self.2
        intro token member
        have filled := spaced.filled first List.mem_cons_self
        have start := behind token member
        simp only [decide_eq_true_eq]
        omega
      rw [List.dropWhile_cons_of_neg (by simpa using before),
        List.filter_cons_of_pos (by simpa using before), all]

end Token

namespace Cursor

open Token (Spaced)

/-- A cursor on its way along tokens that stand one behind the other. -/
structure Walks (kept : List Token) (cursor : Cursor) : Prop where
  ahead_eq : cursor.ahead = kept.filter fun token => cursor.position < token.start
  current_iff : ∀ token, cursor.token? = some token ↔
    token ∈ kept ∧ token.start ≤ cursor.position ∧ cursor.position < token.stop

section Settle

variable {kept ahead : List Token} {document : Document} {position : Nat}
  {current : Option Token}

/-- The token that begins at a position covers it, and the others stand behind. -/
theorem walks_of_begins {token : Token} {rest : List Token} (spaced : Spaced kept)
    (found : (kept.filter fun token => position ≤ token.start) = token :: rest)
    (here : token.start = position) : Walks kept ⟨document, rest, position, some token⟩ := by
  have first : token ∈ kept.filter fun token => position ≤ token.start :=
    found ▸ List.mem_cons_self
  have member := (List.mem_filter.1 first).1
  have filled := spaced.filled token member
  have part : (token :: rest).Sublist kept := found ▸ List.filter_sublist
  have behind := (List.pairwise_cons.1 (spaced.apart.sublist part)).1
  constructor
  · have all : (rest.filter fun token => position < token.start) = rest := by
      apply List.filter_eq_self.2
      intro other later
      have start := behind other later
      simp only [decide_eq_true_eq]
      omega
    have skipped : (token :: rest).filter (fun token => position < token.start) =
        rest.filter fun token => position < token.start := by
      apply List.filter_cons_of_neg
      simp only [decide_eq_true_eq]
      omega
    show rest = kept.filter fun token => position < token.start
    calc rest = rest.filter (fun token => position < token.start) := all.symm
      _ = (kept.filter fun token => position ≤ token.start).filter
          (fun token => position < token.start) := by rw [found, skipped]
      _ = kept.filter fun token => position < token.start := by
        rw [List.filter_filter]
        apply List.filter_congr
        intro other _
        rw [← Bool.decide_and, decide_eq_decide]
        omega
  · intro other
    show some token = some other ↔ other ∈ kept ∧ other.start ≤ position ∧ position < other.stop
    rw [Option.some.injEq]
    constructor
    · rintro rfl
      exact ⟨member, by omega, by omega⟩
    · rintro ⟨isKept, before, inside⟩
      exact spaced.eq_of_overlap member isKept (by omega) (by omega)

/-- If no token begins at a position, the one that covers it began further in front. -/
theorem walks_of_between (document : Document) (none : ∀ token ∈ kept, token.start ≠ position)
    (old : ∀ token, current = some token ∧ position < token.stop ↔
      token ∈ kept ∧ token.start < position ∧ position < token.stop) :
    Walks kept ⟨document, kept.filter fun token => position ≤ token.start, position,
      current.filter fun token => position < token.stop⟩ := by
  constructor
  · apply List.filter_congr
    intro token member
    have start := none token member
    simp only [decide_eq_decide]
    omega
  · intro token
    show (current.filter fun token => position < token.stop) = some token ↔
      token ∈ kept ∧ token.start ≤ position ∧ position < token.stop
    rw [Option.filter_eq_some_iff, decide_eq_true_eq, old token]
    constructor
    · rintro ⟨member, before, inside⟩
      exact ⟨member, Nat.le_of_lt before, inside⟩
    · rintro ⟨member, before, inside⟩
      have start := none token member
      exact ⟨member, by omega, inside⟩

/-- Settling at a position takes up the token that covers it. -/
theorem settle_walks (spaced : Spaced kept)
    (further : ahead.dropWhile (fun token => token.start < position) =
      kept.filter fun token => position ≤ token.start)
    (old : ∀ token, current = some token ∧ position < token.stop ↔
      token ∈ kept ∧ token.start < position ∧ position < token.stop) :
    Walks kept (settle document ahead position current) := by
  have members : ∀ token ∈ kept, token.start = position →
      token ∈ kept.filter fun token => position ≤ token.start := by
    intro token member here
    rw [List.mem_filter, decide_eq_true_eq]
    exact ⟨member, by omega⟩
  unfold settle
  dsimp only
  rw [further]
  cases found : kept.filter fun token => position ≤ token.start with
  | nil =>
    have none : ∀ token ∈ kept, token.start ≠ position := by
      intro token member here
      have inFilter := members token member here
      rw [found] at inFilter
      exact absurd inFilter List.not_mem_nil
    have walks := walks_of_between document none old
    rw [found] at walks
    exact walks
  | cons token rest =>
    dsimp only
    split
    · rename_i here
      exact walks_of_begins spaced found here
    · rename_i elsewhere
      have none : ∀ other ∈ kept, other.start ≠ position := by
        intro other member here
        have inFilter := members other member here
        rw [found] at inFilter
        rcases List.mem_cons.1 inFilter with rfl | later
        · exact elsewhere here
        · have part : (token :: rest).Sublist kept := found ▸ List.filter_sublist
          have start := (List.pairwise_cons.1 (spaced.apart.sublist part)).1 other later
          have first := part.subset List.mem_cons_self
          have filled := spaced.filled token first
          have notBefore : token ∈ kept.filter fun token => position ≤ token.start :=
            found ▸ List.mem_cons_self
          rw [List.mem_filter, decide_eq_true_eq] at notBefore
          omega
      have walks := walks_of_between document none old
      rw [found] at walks
      exact walks

end Settle

theorem ofTokens_walks (document : Document) {tokens : List Token}
    (ordered : Token.Ordered tokens) :
    Walks (Token.arrange document.length tokens) (ofTokens document tokens) := by
  have spaced := ordered.arrange_spaced document.length
  refine settle_walks spaced (Token.dropWhile_eq_filter spaced 0) ?_
  intro token
  constructor
  · rintro ⟨none, -⟩
    exact nomatch none
  · rintro ⟨-, before, -⟩
    exact absurd before (Nat.not_lt_zero _)

namespace Walks

variable {kept : List Token} {cursor next : Cursor} {token : Token}

theorem position_lt_nextPosition (walks : cursor.Walks kept) :
    cursor.position < cursor.nextPosition := by
  unfold nextPosition
  split
  · rename_i token here
    have inside := ((walks.current_iff token).1 here).2.2
    split <;> omega
  · omega

/-- No token begins between a position and the next one. -/
theorem start_le_of_lt_nextPosition (walks : cursor.Walks kept) (spaced : Spaced kept)
    (member : token ∈ kept) (before : token.start < cursor.nextPosition) :
    token.start ≤ cursor.position := by
  apply Decidable.byContradiction
  intro behind
  unfold nextPosition at before
  split at before
  · rename_i current here
    obtain ⟨isKept, start, inside⟩ := (walks.current_iff current).1 here
    have ends := spaced.stop_le_of_start_lt isKept member (by omega)
    split at before <;> omega
  · omega

theorem advance (walks : cursor.Walks kept) (spaced : Spaced kept)
    (moved : cursor.advance? = some next) : next.Walks kept := by
  obtain ⟨-, rfl⟩ := (advance?_eq_some_iff cursor next).1 moved
  have forward := walks.position_lt_nextPosition
  have aheadSpaced : Spaced cursor.ahead := by
    rw [walks.ahead_eq]
    exact ⟨fun token member => spaced.filled token (List.mem_filter.1 member).1,
      spaced.apart.sublist List.filter_sublist⟩
  refine settle_walks spaced ?_ ?_
  · rw [Token.dropWhile_eq_filter aheadSpaced, walks.ahead_eq, List.filter_filter]
    apply List.filter_congr
    intro token _
    rw [← Bool.decide_and, decide_eq_decide]
    omega
  · intro token
    constructor
    · rintro ⟨here, inside⟩
      obtain ⟨member, start, -⟩ := (walks.current_iff token).1 here
      exact ⟨member, by omega, inside⟩
    · rintro ⟨member, before, inside⟩
      have start := walks.start_le_of_lt_nextPosition spaced member before
      exact ⟨(walks.current_iff token).2 ⟨member, start, by omega⟩, inside⟩

/-- A token that begins at or behind a position and in front of the next one is current there. -/
theorem current_of_start (walks : cursor.Walks kept) (spaced : Spaced kept)
    (moved : cursor.advance? = some next) (member : token ∈ kept)
    (behind : cursor.position ≤ token.start) (before : token.start < next.position) :
    cursor.token? = some token ∧ token.start = cursor.position := by
  rw [position_of_advance? moved] at before
  have start := walks.start_le_of_lt_nextPosition spaced member before
  have filled := spaced.filled token member
  exact ⟨(walks.current_iff token).2 ⟨member, start, by omega⟩, by omega⟩

end Walks

end Cursor

end CodeFolding
