import CodeFolding.Proofs.Cursor
import CodeFolding.Proofs.Lines.Prepend

set_option autoImplicit false

namespace CodeFolding

namespace Token

/-- The token with both bounds moved on. -/
def lower (count : Nat) (token : Token) : Token :=
  { token with toSpan := token.toSpan.lower count }

@[simp] theorem lower_start (count : Nat) (token : Token) :
    (token.lower count).start = count + token.start := rfl

@[simp] theorem lower_stop (count : Nat) (token : Token) :
    (token.lower count).stop = count + token.stop := rfl

@[simp] theorem lower_kind (count : Nat) (token : Token) :
    (token.lower count).kind = token.kind := rfl

theorem select_lower (count length covered : Nat) (tokens : List Token) :
    select (count + length) (count + covered) (tokens.map (lower count)) =
      (select length covered tokens).map (lower count) := by
  induction tokens generalizing covered with
  | nil => rfl
  | cons token rest ih =>
    have same : ((token.lower count).isEmpty ||
        decide (count + length < (token.lower count).stop) ||
        decide ((token.lower count).start < count + covered)) =
          (token.isEmpty || decide (length < token.stop) || decide (token.start < covered)) := by
      rw [Bool.eq_iff_iff]
      simp only [Span.isEmpty, lower_start, lower_stop, Bool.or_eq_true, beq_iff_eq,
        decide_eq_true_eq, Nat.add_left_cancel_iff, Nat.add_lt_add_iff_left]
    rw [List.map_cons, select, same, select]
    split
    · exact ih covered
    · rw [List.map_cons, lower_stop, ih token.stop]

/-- In front of all tokens nothing is covered, wherever that is counted from. -/
theorem select_of_le (length covered : Nat) {tokens : List Token}
    (behind : ∀ token ∈ tokens, covered ≤ token.start) :
    select length 0 tokens = select length covered tokens := by
  induction tokens with
  | nil => rfl
  | cons token rest ih =>
    have start := behind token List.mem_cons_self
    have later := ih fun other member => behind other (List.mem_cons_of_mem token member)
    rw [select, select, decide_eq_false (Nat.not_lt_zero _), decide_eq_false (Nat.not_lt.2 start),
      later]

theorem arrange_lower (count length : Nat) (tokens : List Token) :
    arrange (count + length) (tokens.map (lower count)) =
      (arrange length tokens).map (lower count) := by
  have sorted : (tokens.map (lower count)).mergeSort
      (fun left right => left.toSpan.le right.toSpan) =
        (tokens.mergeSort fun left right => left.toSpan.le right.toSpan).map (lower count) := by
    refine (List.map_mergeSort fun left _ right _ => ?_).symm
    rw [Bool.eq_iff_iff]
    simp only [Span.le, lower_start, lower_stop, Bool.or_eq_true, Bool.and_eq_true, beq_iff_eq,
      decide_eq_true_eq, Nat.add_left_cancel_iff, Nat.add_lt_add_iff_left, Nat.add_le_add_iff_left]
  have behind : ∀ token ∈ (tokens.mergeSort fun left right =>
      left.toSpan.le right.toSpan).map (lower count), count + 0 ≤ token.start := by
    intro token member
    obtain ⟨old, -, rfl⟩ := List.mem_map.1 member
    exact Nat.le_add_right count old.start
  rw [arrange, sorted, select_of_le _ _ behind, select_lower, arrange]

end Token

namespace Cursor

variable {head : List Char}

/-- The cursor at the same place of the text with `head` in front of it. -/
def prepend (head : List Char) (cursor : Cursor) : Cursor where
  document := cursor.document.prepend head
  ahead := cursor.ahead.map (Token.lower head.length)
  position := head.length + cursor.position
  token? := cursor.token?.map (Token.lower head.length)

theorem settle_prepend (document : Document) (ahead : List Token) (position : Nat)
    (current : Option Token) :
    settle (document.prepend head) (ahead.map (Token.lower head.length)) (head.length + position)
        (current.map (Token.lower head.length)) =
      (settle document ahead position current).prepend head := by
  have dropped : (ahead.map (Token.lower head.length)).dropWhile
      (fun token => token.start < head.length + position) =
        (ahead.dropWhile fun token => token.start < position).map (Token.lower head.length) := by
    rw [List.dropWhile_map]
    simp only [Function.comp_def, Token.lower_start, Nat.add_lt_add_iff_left]
  have kept : ((current.map (Token.lower head.length)).filter
      fun token => head.length + position < token.stop) =
        (current.filter fun token => position < token.stop).map (Token.lower head.length) := by
    cases current with
    | none => rfl
    | some token =>
      simp only [Option.map_some, Option.filter_some, Token.lower_stop, Nat.add_lt_add_iff_left]
      split <;> rfl
  unfold settle
  dsimp only
  rw [dropped, kept]
  cases ahead.dropWhile fun token => token.start < position with
  | nil => rfl
  | cons token rest =>
    simp only [List.map_cons, Token.lower_start, Nat.add_left_cancel_iff]
    split <;> rfl

@[simp] theorem nextPosition_prepend (cursor : Cursor) :
    (cursor.prepend head).nextPosition = head.length + cursor.nextPosition := by
  unfold nextPosition prepend
  cases cursor.token? with
  | none => exact Nat.add_assoc ..
  | some token =>
    simp only [Option.map_some, Token.lower_kind, Token.lower_stop, Nat.add_assoc]
    split <;> rfl

theorem advance?_prepend (cursor : Cursor) :
    (cursor.prepend head).advance? = cursor.advance?.map (prepend head) := by
  have ended : (cursor.prepend head).atEnd = cursor.atEnd := by
    simp only [atEnd, prepend, Document.length_prepend, Nat.add_le_add_iff_left]
  rw [advance?, advance?, ended, nextPosition_prepend]
  split
  · rfl
  · exact congrArg some (settle_prepend ..)

@[simp] theorem char?_prepend (cursor : Cursor) :
    (cursor.prepend head).char? = cursor.char? :=
  Document.charAt?_prepend ..

/-- A cursor on top of moved tokens, `passed` characters into what was put there. -/
def above (head : List Char) (document : Document) (tokens : List Token) (passed : Nat) :
    Cursor where
  document := document.prepend head
  ahead := (Token.arrange document.length tokens).map (Token.lower head.length)
  position := passed
  token? := none

/-- As long as a cursor has not passed what was put on top, it meets no token. -/
theorem settle_above (document : Document) (tokens : List Token) {passed : Nat}
    (before : passed < head.length) :
    settle (document.prepend head)
        ((Token.arrange document.length tokens).map (Token.lower head.length)) passed none =
      above head document tokens passed := by
  have behind : ∀ token ∈ (Token.arrange document.length tokens).map (Token.lower head.length),
      passed < token.start := by
    intro token member
    obtain ⟨old, -, rfl⟩ := List.mem_map.1 member
    rw [Token.lower_start]
    omega
  unfold above
  generalize (Token.arrange document.length tokens).map (Token.lower head.length) = ahead at behind
  unfold settle
  cases ahead with
  | nil => rfl
  | cons token rest =>
    have start := behind token List.mem_cons_self
    dsimp only
    rw [List.dropWhile_cons_of_neg (by simpa using Nat.le_of_lt start)]
    dsimp only
    rw [if_neg (Nat.ne_of_gt start), Option.filter_none]

theorem ofTokens_prepend (document : Document) (tokens : List Token) (some : head ≠ []) :
    ofTokens (document.prepend head) (tokens.map (Token.lower head.length)) =
      above head document tokens 0 := by
  rw [ofTokens, Document.length_prepend, Token.arrange_lower]
  exact settle_above document tokens (List.length_pos_iff.2 some)

/-- One more character of what was put on top is passed, and behind the last one the old text
begins. -/
theorem advance?_above (document : Document) (tokens : List Token) {passed : Nat}
    (before : passed < head.length) :
    (above head document tokens passed).advance? = some
      (if passed + 1 < head.length then above head document tokens (passed + 1)
        else (ofTokens document tokens).prepend head) := by
  refine (advance?_eq_some_iff _ _).2 ⟨?_, ?_⟩
  · show passed < (document.prepend head).length
    rw [Document.length_prepend]
    omega
  · show _ = settle (document.prepend head) _ (passed + 1) none
    split
    · rename_i further
      exact (settle_above document tokens further).symm
    · rename_i last
      rw [show passed + 1 = head.length + 0 by omega]
      exact (settle_prepend document (Token.arrange document.length tokens) 0 none).symm

end Cursor

end CodeFolding
