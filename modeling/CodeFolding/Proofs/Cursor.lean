import CodeFolding.Cursor
import CodeFolding.Proofs.Span

set_option autoImplicit false

namespace CodeFolding

namespace Token

/-- The bounds of every token of the list are in order. -/
def Ordered (tokens : List Token) : Prop :=
  ∀ token ∈ tokens, token.start ≤ token.stop

instance (tokens : List Token) : Decidable (Ordered tokens) :=
  inferInstanceAs (Decidable (∀ token ∈ tokens, token.start ≤ token.stop))

theorem mem_of_mem_select {length covered : Nat} {token : Token} {tokens : List Token}
    (kept : token ∈ select length covered tokens) :
    token ∈ tokens ∧ token.start ≠ token.stop ∧ token.stop ≤ length := by
  induction tokens generalizing covered with
  | nil => exact absurd kept List.not_mem_nil
  | cons first rest ih =>
    unfold select at kept
    split at kept
    · obtain ⟨member, facts⟩ := ih kept
      exact ⟨List.mem_cons_of_mem first member, facts⟩
    · rename_i usable
      rcases List.mem_cons.1 kept with rfl | later
      · simp only [Span.isEmpty, Bool.or_eq_true, beq_iff_eq, decide_eq_true_eq, not_or] at usable
        exact ⟨List.mem_cons_self, usable.1.1, by omega⟩
      · obtain ⟨member, facts⟩ := ih later
        exact ⟨List.mem_cons_of_mem first member, facts⟩

theorem mem_of_mem_arrange {length : Nat} {token : Token} {tokens : List Token}
    (kept : token ∈ arrange length tokens) :
    token ∈ tokens ∧ token.start ≠ token.stop ∧ token.stop ≤ length := by
  obtain ⟨member, facts⟩ := mem_of_mem_select kept
  exact ⟨List.mem_mergeSort.1 member, facts⟩

theorem select_sublist (length covered : Nat) (tokens : List Token) :
    (select length covered tokens).Sublist tokens := by
  induction tokens generalizing covered with
  | nil => exact List.Sublist.slnil
  | cons first rest ih =>
    unfold select
    split
    · exact (ih covered).cons first
    · exact (ih first.stop).cons_cons first

theorem mergeSort_sorted (tokens : List Token) :
    (tokens.mergeSort fun left right => left.toSpan.le right.toSpan).Pairwise
      fun left right => left.toSpan.le right.toSpan = true :=
  List.pairwise_mergeSort
    (fun first second third => Span.le_trans first.toSpan second.toSpan third.toSpan)
    (fun first second => Span.le_total first.toSpan second.toSpan) tokens

theorem arrange_sorted (length : Nat) (tokens : List Token) :
    (arrange length tokens).Pairwise fun left right => left.start ≤ right.start := by
  refine ((mergeSort_sorted tokens).sublist (select_sublist length 0 _)).imp ?_
  intro left right inOrder
  simp only [Span.le, Bool.or_eq_true, Bool.and_eq_true, beq_iff_eq, decide_eq_true_eq] at inOrder
  omega

theorem arrange_of_sorted (length : Nat) {tokens : List Token}
    (sorted : tokens.Pairwise fun left right => left.toSpan.le right.toSpan = true) :
    arrange length tokens = select length 0 tokens := by
  rw [arrange, List.mergeSort_of_pairwise sorted]

end Token

namespace Cursor

/-- A cursor can be evaluated where the tokens are sorted already. -/
theorem ofTokens_of_sorted (document : Document) {tokens : List Token}
    (sorted : tokens.Pairwise fun left right => left.toSpan.le right.toSpan = true) :
    ofTokens document tokens =
      settle document (Token.select document.length 0 tokens) 0 none := by
  rw [ofTokens, Token.arrange_of_sorted _ sorted]

theorem advance?_eq_some_iff (cursor next : Cursor) :
    cursor.advance? = some next ↔ cursor.position < cursor.document.length ∧
      next = settle cursor.document cursor.ahead cursor.nextPosition cursor.token? := by
  unfold advance? atEnd
  split
  · rename_i behind
    simp only [decide_eq_true_eq] at behind
    simp only [reduceCtorEq, false_iff, not_and]
    omega
  · rename_i inside
    simp only [decide_eq_true_eq, Nat.not_le] at inside
    simp only [Option.some.injEq, inside, true_and, eq_comm]

theorem ahead_settle_sublist (document : Document) (ahead : List Token) (position : Nat)
    (current : Option Token) : (settle document ahead position current).ahead.Sublist ahead := by
  have part : (ahead.dropWhile fun token => token.start < position).Sublist ahead :=
    List.dropWhile_sublist _
  unfold settle
  dsimp only
  split
  · rename_i token rest same
    rw [same] at part
    split
    · exact (List.sublist_cons_self token rest).trans part
    · rw [same]
      exact part
  · exact List.nil_sublist ahead

/-- A token that is current begins at the position, or has been current before and goes on. -/
theorem token?_settle_cases {document : Document} {ahead : List Token} {position : Nat}
    {current : Option Token} {token : Token}
    (here : (settle document ahead position current).token? = some token) :
    token ∈ ahead ∧ token.start = position ∨ current = some token ∧ position < token.stop := by
  have old : ∀ {found : Token},
      (current.filter fun token => position < token.stop) = some found →
      current = some found ∧ position < found.stop := by
    intro found kept
    rw [Option.filter_eq_some_iff, decide_eq_true_eq] at kept
    exact kept
  unfold settle at here
  dsimp only at here
  split at here
  · rename_i first rest same
    split at here
    · rename_i begins
      cases here
      exact Or.inl ⟨(List.dropWhile_sublist _).mem (same ▸ List.mem_cons_self), begins⟩
    · exact Or.inr (old here)
  · exact Or.inr (old here)

theorem position_of_advance? {cursor next : Cursor} (moved : cursor.advance? = some next) :
    next.position = cursor.nextPosition := by
  obtain ⟨-, rfl⟩ := (advance?_eq_some_iff cursor next).1 moved
  exact settle_position ..

/-- The cursor and those that it becomes one after the other, as long as they are not at the end of
the text. -/
def stops (cursor : Cursor) : List Cursor :=
  match _moved : cursor.advance? with
  | none => []
  | some next => cursor :: next.stops
termination_by cursor.remaining
decreasing_by exact remaining_of_advance? ‹_›

theorem stops_of_atEnd {cursor : Cursor} (atEnd : cursor.advance? = none) : cursor.stops = [] := by
  unfold stops
  split
  · rfl
  · rename_i next moved
    cases atEnd.symm.trans moved

theorem stops_of_advance {cursor next : Cursor} (moved : cursor.advance? = some next) :
    cursor.stops = cursor :: next.stops := by
  rw [stops]
  split
  · rename_i atEnd
    cases moved.symm.trans atEnd
  · rename_i other same
    cases moved.symm.trans same
    rfl

/-- The facts about a token that is current at `position`. -/
structure Holds (tokens : List Token) (length position : Nat) (token : Token) : Prop where
  member : token ∈ tokens
  stop_le : token.stop ≤ length
  start_le : token.start ≤ position
  lt_stop : token.start ≤ token.stop → position < token.stop
  atStart : token.kind.isCompound = false → token.start = position

/-- A cursor that walks `tokens`. -/
structure Sound (tokens : List Token) (cursor : Cursor) : Prop where
  inside : cursor.position ≤ cursor.document.length
  ahead : ∀ token ∈ cursor.ahead,
    token ∈ tokens ∧ token.start ≠ token.stop ∧ token.stop ≤ cursor.document.length
  sorted : cursor.ahead.Pairwise fun left right => left.start ≤ right.start
  behind : ∀ token ∈ cursor.ahead, cursor.position ≤ token.start
  current : ∀ token, cursor.token? = some token →
    Holds tokens cursor.document.length cursor.position token

theorem le_start_of_mem_dropWhile (position : Nat) {tokens : List Token}
    (sorted : tokens.Pairwise fun left right => left.start ≤ right.start) :
    ∀ token ∈ tokens.dropWhile (fun token => token.start < position), position ≤ token.start := by
  induction tokens with
  | nil => exact fun token member => absurd member List.not_mem_nil
  | cons first rest ih =>
    obtain ⟨least, inOrder⟩ := List.pairwise_cons.1 sorted
    by_cases before : first.start < position
    · rw [List.dropWhile_cons_of_pos (by simpa using before)]
      exact ih inOrder
    · rw [List.dropWhile_cons_of_neg (by simpa using before)]
      intro token member
      rcases List.mem_cons.1 member with rfl | later
      · omega
      · have start := least token later
        omega

theorem position_le_of_mem_ahead {document : Document} {ahead : List Token} {position : Nat}
    {current : Option Token}
    (sorted : ahead.Pairwise fun left right => left.start ≤ right.start) :
    ∀ token ∈ (settle document ahead position current).ahead, position ≤ token.start := by
  have behind := le_start_of_mem_dropWhile position sorted
  unfold settle
  dsimp only
  split
  · rename_i token rest same
    split
    · rw [same] at behind
      exact fun other member => behind other (List.mem_cons_of_mem token member)
    · exact behind
  · exact fun token member => absurd member List.not_mem_nil

/-- Settling at a position keeps the old token only as long as the position is in front of its
end. -/
theorem settle_sound {tokens ahead : List Token} {document : Document} {position : Nat}
    {current : Option Token} (inside : position ≤ document.length)
    (walked : ∀ token ∈ ahead,
      token ∈ tokens ∧ token.start ≠ token.stop ∧ token.stop ≤ document.length)
    (sorted : ahead.Pairwise fun left right => left.start ≤ right.start)
    (kept : ∀ token, current = some token → position < token.stop →
      Holds tokens document.length position token) :
    Sound tokens (settle document ahead position current) := by
  have part := ahead_settle_sublist document ahead position current
  refine ⟨?_, ?_, sorted.sublist part, ?_, ?_⟩
  · rw [settle_position, settle_document]
    exact inside
  · rw [settle_document]
    exact fun token member => walked token (part.mem member)
  · rw [settle_position]
    exact position_le_of_mem_ahead sorted
  · rw [settle_position, settle_document]
    intro token here
    rcases token?_settle_cases here with ⟨member, begins⟩ | ⟨old, before⟩
    · obtain ⟨given, filled, ends⟩ := walked token member
      exact ⟨given, ends, Nat.le_of_eq begins, fun inOrder => by omega, fun _ => begins⟩
    · exact kept token old before

theorem ofTokens_sound (document : Document) (tokens : List Token) :
    (ofTokens document tokens).Sound tokens := by
  apply settle_sound (Nat.zero_le _)
  · intro token member
    exact Token.mem_of_mem_arrange member
  · exact Token.arrange_sorted document.length tokens
  · intro token none
    exact nomatch none

theorem nextPosition_of_compound {cursor : Cursor} {token : Token}
    (here : cursor.token? = some token) (compound : token.kind.isCompound = true) :
    cursor.nextPosition = cursor.position + 1 := by
  simp only [nextPosition, here, compound, ↓reduceIte]

theorem nextPosition_of_whole {cursor : Cursor} {token : Token}
    (here : cursor.token? = some token) (whole : token.kind.isCompound = false) :
    cursor.nextPosition = token.stop := by
  simp only [nextPosition, here, whole, Bool.false_eq_true, ↓reduceIte]

/-- A token that goes on behind the next position is read character by character. -/
theorem compound_of_nextPosition_lt {cursor : Cursor} {token : Token}
    (here : cursor.token? = some token) (before : cursor.nextPosition < token.stop) :
    token.kind.isCompound = true := by
  apply Decidable.byContradiction
  intro other
  rw [nextPosition_of_whole here (Bool.eq_false_iff.2 other)] at before
  exact Nat.lt_irrefl _ before

namespace Sound

variable {tokens : List Token} {cursor next : Cursor}

theorem nextPosition_le (sound : cursor.Sound tokens)
    (inside : cursor.position < cursor.document.length) :
    cursor.nextPosition ≤ cursor.document.length := by
  unfold nextPosition
  split
  · rename_i token here
    have ends := (sound.current token here).stop_le
    split <;> omega
  · omega

theorem advance (sound : cursor.Sound tokens) (moved : cursor.advance? = some next) :
    next.Sound tokens := by
  obtain ⟨inside, rfl⟩ := (advance?_eq_some_iff cursor next).1 moved
  refine settle_sound (sound.nextPosition_le inside) sound.ahead sound.sorted ?_
  intro token here before
  have facts := sound.current token here
  have compound := compound_of_nextPosition_lt here before
  have below := facts.start_le
  rw [nextPosition_of_compound here compound] at before ⊢
  refine ⟨facts.member, facts.stop_le, by omega, fun _ => before, ?_⟩
  intro whole
  exact nomatch whole.symm.trans compound

theorem position_lt_of_advance? (sound : cursor.Sound tokens) (ordered : Token.Ordered tokens)
    (moved : cursor.advance? = some next) : cursor.position < next.position := by
  rw [position_of_advance? moved, nextPosition]
  split
  · rename_i token here
    have facts := sound.current token here
    have before := facts.lt_stop (ordered token facts.member)
    split
    · omega
    · exact before
  · omega

theorem of_mem_stops (sound : cursor.Sound tokens) :
    ∀ stop ∈ cursor.stops, stop.Sound tokens ∧ stop.document = cursor.document := by
  induction cursor using stops.induct with
  | case1 cursor atEnd =>
    rw [stops_of_atEnd atEnd]
    exact fun stop member => absurd member List.not_mem_nil
  | case2 cursor next moved ih =>
    rw [stops_of_advance moved]
    intro stop member
    rcases List.mem_cons.1 member with rfl | later
    · exact ⟨sound, rfl⟩
    · obtain ⟨further, same⟩ := ih (sound.advance moved) stop later
      exact ⟨further, same.trans (document_of_advance? moved)⟩

section Ordered

variable (sound : cursor.Sound tokens) (ordered : Token.Ordered tokens)
include sound ordered

theorem position_le_of_mem_stops : ∀ stop ∈ cursor.stops, cursor.position ≤ stop.position := by
  induction cursor using stops.induct with
  | case1 cursor atEnd =>
    rw [stops_of_atEnd atEnd]
    exact fun stop member => absurd member List.not_mem_nil
  | case2 cursor next moved ih =>
    rw [stops_of_advance moved]
    intro stop member
    have forward := sound.position_lt_of_advance? ordered moved
    rcases List.mem_cons.1 member with rfl | later
    · exact Nat.le_refl _
    · have behind := ih (sound.advance moved) stop later
      omega

/-- A cursor stops at no position twice, and goes from left to right. -/
theorem stops_increasing : (cursor.stops.map position).Pairwise (· < ·) := by
  induction cursor using stops.induct with
  | case1 cursor atEnd =>
    rw [stops_of_atEnd atEnd]
    exact List.Pairwise.nil
  | case2 cursor next moved ih =>
    rw [stops_of_advance moved, List.map_cons]
    refine List.Pairwise.cons ?_ (ih (sound.advance moved))
    intro position member
    obtain ⟨stop, later, rfl⟩ := List.mem_map.1 member
    have behind := (sound.advance moved).position_le_of_mem_stops ordered stop later
    have forward := sound.position_lt_of_advance? ordered moved
    omega

/-- A cursor stops no more often than there are characters ahead of it. -/
theorem length_stops_le :
    cursor.stops.length ≤ cursor.document.length - cursor.position := by
  induction cursor using stops.induct with
  | case1 cursor atEnd =>
    rw [stops_of_atEnd atEnd]
    exact Nat.zero_le _
  | case2 cursor next moved ih =>
    have fewer := ih (sound.advance moved)
    have forward := sound.position_lt_of_advance? ordered moved
    have inside := ((advance?_eq_some_iff cursor next).1 moved).1
    rw [document_of_advance? moved] at fewer
    rw [stops_of_advance moved, List.length_cons]
    omega

end Ordered

end Sound

/-- No token is current in front of `place` any more. A cursor may come back to where it has been,
but it meets no token there twice. -/
structure Clears (place : Nat) (cursor : Cursor) : Prop where
  ahead : ∀ token ∈ cursor.ahead, place ≤ token.start
  current : ∀ token, cursor.token? = some token → place ≤ cursor.position

namespace Clears

variable {place : Nat} {tokens : List Token} {cursor next : Cursor}

theorem ofSound (sound : cursor.Sound tokens) : cursor.Clears cursor.position :=
  ⟨sound.behind, fun _ _ => Nat.le_refl _⟩

theorem advance (clears : cursor.Clears place) (moved : cursor.advance? = some next) :
    next.Clears place := by
  obtain ⟨-, rfl⟩ := (advance?_eq_some_iff cursor next).1 moved
  refine ⟨fun token member => clears.ahead token ((ahead_settle_sublist ..).mem member), ?_⟩
  intro token here
  rw [settle_position]
  rcases token?_settle_cases here with ⟨member, begins⟩ | ⟨old, before⟩
  · exact begins ▸ clears.ahead token member
  · have reached := clears.current token old
    rw [nextPosition_of_compound old (compound_of_nextPosition_lt old before)]
    omega

end Clears

end Cursor

end CodeFolding
