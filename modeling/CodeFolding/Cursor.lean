import CodeFolding.Document
import CodeFolding.Token

set_option autoImplicit false

namespace CodeFolding

/-- A position, the token that covers it, and the tokens still ahead in order. -/
structure Cursor where
  document : Document
  ahead : List Token
  position : Nat
  token? : Option Token

namespace Cursor

/-- Takes up the token that begins at `position`, or else lets go of `current` once it has
ended. -/
def settle (document : Document) (ahead : List Token) (position : Nat) (current : Option Token) :
    Cursor :=
  let ahead := ahead.dropWhile fun token => token.start < position
  match ahead with
  | token :: rest =>
    if token.start = position then ⟨document, rest, position, some token⟩
    else ⟨document, ahead, position, current.filter fun token => position < token.stop⟩
  | [] => ⟨document, [], position, current.filter fun token => position < token.stop⟩

def ofTokens (document : Document) (tokens : List Token) : Cursor :=
  settle document (Token.arrange document.length tokens) 0 none

def atEnd (cursor : Cursor) : Bool :=
  cursor.document.length ≤ cursor.position

/-- The current token and those ahead. -/
def upcoming (cursor : Cursor) : List Token :=
  cursor.token?.toList ++ cursor.ahead

/-- How many tokens are still to be left as a whole. -/
def pending (cursor : Cursor) : Nat :=
  cursor.upcoming.countP fun token => !token.kind.isCompound

/-- How long the way to the end of the text is at most. A token whose end lies in front of its start
leads back, so each one still to be left counts as much as the whole text. -/
def remaining (cursor : Cursor) : Nat :=
  cursor.pending * (cursor.document.length + 1) + (cursor.document.length - cursor.position)

def char? (cursor : Cursor) : Option Char :=
  cursor.document.charAt? cursor.position

def text? (cursor : Cursor) : Option String :=
  cursor.token?.map fun token => cursor.document.slice token.toSpan

/-- The next position: the end of the current token, or one character on. -/
def nextPosition (cursor : Cursor) : Nat :=
  match cursor.token? with
  | some token => if token.kind.isCompound then cursor.position + 1 else token.stop
  | none => cursor.position + 1

/-- The cursor at the next position, unless this one is at the end. -/
def advance? (cursor : Cursor) : Option Cursor :=
  if cursor.atEnd then none
  else some (settle cursor.document cursor.ahead cursor.nextPosition cursor.token?)

@[simp] theorem settle_document (document : Document) (ahead : List Token) (position : Nat)
    (current : Option Token) : (settle document ahead position current).document = document := by
  unfold settle
  dsimp only
  split <;> (try split) <;> rfl

@[simp] theorem settle_position (document : Document) (ahead : List Token) (position : Nat)
    (current : Option Token) : (settle document ahead position current).position = position := by
  unfold settle
  dsimp only
  split <;> (try split) <;> rfl

@[simp] theorem ofTokens_document (document : Document) (tokens : List Token) :
    (ofTokens document tokens).document = document :=
  settle_document _ _ _ _

/-- Settling keeps the tokens in their order, and the old one only if it goes on. -/
theorem upcoming_settle (document : Document) (ahead : List Token) (position : Nat)
    (current : Option Token) : (settle document ahead position current).upcoming.Sublist
      ((current.filter fun token => position < token.stop).toList ++ ahead) := by
  have later : (ahead.dropWhile fun token => token.start < position).Sublist ahead :=
    List.dropWhile_sublist _
  unfold settle upcoming
  dsimp only
  split
  · rename_i token rest same
    rw [same] at later
    split
    · exact later.trans (List.sublist_append_right _ _)
    · rw [same]
      exact later.append_left _
  · exact (List.nil_sublist ahead).append_left _

theorem document_of_advance? {cursor next : Cursor} (moved : cursor.advance? = some next) :
    next.document = cursor.document := by
  unfold advance? at moved
  split at moved
  · contradiction
  · cases moved
    exact settle_document _ _ _ _

/-- An advance leaves a token behind as a whole, or goes on by one character. -/
theorem pending_of_advance? {cursor next : Cursor} (moved : cursor.advance? = some next) :
    next.pending < cursor.pending ∨
      next.pending ≤ cursor.pending ∧ next.position = cursor.position + 1 := by
  unfold advance? at moved
  split at moved
  · contradiction
  cases moved
  have part := upcoming_settle cursor.document cursor.ahead cursor.nextPosition cursor.token?
  rw [settle_position]
  by_cases whole : ∃ token, cursor.token? = some token ∧ token.kind.isCompound = false
  · obtain ⟨token, current, whole⟩ := whole
    have reached : cursor.nextPosition = token.stop := by
      simp only [nextPosition, current, whole, Bool.false_eq_true, ↓reduceIte]
    -- The token ends where the cursor is now, so that it is not kept.
    have dropped : (cursor.token?.filter fun token => cursor.nextPosition < token.stop) = none := by
      rw [current, reached, Option.filter_some, if_neg (by simp)]
    rw [dropped] at part
    refine Or.inl (Nat.lt_of_le_of_lt part.countP_le ?_)
    rw [pending, upcoming, current, Option.toList_some, List.singleton_append,
      List.countP_cons_of_pos (by rw [whole]; rfl)]
    exact Nat.lt_succ_self _
  · have reached : cursor.nextPosition = cursor.position + 1 := by
      unfold nextPosition
      cases current : cursor.token? with
      | none => rfl
      | some token =>
        exact if_pos (Decidable.byContradiction fun other =>
          whole ⟨token, current, Bool.eq_false_iff.2 other⟩)
    rw [Option.toList_filter] at part
    exact Or.inr ⟨(part.trans (List.filter_sublist.append_right _)).countP_le, reached⟩

theorem remaining_of_advance? {cursor next : Cursor} (moved : cursor.advance? = some next) :
    next.remaining < cursor.remaining := by
  have inside : cursor.position < cursor.document.length := by
    unfold advance? at moved
    split at moved
    · contradiction
    · rename_i before
      simpa only [atEnd, decide_eq_true_eq, Nat.not_le] using before
  unfold remaining
  rw [document_of_advance? moved]
  rcases pending_of_advance? moved with fewer | ⟨same, reached⟩
  · have shorter := Nat.mul_le_mul_right (cursor.document.length + 1) (Nat.succ_le_of_lt fewer)
    rw [Nat.succ_mul] at shorter
    omega
  · have shorter := Nat.mul_le_mul_right (cursor.document.length + 1) same
    omega

end Cursor

end CodeFolding
