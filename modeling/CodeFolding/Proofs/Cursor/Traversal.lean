import CodeFolding.Proofs.Cursor.Walk

set_option autoImplicit false

namespace CodeFolding

namespace Token

/-- Whether the offset lies strictly inside a token of the list that is read as a whole. -/
def isJumped (tokens : List Token) (offset : Nat) : Bool :=
  tokens.any fun token => !token.kind.isCompound && token.start < offset && offset < token.stop

theorem isJumped_iff (tokens : List Token) (offset : Nat) :
    isJumped tokens offset = true ↔ ∃ token ∈ tokens, token.kind.isCompound = false ∧
      token.start < offset ∧ offset < token.stop := by
  simp only [isJumped, List.any_eq_true, Bool.and_eq_true, Bool.not_eq_true', decide_eq_true_eq,
    and_assoc]

/-- Of tokens that stand one behind the other, one at most has a given offset. -/
theorem Spaced.filter_contains {tokens : List Token} (spaced : Spaced tokens) {token : Token}
    {offset : Nat} (member : token ∈ tokens) (here : token.contains offset = true) :
    (tokens.filter fun other => other.contains offset) = [token] := by
  simp only [Span.contains, Bool.and_eq_true, decide_eq_true_eq] at here
  -- The filtered list has the token and nothing else, and it has no token twice.
  have only : ∀ other ∈ tokens.filter fun other => other.contains offset, other = token := by
    intro other found
    obtain ⟨isToken, covers⟩ := List.mem_filter.1 found
    simp only [Span.contains, Bool.and_eq_true, decide_eq_true_eq] at covers
    exact spaced.eq_of_overlap isToken member (by omega) (by omega)
  have apart : (tokens.filter fun other => other.contains offset).Pairwise
      fun left right => left.stop ≤ right.start := spaced.apart.sublist List.filter_sublist
  have present : token ∈ tokens.filter fun other => other.contains offset := by
    rw [List.mem_filter, Span.contains, Bool.and_eq_true, decide_eq_true_eq, decide_eq_true_eq]
    exact ⟨member, here⟩
  generalize tokens.filter (fun other => other.contains offset) = found at only apart present
  rcases found with - | ⟨first, - | ⟨second, rest⟩⟩
  · exact absurd present List.not_mem_nil
  · rw [only first List.mem_cons_self]
  · have behind := (List.pairwise_cons.1 apart).1 second List.mem_cons_self
    rw [only first List.mem_cons_self,
      only second (List.mem_cons_of_mem _ List.mem_cons_self)] at behind
    omega

end Token

namespace Cursor

/-- The cursor and those that it becomes one after the other, up to the one that cannot move on. -/
def visits (cursor : Cursor) : List Cursor :=
  match _moved : cursor.advance? with
  | none => [cursor]
  | some next => cursor :: next.visits
termination_by cursor.remaining
decreasing_by exact remaining_of_advance? ‹_›

theorem visits_of_atEnd {cursor : Cursor} (atEnd : cursor.advance? = none) :
    cursor.visits = [cursor] := by
  unfold visits
  split
  · rfl
  · rename_i next moved
    cases atEnd.symm.trans moved

theorem visits_of_advance {cursor next : Cursor} (moved : cursor.advance? = some next) :
    cursor.visits = cursor :: next.visits := by
  rw [visits]
  split
  · rename_i atEnd
    cases moved.symm.trans atEnd
  · rename_i other same
    cases moved.symm.trans same
    rfl

/-- What holds of a cursor and is kept by every advance holds wherever it comes by. -/
theorem visits_induction (holds : Cursor → Prop)
    (kept : ∀ cursor next, holds cursor → cursor.advance? = some next → holds next)
    (cursor : Cursor) (first : holds cursor) : ∀ visited ∈ cursor.visits, holds visited := by
  induction cursor using visits.induct with
  | case1 cursor atEnd =>
    rw [visits_of_atEnd atEnd]
    intro visited member
    rw [List.mem_singleton.1 member]
    exact first
  | case2 cursor next moved ih =>
    rw [visits_of_advance moved]
    intro visited member
    rcases List.mem_cons.1 member with rfl | later
    · exact first
    · exact ih (kept cursor next first moved) visited later

/-- A cursor on its way through `document` along the tokens it was made from, of which it walks
`kept`. -/
structure Travels (document : Document) (tokens kept : List Token) (cursor : Cursor) : Prop where
  text : cursor.document = document
  sound : cursor.Sound tokens
  walks : cursor.Walks kept

namespace Travels

variable {document : Document} {tokens kept : List Token} {cursor next : Cursor}

theorem ofTokens (document : Document) {tokens : List Token} (ordered : Token.Ordered tokens) :
    Travels document tokens (Token.arrange document.length tokens)
      (Cursor.ofTokens document tokens) :=
  ⟨ofTokens_document document tokens, ofTokens_sound document tokens,
    ofTokens_walks document ordered⟩

theorem advance (travels : cursor.Travels document tokens kept) (spaced : Token.Spaced kept)
    (moved : cursor.advance? = some next) : next.Travels document tokens kept :=
  ⟨(document_of_advance? moved).trans travels.text, travels.sound.advance moved,
    travels.walks.advance spaced moved⟩

theorem not_isJumped (travels : cursor.Travels document tokens kept) :
    Token.isJumped kept cursor.position = false := by
  apply Bool.eq_false_iff.2
  intro jumped
  obtain ⟨token, member, whole, before, behind⟩ := (Token.isJumped_iff ..).1 jumped
  have here := (travels.walks.current_iff token).2 ⟨member, Nat.le_of_lt before, behind⟩
  have start := (travels.sound.current token here).atStart whole
  omega

/-- All offsets between a position and the next one are strictly inside the current token. -/
theorem isJumped_of_lt_nextPosition (travels : cursor.Travels document tokens kept) {offset : Nat}
    (behind : cursor.position < offset) (before : offset < cursor.nextPosition) :
    Token.isJumped kept offset = true := by
  unfold nextPosition at before
  split at before
  · rename_i token here
    split at before
    · omega
    · rename_i whole
      obtain ⟨member, start, -⟩ := (travels.walks.current_iff token).1 here
      exact (Token.isJumped_iff ..).2
        ⟨token, member, Bool.eq_false_iff.2 whole, by omega, by omega⟩
  · omega

/-- From a position on, a cursor comes by all offsets that it has no reason to jump over, and ends
at the end of the text. -/
theorem positions_visits (travels : cursor.Travels document tokens kept)
    (spaced : Token.Spaced kept) : cursor.visits.map position =
      ((List.range' cursor.position (document.length - cursor.position)).filter
        fun offset => !Token.isJumped kept offset) ++ [document.length] := by
  induction cursor using visits.induct with
  | case1 cursor atEnd =>
    have inside := travels.sound.inside
    have ended : ¬ cursor.position < cursor.document.length := by
      intro before
      have moved := (advance?_eq_some_iff cursor _).2 ⟨before, rfl⟩
      exact nomatch atEnd.symm.trans moved
    rw [travels.text] at inside ended
    have here : cursor.position = document.length := by omega
    rw [visits_of_atEnd atEnd, here, Nat.sub_self]
    exact congrArg (· :: []) here
  | case2 cursor next moved ih =>
    have before := ((advance?_eq_some_iff cursor next).1 moved).1
    have forward := travels.walks.position_lt_nextPosition
    have inside := travels.sound.nextPosition_le before
    rw [travels.text] at before inside
    -- The offsets from the position to the next one, of which the first alone is visited.
    have parted : List.range' cursor.position (document.length - cursor.position) =
        (cursor.position :: List.range' (cursor.position + 1)
          (cursor.nextPosition - (cursor.position + 1))) ++
          List.range' cursor.nextPosition (document.length - cursor.nextPosition) := by
      have reached : cursor.nextPosition =
          cursor.position + (cursor.nextPosition - (cursor.position + 1) + 1) := by omega
      have total : document.length - cursor.position =
          cursor.nextPosition - (cursor.position + 1) + 1 +
            (document.length - cursor.nextPosition) := by omega
      rw [← List.range'_succ, total, ← List.range'_append_1, ← reached]
    have passed : (List.range' (cursor.position + 1)
        (cursor.nextPosition - (cursor.position + 1))).filter
          (fun offset => !Token.isJumped kept offset) = [] := by
      apply List.filter_eq_nil_iff.2
      intro offset member
      rw [List.mem_range'_1] at member
      rw [travels.isJumped_of_lt_nextPosition (by omega) (by omega)]
      exact Bool.false_ne_true
    have rest := ih (travels.advance spaced moved)
    rw [position_of_advance? moved] at rest
    rw [visits_of_advance moved, List.map_cons, rest, parted, List.filter_append,
      List.filter_cons_of_pos (by rw [travels.not_isJumped]; rfl), passed]
    rfl

theorem filter_contains (travels : cursor.Travels document tokens kept)
    (spaced : Token.Spaced kept) :
    (kept.filter fun token => token.contains cursor.position) = cursor.token?.toList := by
  have has : ∀ token : Token, token.contains cursor.position = true ↔
      token.start ≤ cursor.position ∧ cursor.position < token.stop := by
    intro token
    rw [Span.contains, Bool.and_eq_true, decide_eq_true_eq, decide_eq_true_eq]
  cases current : cursor.token? with
  | some token =>
    obtain ⟨member, here⟩ := (travels.walks.current_iff token).1 current
    exact spaced.filter_contains member ((has token).2 here)
  | none =>
    apply List.filter_eq_nil_iff.2
    intro token member here
    have found := (travels.walks.current_iff token).2 ⟨member, (has token).1 here⟩
    rw [current] at found
    contradiction

end Travels

/-- How a cursor goes through `document` along the tokens `kept`: where it comes by, what is
current there, and that it stays at the end. -/
structure Traverses (document : Document) (kept : List Token) (visited : List Cursor) :
    Prop where
  text : ∀ cursor ∈ visited, cursor.document = document
  positions : visited.map position = ((List.range document.length).filter
    fun offset => !Token.isJumped kept offset) ++ [document.length]
  current : ∀ cursor ∈ visited,
    (kept.filter fun token => token.contains cursor.position) = cursor.token?.toList
  atStart : ∀ cursor ∈ visited, ∀ token, cursor.token? = some token →
    token.kind ≠ .punctuation → token.start = cursor.position
  moves : ∀ cursor ∈ visited, cursor.position < document.length → cursor.advance? ≠ none
  stays : ∀ cursor ∈ visited, cursor.position = document.length →
    cursor.token? = none ∧ cursor.advance? = none

/-- A cursor comes by every offset that is not strictly inside a token read as a whole, once and
from left to right, reports the token it is in, and stays at the end of the text. -/
theorem visits_traverse (document : Document) {tokens : List Token}
    (ordered : Token.Ordered tokens) : Traverses document
      (Token.arrange document.length tokens) (ofTokens document tokens).visits := by
  have spaced := ordered.arrange_spaced document.length
  have first := Travels.ofTokens document ordered
  have everywhere := visits_induction
    (Travels document tokens (Token.arrange document.length tokens))
    (fun _ _ travels moved => travels.advance spaced moved) _ first
  refine ⟨fun cursor member => (everywhere cursor member).text, ?_,
    fun cursor member => (everywhere cursor member).filter_contains spaced, ?_, ?_, ?_⟩
  · have start : (ofTokens document tokens).position = 0 := settle_position ..
    rw [first.positions_visits spaced, start, Nat.sub_zero, List.range_eq_range']
  · intro cursor member token here notPunctuation
    refine ((everywhere cursor member).sound.current token here).atStart ?_
    exact beq_eq_false_iff_ne.2 notPunctuation
  · intro cursor member before atEnd
    rw [← (everywhere cursor member).text] at before
    exact nomatch atEnd.symm.trans ((advance?_eq_some_iff cursor _).2 ⟨before, rfl⟩)
  · intro cursor member here
    have text := (everywhere cursor member).text
    constructor
    · apply Option.eq_none_iff_forall_ne_some.2
      intro token current
      have facts := (everywhere cursor member).sound.current token current
      have ends := facts.stop_le
      have behind := facts.lt_stop (ordered token facts.member)
      rw [text] at ends
      omega
    · rw [advance?, if_pos]
      rw [atEnd, text, here]
      exact decide_eq_true (Nat.le_refl _)

/-- Two brackets in one token and a comment that overlaps the second: the brackets are met one
after the other, and the comment, which is not walked, hides nothing. -/
theorem visits_traverse_brackets :
    Token.Ordered [⟨⟨0, 2⟩, .punctuation⟩, ⟨⟨1, 4⟩, .comment⟩, ⟨⟨3, 5⟩, .number⟩] ∧
      (ofTokens (Document.ofString "]] 12") [⟨⟨0, 2⟩, .punctuation⟩, ⟨⟨1, 4⟩, .comment⟩,
        ⟨⟨3, 5⟩, .number⟩]).visits.map position = [0, 1, 2, 3, 5] := by
  have ordered : Token.Ordered
      [⟨⟨0, 2⟩, .punctuation⟩, ⟨⟨1, 4⟩, .comment⟩, ⟨⟨3, 5⟩, .number⟩] := by decide
  refine ⟨ordered, ?_⟩
  rw [(visits_traverse (Document.ofString "]] 12") ordered).positions,
    Token.arrange_of_sorted _ (by decide)]
  decide

end Cursor

end CodeFolding
