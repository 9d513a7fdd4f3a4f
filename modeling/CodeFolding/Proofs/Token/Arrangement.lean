import CodeFolding.Dialect.Plain
import CodeFolding.Outline.Scan
import CodeFolding.Proofs.Cursor.Traversal
import Mathlib.Data.List.Sort

set_option autoImplicit false

namespace CodeFolding

namespace Span

theorem eq_of_le_of_le {first second : Span} (one : first.le second = true)
    (two : second.le first = true) : first = second := by
  simp only [le, Bool.or_eq_true, Bool.and_eq_true, beq_iff_eq, decide_eq_true_eq] at one two
  rw [Span.mk.injEq]
  omega

theorem order_eq_lt_iff (first second : Span) : first.order second = .lt ↔
    first.start < second.start ∨ first.start = second.start ∧ first.stop < second.stop := by
  rw [order, Ordering.then_eq_lt, Nat.compare_eq_lt, Nat.compare_eq_eq, Nat.compare_eq_lt]

end Span

namespace Token

/-- A token and its place in a list. -/
abbrev Entry := Token × Nat

/-- The first entry comes first in the order of spans, or in the list where the spans agree. -/
def Precedes (first second : Entry) : Prop :=
  first.1.toSpan.order second.1.toSpan = .lt ∨
    first.1.toSpan = second.1.toSpan ∧ first.2 < second.2

instance (first second : Entry) : Decidable (Precedes first second) :=
  inferInstanceAs (Decidable (_ ∨ _))

theorem Precedes.start_le {first second : Entry} (precedes : Precedes first second) :
    first.1.start ≤ second.1.start := by
  rcases precedes with before | ⟨same, -⟩
  · rw [Span.order_eq_lt_iff] at before
    omega
  · rw [same]

theorem Precedes.asymm {first second : Entry} (precedes : Precedes first second) :
    ¬ Precedes second first := by
  intro back
  rcases precedes with before | ⟨same, earlier⟩
  · rcases back with behind | ⟨same, -⟩
    · rw [Span.order_eq_lt_iff] at before behind
      omega
    · rw [Span.order_eq_lt_iff, same] at before
      omega
  · rcases back with behind | ⟨-, later⟩
    · rw [Span.order_eq_lt_iff, same] at behind
      omega
    · omega

theorem Precedes.ne {first second : Entry} (precedes : Precedes first second) :
    first ≠ second := by
  rintro rfl
  exact precedes.asymm precedes

/-- Whether the token can be walked in a text of `length` characters if nothing is in its way. -/
def fits (length : Nat) (token : Token) : Bool :=
  !token.isEmpty && token.stop ≤ length

theorem fits_iff {length : Nat} {token : Token} :
    token.fits length = true ↔ token.start ≠ token.stop ∧ token.stop ≤ length := by
  simp only [fits, Span.isEmpty, Bool.and_eq_true, Bool.not_eq_true', beq_eq_false_iff_ne,
    decide_eq_true_eq, ne_eq]

theorem select_cons (length covered : Nat) (token : Token) (rest : List Token) :
    select length covered (token :: rest) =
      if token.fits length = true ∧ covered ≤ token.start then
        token :: select length token.stop rest
      else select length covered rest := by
  rw [select, fits]
  by_cases empty : token.isEmpty = true
  · simp only [empty, Bool.true_or, ↓reduceIte, Bool.not_true, Bool.false_and, Bool.false_eq_true,
      false_and]
  · simp only [empty, Bool.not_false, Bool.false_or, Bool.or_eq_true, decide_eq_true_eq,
      Bool.true_and]
    by_cases usable : token.stop ≤ length ∧ covered ≤ token.start
    · rw [if_neg (by omega), if_pos usable]
    · rw [if_pos (by omega), if_neg usable]

/-- Choosing from entries in order: what is left out begins in what is covered already, or overlaps
an entry that was chosen in front of it. -/
theorem exists_select (length covered : Nat) {entries : List Entry}
    (ordered : ∀ entry ∈ entries, entry.1.start ≤ entry.1.stop)
    (inOrder : entries.Pairwise Precedes) :
    ∃ chosen : List Entry, chosen.Sublist entries ∧
      chosen.map Prod.fst = select length covered (entries.map Prod.fst) ∧
      ∀ entry ∈ entries, entry.1.fits length = true →
        (entry ∉ chosen ↔ entry.1.start < covered ∨
          ∃ earlier ∈ chosen, Precedes earlier entry ∧
            earlier.1.overlaps entry.1.toSpan = true) := by
  induction entries generalizing covered with
  | nil => exact ⟨[], List.Sublist.refl _, rfl, fun entry member => absurd member List.not_mem_nil⟩
  | cons first rest ih =>
    obtain ⟨behind, inOrder⟩ := List.pairwise_cons.1 inOrder
    have later := fun covered => ih covered
      (fun entry member => ordered entry (List.mem_cons_of_mem first member)) inOrder
    have notInRest : first ∉ rest := fun member => (behind first member).ne rfl
    rw [List.map_cons, select_cons]
    split
    · rename_i usable
      obtain ⟨chosen, part, same, rule⟩ := later first.1.stop
      refine ⟨first :: chosen, part.cons_cons first, congrArg (first.1 :: ·) same, ?_⟩
      intro entry member fits
      rcases List.mem_cons.1 member with rfl | inRest
      · -- The first entry is chosen, and no entry that is chosen stands in front of it.
        refine iff_of_false (fun left => left List.mem_cons_self) ?_
        rintro (before | ⟨earlier, isChosen, precedes, -⟩)
        · omega
        · rcases List.mem_cons.1 isChosen with rfl | further
          · exact precedes.ne rfl
          · exact precedes.asymm (behind earlier (part.subset further))
      · have precedes := behind entry inRest
        have start := precedes.start_le
        have filled := (fits_iff.1 fits).1
        have bounds := ordered entry (List.mem_cons_of_mem first inRest)
        -- What begins in front of the end of the first entry overlaps it.
        have overlap : entry.1.start < first.1.stop ↔
            first.1.overlaps entry.1.toSpan = true := by
          simp only [Span.overlaps, Bool.and_eq_true, decide_eq_true_eq]
          omega
        have different := precedes.ne
        rw [List.mem_cons, not_or, rule entry inRest fits, overlap]
        constructor
        · rintro ⟨-, overlaps | ⟨earlier, isChosen, further⟩⟩
          · exact Or.inr ⟨first, List.mem_cons_self, precedes, overlaps⟩
          · exact Or.inr ⟨earlier, List.mem_cons_of_mem first isChosen, further⟩
        · rintro (before | ⟨earlier, isChosen, further⟩)
          · omega
          · refine ⟨Ne.symm different, ?_⟩
            rcases List.mem_cons.1 isChosen with rfl | inChosen
            · exact Or.inl further.2
            · exact Or.inr ⟨earlier, inChosen, further⟩
    · rename_i unusable
      obtain ⟨chosen, part, same, rule⟩ := later covered
      refine ⟨chosen, part.cons first, same, ?_⟩
      intro entry member fits
      rcases List.mem_cons.1 member with rfl | inRest
      · have before : entry.1.start < covered := by
          apply Decidable.byContradiction
          intro behind
          exact unusable ⟨fits, Nat.le_of_not_lt behind⟩
        exact iff_of_true (fun isChosen => notInRest (part.subset isChosen)) (Or.inl before)
      · exact rule entry inRest fits

/-- The entries of a list in the order of their spans, equal spans in the order of the list. -/
def sortedEntries (tokens : List Token) : List Entry :=
  tokens.zipIdx.mergeSort (List.zipIdxLE fun left right => left.toSpan.le right.toSpan)

theorem map_sortedEntries (tokens : List Token) : (sortedEntries tokens).map Prod.fst =
    tokens.mergeSort fun left right => left.toSpan.le right.toSpan :=
  List.mergeSort_zipIdx

theorem mem_sortedEntries {tokens : List Token} {entry : Entry} :
    entry ∈ sortedEntries tokens ↔ entry ∈ tokens.zipIdx :=
  List.mem_mergeSort

/-- No place of a list is sorted behind itself or behind one that comes later. -/
theorem sortedEntries_inOrder (tokens : List Token) :
    (sortedEntries tokens).Pairwise Precedes := by
  have sorted : (sortedEntries tokens).Pairwise fun left right =>
      List.zipIdxLE (fun left right => left.toSpan.le right.toSpan) left right = true :=
    List.pairwise_mergeSort
      (List.zipIdxLE_trans fun first second third =>
        Span.le_trans first.toSpan second.toSpan third.toSpan)
      (List.zipIdxLE_total fun first second => Span.le_total first.toSpan second.toSpan) _
  have places : (sortedEntries tokens).Pairwise fun left right => left.2 ≠ right.2 := by
    have distinct : (tokens.zipIdx.map Prod.snd).Nodup := by
      rw [List.zipIdx_map_snd]
      exact List.nodup_range'
    have perm := List.mergeSort_perm tokens.zipIdx
      (List.zipIdxLE fun left right => left.toSpan.le right.toSpan)
    exact List.pairwise_map.1 ((perm.map Prod.snd).nodup_iff.2 distinct)
  refine (sorted.and places).imp ?_
  rintro left right ⟨notBehind, elsewhere⟩
  unfold List.zipIdxLE at notBehind
  by_cases before : left.1.toSpan.le right.1.toSpan = true
  · by_cases behind : right.1.toSpan.le left.1.toSpan = true
    · rw [if_pos before, if_pos behind, decide_eq_true_eq] at notBehind
      exact Or.inr ⟨Span.eq_of_le_of_le before behind, by omega⟩
    · refine Or.inl ((Span.order_eq_lt_iff ..).2 ?_)
      simp only [Span.le, Bool.or_eq_true, Bool.and_eq_true, beq_iff_eq, decide_eq_true_eq]
        at before behind
      omega
  · rw [if_neg before] at notBehind
    contradiction

/-- The entries of a list that are walked in a text of `length` characters, and why the others that
fit are not. -/
structure Chosen (length : Nat) (tokens : List Token) (chosen : List Entry) : Prop where
  given : ∀ entry ∈ chosen, entry ∈ tokens.zipIdx
  arranged : chosen.map Prod.fst = arrange length tokens
  inOrder : chosen.Pairwise Precedes
  left_iff : ∀ entry ∈ tokens.zipIdx, entry.1.fits length = true →
    (entry ∉ chosen ↔ ∃ earlier ∈ chosen, Precedes earlier entry ∧
      earlier.1.overlaps entry.1.toSpan = true)

theorem Ordered.exists_chosen {tokens : List Token} (ordered : Ordered tokens) (length : Nat) :
    ∃ chosen, Chosen length tokens chosen := by
  have bounds : ∀ entry ∈ sortedEntries tokens, entry.1.start ≤ entry.1.stop := by
    intro entry member
    exact ordered entry.1 (List.fst_mem_of_mem_zipIdx (mem_sortedEntries.1 member))
  obtain ⟨chosen, part, same, rule⟩ :=
    exists_select length 0 bounds (sortedEntries_inOrder tokens)
  refine ⟨chosen, fun entry member => mem_sortedEntries.1 (part.subset member), ?_,
    (sortedEntries_inOrder tokens).sublist part, ?_⟩
  · rw [same, map_sortedEntries]
    rfl
  · intro entry member fits
    rw [rule entry (mem_sortedEntries.2 member) fits]
    simp only [Nat.not_lt_zero, false_or]

/-- No two tokens of the list have the same span and different kinds. -/
def Unambiguous (tokens : List Token) : Prop :=
  ∀ one ∈ tokens, ∀ two ∈ tokens, one.toSpan = two.toSpan → one.kind = two.kind

instance (tokens : List Token) : Decidable (Unambiguous tokens) :=
  inferInstanceAs (Decidable (∀ one ∈ tokens, ∀ two ∈ tokens, _))

theorem Unambiguous.arrange_eq {tokens others : List Token} (unambiguous : Unambiguous tokens)
    (perm : others.Perm tokens) (length : Nat) :
    arrange length others = arrange length tokens := by
  have same : (others.mergeSort fun left right => left.toSpan.le right.toSpan) =
      tokens.mergeSort fun left right => left.toSpan.le right.toSpan := by
    refine List.Perm.eq_of_pairwise ?_ (mergeSort_sorted others) (mergeSort_sorted tokens) ?_
    · intro one two oneMember twoMember before behind
      have spans := Span.eq_of_le_of_le before behind
      have kinds := unambiguous one (perm.subset (List.mem_mergeSort.1 oneMember)) two
        (List.mem_mergeSort.1 twoMember) spans
      obtain ⟨span, kind⟩ := one
      cases spans
      cases kinds
      rfl
    · exact (List.mergeSort_perm others _).trans (perm.trans (List.mergeSort_perm tokens _).symm)
  rw [arrange, arrange, same]

/-- What is walked in `document` along `tokens`: it can be walked, all that is left out is in the
way of something chosen, and it is the same in whatever order the tokens are given. -/
structure OrderFree (document : Document) (tokens : List Token) : Prop where
  walkable : ∀ token ∈ arrange document.length tokens,
    token.start < token.stop ∧ token.stop ≤ document.length
  sorted : (arrange document.length tokens).Pairwise fun left right => left.start < right.start
  disjoint : (arrange document.length tokens).Pairwise fun left right =>
    left.overlaps right.toSpan = false
  chosen : ∃ chosen, Chosen document.length tokens chosen
  sameVisits : ∀ others, others.Perm tokens → Unambiguous tokens →
    (Cursor.ofTokens document others).visits = (Cursor.ofTokens document tokens).visits
  sameOutline : ∀ others, others.Perm tokens → Unambiguous tokens →
    ∀ (σ : Type) (dialect : Dialect σ) (state : σ),
      dialect.outline state document others = dialect.outline state document tokens

/-- The order in which tokens are given decides between tokens with the same span alone. -/
theorem arrange_orderFree (document : Document) {tokens : List Token} (ordered : Ordered tokens) :
    OrderFree document tokens := by
  have spaced := ordered.arrange_spaced document.length
  -- Each of two neighbours is not empty, so that the starts are as far apart as the spans.
  have apart : (arrange document.length tokens).Pairwise fun left right =>
      left.start < right.start ∧ left.overlaps right.toSpan = false := by
    refine spaced.apart.imp_of_mem ?_
    intro left right isLeft _ behind
    have filled := spaced.filled left isLeft
    refine ⟨by omega, Bool.eq_false_iff.2 ?_⟩
    simp only [Span.overlaps, Bool.and_eq_true, decide_eq_true_eq, ne_eq]
    omega
  have sameCursor : ∀ others, others.Perm tokens → Unambiguous tokens →
      Cursor.ofTokens document others = Cursor.ofTokens document tokens := by
    intro others perm unambiguous
    rw [Cursor.ofTokens, unambiguous.arrange_eq perm]
    rfl
  refine ⟨?_, apart.imp And.left, apart.imp And.right, ordered.exists_chosen document.length,
    ?_, ?_⟩
  · intro token member
    exact ⟨spaced.filled token member, (mem_of_mem_arrange member).2.2⟩
  · intro others perm unambiguous
    rw [sameCursor others perm unambiguous]
  · intro others perm unambiguous σ dialect state
    rw [Dialect.outline, Scan.start, sameCursor others perm unambiguous]
    rfl

/-- Two tokens that overlap, and one that does so with the token left out alone: given backwards,
they make the same outline. -/
theorem arrange_orderFree_reversed :
    Ordered [⟨⟨0, 3⟩, .comment⟩, ⟨⟨2, 5⟩, .comment⟩, ⟨⟨4, 6⟩, .punctuation⟩] ∧
      Unambiguous [⟨⟨0, 3⟩, .comment⟩, ⟨⟨2, 5⟩, .comment⟩, ⟨⟨4, 6⟩, .punctuation⟩] ∧
      Dialect.plain.outline () (Document.ofString "//a {}")
          [⟨⟨4, 6⟩, .punctuation⟩, ⟨⟨2, 5⟩, .comment⟩, ⟨⟨0, 3⟩, .comment⟩] =
        Dialect.plain.outline () (Document.ofString "//a {}")
          [⟨⟨0, 3⟩, .comment⟩, ⟨⟨2, 5⟩, .comment⟩, ⟨⟨4, 6⟩, .punctuation⟩] := by
  have ordered : Ordered
      [⟨⟨0, 3⟩, .comment⟩, ⟨⟨2, 5⟩, .comment⟩, ⟨⟨4, 6⟩, .punctuation⟩] := by decide
  have unambiguous : Unambiguous
      [⟨⟨0, 3⟩, .comment⟩, ⟨⟨2, 5⟩, .comment⟩, ⟨⟨4, 6⟩, .punctuation⟩] := by decide
  exact ⟨ordered, unambiguous, (arrange_orderFree _ ordered).sameOutline _
    (by decide) unambiguous Unit Dialect.plain ()⟩

end Token

end CodeFolding
