import CodeFolding.Proofs.Outline.Drained

set_option autoImplicit false

namespace CodeFolding

namespace Outline

def AllEnd (outline : Outline) (holds : Nat → Prop) : Prop :=
  ∀ id stop, (outline.region id).stop? = some stop → holds stop

namespace AllEnd

variable {outline : Outline} {holds : Nat → Prop}

theorem blank (document : Document) (holds : Nat → Prop) :
    (Outline.blank document).AllEnd holds := by
  intro id stop ended
  cases id with
  | zero => exact nomatch ended
  | succ id => exact nomatch ended

theorem add {draft : Draft} (all : outline.AllEnd holds) (parent : Nat)
    (new : ∀ stop, draft.stop? = some stop → holds stop) :
    (outline.add draft parent).AllEnd holds := by
  intro id stop ended
  by_cases added : id = outline.size
  · rw [added, outline.region_add_self draft parent] at ended
    exact new stop ended
  · rw [outline.region_add_other draft parent added] at ended
    exact all id stop ended

theorem close (all : outline.AllEnd holds) {id stop : Nat}
    (new : holds (max stop (outline.region id).start)) : (outline.close id stop).AllEnd holds := by
  intro other last ended
  by_cases same : other = id
  · subst same
    rcases outline.region_modify_or other other
      fun region => { region with stop? := some (max stop region.start) } with old | closed
    · rw [Outline.close, old] at ended
      exact all other last ended
    · rw [Outline.close, closed] at ended
      cases ended
      exact new
  · rw [outline.region_close_other stop same] at ended
    exact all other last ended

theorem finish (all : outline.AllEnd holds) (id : Nat) : (outline.finish id).AllEnd holds := by
  intro other stop ended
  cases linked : (outline.region id).parent? with
  | none =>
    simp only [Outline.finish, linked] at ended
    exact all other stop ended
  | some parent =>
    rcases finish_cases linked with settled | ⟨last, -, -, absorbed⟩
    · rw [settled, outline.stop?_settle] at ended
      exact all other stop ended
    · rw [absorbed] at ended
      rcases outline.stop?_absorb last id other with own | taken
      · exact all other stop (own ▸ ended)
      · exact all id stop (taken ▸ ended)

theorem finishAll (all : outline.AllEnd holds) (opened : List Nat) :
    (outline.finishAll opened).AllEnd holds := by
  unfold Outline.finishAll
  induction opened generalizing outline with
  | nil => exact all
  | cons id outer ih => exact ih (all.finish id)

end AllEnd

/-- Finishing a region can only let starts go back. -/
theorem start_finish_le (outline : Outline) (id other : Nat) :
    ((outline.finish id).region other).start ≤ (outline.region other).start := by
  unfold Outline.finish
  split
  · exact Nat.le_refl _
  · split
    · exact outline.start_settle_le ..
    · split
      · exact Nat.le_of_eq (outline.start_absorb ..)
      · exact outline.start_settle_le ..

theorem start_finishAll_le (outline : Outline) (opened : List Nat) (other : Nat) :
    ((outline.finishAll opened).region other).start ≤ (outline.region other).start := by
  unfold finishAll
  induction opened generalizing outline with
  | nil => exact Nat.le_refl _
  | cons id outer ih =>
    exact Nat.le_trans (ih (outline.finish id)) (outline.start_finish_le id other)

theorem start_add_le (outline : Outline) {draft : Draft} (parent : Nat) {bound : Nat}
    (starts : ∀ id, (outline.region id).start ≤ bound) (new : draft.start ≤ bound) (id : Nat) :
    ((outline.add draft parent).region id).start ≤ bound := by
  by_cases added : id = outline.size
  · rw [added, outline.region_add_self draft parent]
    exact new
  · rw [outline.region_add_other draft parent added]
    exact starts id

/-- All regions lie within the text. -/
structure Bounded (outline : Outline) : Prop where
  start_le : ∀ id, (outline.region id).start ≤ outline.document.length
  stop_le : outline.AllEnd (· ≤ outline.document.length)

theorem Bounded.blank (document : Document) : (Outline.blank document).Bounded := by
  refine ⟨?_, AllEnd.blank document _⟩
  intro id
  cases id with
  | zero => exact Nat.zero_le _
  | succ id => exact Nat.zero_le _

theorem Bounded.finishAll {outline : Outline} (bounded : outline.Bounded) (opened : List Nat) :
    (outline.finishAll opened).Bounded := by
  refine ⟨?_, ?_⟩
  · intro id
    rw [document_finishAll]
    exact Nat.le_trans (outline.start_finishAll_le opened id) (bounded.start_le id)
  · rw [document_finishAll]
    exact bounded.stop_le.finishAll opened

end Outline

namespace Scan

variable {rules : BraceRules} {tokens : List Token} {document : Document}
  {scan after : Scan Bool} {next : Cursor}

/-- The ends that a turn adds are those of the current comment and of a region closed here. -/
theorem Turn.allEnd {holds : Nat → Prop} (turn : Turn rules scan next after)
    (all : scan.outline.AllEnd holds)
    (comment : ∀ token, scan.cursor.token? = some token → token.kind = .comment →
      holds token.stop)
    (closed : ∀ id outer stop, scan.opened = id :: outer →
      BraceRules.Ends scan.cursor (scan.outline.region id).kind stop →
      holds (max stop (scan.outline.region id).start)) :
    after.outline.AllEnd holds := by
  cases turn with
  | pass => exact all
  | start draft begins unended =>
    refine all.add _ ?_
    rw [unended]
    exact fun stop absent => nomatch absent
  | comment draft begins ended =>
    refine (all.add _ ?_).finish _
    cases begins with
    | bracket _ unended => exact absurd unended ended
    | named _ unended => exact absurd unended ended
    | comment token _ current class_eq stops =>
      rw [stops]
      rintro stop ⟨⟩
      exact comment token current class_eq
  | close id outer stop innermost _ ends =>
    exact (all.close (closed id outer stop innermost ends)).finish id

theorem Tracks.stop_le_length (tracks : Tracks tokens document scan)
    (moved : scan.cursor.advance? = some next) {kind : Region.Kind} {stop : Nat}
    (ends : BraceRules.Ends scan.cursor kind stop) : stop ≤ document.length := by
  have reached := (tracks.sound.advance moved).inside
  rwa [Cursor.document_of_advance? moved, tracks.text, ← ends.stop_eq_position moved] at reached

theorem Turn.start_le {bound : Nat} (turn : Turn rules scan next after)
    (here : scan.cursor.position ≤ bound)
    (starts : ∀ id, (scan.outline.region id).start ≤ bound) (id : Nat) :
    (after.outline.region id).start ≤ bound := by
  cases turn with
  | pass => exact starts id
  | start draft begins => exact scan.outline.start_add_le _ starts (begins.start_eq ▸ here) id
  | comment draft begins =>
    exact Nat.le_trans (Outline.start_finish_le ..)
      (scan.outline.start_add_le _ starts (begins.start_eq ▸ here) id)
  | close closed outer stop =>
    have kept : ((scan.outline.close closed stop).region id).start =
        (scan.outline.region id).start := by
      refine scan.outline.field_modify closed id (fun region => region.start) ?_
      exact fun _ => rfl
    exact Nat.le_trans (Outline.start_finish_le ..) (Nat.le_trans (Nat.le_of_eq kept) (starts id))

theorem Turn.bounded (turn : Turn rules scan next after) (tracks : Tracks tokens document scan)
    (moved : scan.cursor.advance? = some next) (bounded : scan.outline.Bounded) :
    after.outline.Bounded := by
  have text : scan.cursor.document = scan.outline.document := tracks.text.trans tracks.same.symm
  have inside := tracks.sound.inside
  rw [text] at inside
  refine ⟨?_, ?_⟩
  · rw [turn.document]
    exact turn.start_le inside bounded.start_le
  · rw [turn.document]
    refine turn.allEnd bounded.stop_le ?_ ?_
    · intro token current _
      rw [← text]
      exact (tracks.sound.current token current).stop_le
    · intro id outer stop _ ends
      have reached := tracks.stop_le_length moved ends
      rw [← tracks.same] at reached
      exact Nat.max_le.2 ⟨reached, bounded.start_le id⟩

end Scan

/-- For every text and all tokens the regions lie within the text. -/
theorem Dialect.outline_bounded (rules : BraceRules) (announced : Bool) (document : Document)
    (tokens : List Token) : ((brace rules).outline announced document tokens).2.Bounded := by
  rw [outline_brace]
  refine Outline.Bounded.finishAll ?_ _
  refine (Scan.braceRun_induction rules announced document tokens
    (fun scan => scan.outline.Bounded) (Outline.Bounded.blank document) ?_).2
  intro scan next after tracks moved turn bounded
  exact turn.bounded tracks moved bounded

end CodeFolding
