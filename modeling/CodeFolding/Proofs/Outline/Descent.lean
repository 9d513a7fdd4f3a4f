import CodeFolding.Proofs.Outline.Numbering

set_option autoImplicit false

namespace CodeFolding

/-- A search through a text that has come to `cursor`, with the outline so far and the state of the
dialect. -/
structure Pass (σ : Type) where
  cursor : Cursor
  outline : Outline
  state : σ

/-- How far the search inside one region has come, and whether it came to the close of that
region. -/
structure Level (σ : Type) extends Pass σ where
  closed : Bool

/-- The search of a scan inside its innermost open region. -/
def Scan.pass {σ : Type} (scan : Scan σ) : Pass σ :=
  ⟨scan.cursor, scan.outline, scan.state⟩

namespace Dialect

variable {σ : Type} (dialect : Dialect σ)

/-- Puts a region into `owner`: merges it into the last region there, or lists it behind it. -/
def join (state : σ) (outline : Outline) (owner id : Nat) : σ × Outline :=
  match (outline.region owner).children.back? with
  | none => (state, outline.settle id owner none)
  | some last =>
    match dialect.merge state outline last id with
    | (state, true) => (state, outline.absorb last id)
    | (state, false) => (state, outline.settle id owner (some last))

/-- Searches for the regions inside `owner` up to its close or the end of the text. The root is
never closed. -/
def level (owner : Nat) (pass : Pass σ) :
    { done : Level σ // done.cursor.remaining ≤ pass.cursor.remaining } :=
  match moved : pass.cursor.advance? with
  | none => ⟨⟨pass, false⟩, Nat.le_refl _⟩
  | some next =>
    have shorter := Cursor.remaining_of_advance? moved
    match dialect.start (dialect.observe pass.state pass.cursor) pass.cursor with
    | (state, some draft) =>
      let found := dialect.found state draft
      let id := pass.outline.size
      let outline := pass.outline.add found.2 owner
      if found.2.isComplete then
        let joined := dialect.join found.1 outline owner id
        let rest := level owner ⟨next, joined.2, dialect.resume joined.1⟩
        ⟨rest.1, Nat.le_trans rest.2 (Nat.le_of_lt shorter)⟩
      else
        let inner := level id ⟨next, outline, dialect.resume found.1⟩
        have before := Nat.lt_of_le_of_lt inner.2 shorter
        let joined := dialect.join inner.1.state inner.1.outline owner id
        -- At the end of the text no search is taken up again.
        let state := if inner.1.closed then dialect.resume joined.1 else joined.1
        let rest := level owner ⟨inner.1.cursor, joined.2, state⟩
        ⟨rest.1, Nat.le_trans rest.2 (Nat.le_of_lt before)⟩
    | (state, none) =>
      match dialect.close state (pass.outline.region owner) pass.cursor with
      | (state, some stop) =>
        if owner = Outline.rootId then
          let rest := level owner ⟨next, pass.outline, state⟩
          ⟨rest.1, Nat.le_trans rest.2 (Nat.le_of_lt shorter)⟩
        else ⟨⟨⟨next, pass.outline.close owner stop, state⟩, true⟩, Nat.le_of_lt shorter⟩
      | (state, none) =>
        let rest := level owner ⟨next, pass.outline, state⟩
        ⟨rest.1, Nat.le_trans rest.2 (Nat.le_of_lt shorter)⟩
termination_by pass.cursor.remaining

/-- The outline of a text by recursive descent, and the state in which it leaves the dialect. -/
def descend (state : σ) (document : Document) (tokens : List Token) : σ × Outline :=
  let done := dialect.level Outline.rootId
    ⟨Cursor.ofTokens document tokens, Outline.blank document, dialect.resume state⟩
  (done.1.state, done.1.outline)

section Level

variable {dialect} (owner : Nat) {pass : Pass σ} {next : Cursor} {started state : σ}
  {first draft : Draft}

theorem level_of_atEnd (atEnd : pass.cursor.advance? = none) :
    (dialect.level owner pass).1 = ⟨pass, false⟩ := by
  rw [level]
  split
  · rfl
  · rename_i next moved
    cases atEnd.symm.trans moved

/-- The equation of `level` without the bound on what is left of the text. -/
theorem level_of_advance (moved : pass.cursor.advance? = some next) :
    (dialect.level owner pass).1 =
      match dialect.start (dialect.observe pass.state pass.cursor) pass.cursor with
      | (state, some draft) =>
        let found := dialect.found state draft
        let id := pass.outline.size
        let outline := pass.outline.add found.2 owner
        if found.2.isComplete then
          let joined := dialect.join found.1 outline owner id
          (dialect.level owner ⟨next, joined.2, dialect.resume joined.1⟩).1
        else
          let inner := (dialect.level id ⟨next, outline, dialect.resume found.1⟩).1
          let joined := dialect.join inner.state inner.outline owner id
          (dialect.level owner ⟨inner.cursor, joined.2,
            if inner.closed then dialect.resume joined.1 else joined.1⟩).1
      | (state, none) =>
        match dialect.close state (pass.outline.region owner) pass.cursor with
        | (state, some stop) =>
          if owner = Outline.rootId then (dialect.level owner ⟨next, pass.outline, state⟩).1
          else ⟨⟨next, pass.outline.close owner stop, state⟩, true⟩
        | (state, none) => (dialect.level owner ⟨next, pass.outline, state⟩).1 := by
  rw [level]
  split
  · rename_i atEnd
    cases moved.symm.trans atEnd
  · rename_i other same
    cases moved.symm.trans same
    cases dialect.start (dialect.observe pass.state pass.cursor) pass.cursor with
    | mk started first? =>
      cases first? with
      | some first =>
        dsimp only
        split <;> rfl
      | none =>
        dsimp only
        cases dialect.close started (pass.outline.region owner) pass.cursor with
        | mk state stop? =>
          cases stop? with
          | some stop =>
            dsimp only
            split <;> rfl
          | none => rfl

theorem level_of_complete (moved : pass.cursor.advance? = some next)
    (starts : dialect.start (dialect.observe pass.state pass.cursor) pass.cursor =
      (started, some first))
    (found : dialect.found started first = (state, draft)) (ended : draft.isComplete = true)
    {done : σ × Outline}
    (joined : dialect.join state (pass.outline.add draft owner) owner pass.outline.size = done) :
    (dialect.level owner pass).1 =
      (dialect.level owner ⟨next, done.2, dialect.resume done.1⟩).1 := by
  rw [level_of_advance owner moved, starts]
  dsimp only
  rw [found, if_pos ended, joined]

theorem level_of_unended (moved : pass.cursor.advance? = some next)
    (starts : dialect.start (dialect.observe pass.state pass.cursor) pass.cursor =
      (started, some first))
    (found : dialect.found started first = (state, draft)) (unended : draft.isComplete = false)
    {inner : Level σ}
    (inside : (dialect.level pass.outline.size
      ⟨next, pass.outline.add draft owner, dialect.resume state⟩).1 = inner) {done : σ × Outline}
    (joined : dialect.join inner.state inner.outline owner pass.outline.size = done) :
    (dialect.level owner pass).1 = (dialect.level owner ⟨inner.cursor, done.2,
      if inner.closed then dialect.resume done.1 else done.1⟩).1 := by
  rw [level_of_advance owner moved, starts]
  dsimp only
  rw [found, if_neg (Bool.eq_false_iff.1 unended), inside, joined]

section Quiet

variable {quiet : σ} {stop : Nat}

theorem level_of_close (moved : pass.cursor.advance? = some next)
    (unstarted : dialect.start (dialect.observe pass.state pass.cursor) pass.cursor =
      (quiet, none))
    (closes : dialect.close quiet (pass.outline.region owner) pass.cursor = (state, some stop))
    (inner : owner ≠ Outline.rootId) :
    (dialect.level owner pass).1 = ⟨⟨next, pass.outline.close owner stop, state⟩, true⟩ := by
  rw [level_of_advance owner moved, unstarted]
  dsimp only
  rw [closes]
  exact if_neg inner

theorem level_of_stray (moved : pass.cursor.advance? = some next)
    (unstarted : dialect.start (dialect.observe pass.state pass.cursor) pass.cursor =
      (quiet, none))
    (closes : dialect.close quiet (pass.outline.region owner) pass.cursor = (state, some stop))
    (outermost : owner = Outline.rootId) :
    (dialect.level owner pass).1 = (dialect.level owner ⟨next, pass.outline, state⟩).1 := by
  rw [level_of_advance owner moved, unstarted]
  dsimp only
  rw [closes]
  exact if_pos outermost

theorem level_of_pass (moved : pass.cursor.advance? = some next)
    (unstarted : dialect.start (dialect.observe pass.state pass.cursor) pass.cursor =
      (quiet, none))
    (unclosed : dialect.close quiet (pass.outline.region owner) pass.cursor = (state, none)) :
    (dialect.level owner pass).1 = (dialect.level owner ⟨next, pass.outline, state⟩).1 := by
  rw [level_of_advance owner moved, unstarted]
  dsimp only
  rw [unclosed]

end Quiet

end Level

theorem finish_eq_join {outline : Outline} {owner id : Nat}
    (linked : (outline.region id).parent? = some owner) (state : σ) :
    dialect.finish state outline id = dialect.join state outline owner id := by
  rw [finish, linked]
  rfl

/-- What is left of a descent when the search inside the innermost of the regions `opened` is done:
each of them is put into the one around it, and the search there goes on. -/
def unwind (done : Level σ) : List Nat → σ × Outline
  | [] => (done.state, done.outline)
  | id :: outer =>
    let owner := outer.headD Outline.rootId
    let joined := dialect.join done.state done.outline owner id
    let state := if done.closed then dialect.resume joined.1 else joined.1
    unwind (dialect.level owner ⟨done.cursor, joined.2, state⟩).1 outer

section Unwind

variable (pass : Pass σ) {id : Nat} {outer : List Nat} {after : σ × Outline}

theorem unwind_closed
    (joined : dialect.join pass.state pass.outline (outer.headD Outline.rootId) id = after) :
    dialect.unwind ⟨pass, true⟩ (id :: outer) =
      dialect.unwind (dialect.level (outer.headD Outline.rootId)
        ⟨pass.cursor, after.2, dialect.resume after.1⟩).1 outer := by
  rw [unwind, joined]
  rfl

theorem unwind_ended (atEnd : pass.cursor.advance? = none)
    (joined : dialect.join pass.state pass.outline (outer.headD Outline.rootId) id = after) :
    dialect.unwind ⟨pass, false⟩ (id :: outer) =
      dialect.unwind ⟨⟨pass.cursor, after.2, after.1⟩, false⟩ outer := by
  have done : (dialect.level (outer.headD Outline.rootId) ⟨pass.cursor, after.2, after.1⟩).1 =
      ⟨⟨pass.cursor, after.2, after.1⟩, false⟩ := level_of_atEnd _ atEnd
  rw [unwind, joined, if_neg Bool.false_ne_true, done]

end Unwind

end Dialect

namespace Scan

open Outline (Numbered)

variable {σ : Type} {dialect : Dialect σ} {scan : Scan σ}

/-- The scan is that of a dialect with a record which accounts for every number. -/
def Accounted (scan : Scan σ) : Prop :=
  ∃ twin : Scan (σ × List Call), twin.Counts ∧ twin.unrecorded = scan

theorem start_accounted (dialect : Dialect σ) (state : σ) (document : Document)
    (tokens : List Token) : (Scan.start dialect state document tokens).Accounted :=
  ⟨_, start_counts dialect state document tokens, rfl⟩

theorem Accounted.step (accounted : scan.Accounted) (dialect : Dialect σ) (next : Cursor) :
    (scan.step dialect next).Accounted := by
  obtain ⟨twin, counts, rfl⟩ := accounted
  exact ⟨_, counts.step dialect next, unrecorded_step dialect twin next⟩

theorem Accounted.numbered (accounted : scan.Accounted) :
    ∃ merged, Numbered scan.outline scan.opened merged := by
  obtain ⟨twin, counts, rfl⟩ := accounted
  exact ⟨_, counts⟩

theorem Accounted.finish (accounted : scan.Accounted) {id : Nat} {outer : List Nat}
    (innermost : scan.opened = id :: outer) (dialect : Dialect σ) :
    Scan.Accounted ⟨scan.cursor, (dialect.finish scan.state scan.outline id).2, outer,
      (dialect.finish scan.state scan.outline id).1⟩ := by
  obtain ⟨twin, counts, rfl⟩ := accounted
  change twin.opened = id :: outer at innermost
  unfold Counts at counts
  rw [innermost] at counts
  refine ⟨⟨twin.cursor, _, outer, _⟩, counts.finish dialect rfl, ?_⟩
  exact congrArg (fun done : σ × Outline => Scan.mk twin.cursor done.2 outer done.1)
    (dialect.recorded_finish ..)

theorem finish_eq_join {outline : Outline} {id : Nat} {outer merged : List Nat}
    (numbered : Numbered outline (id :: outer) merged) (dialect : Dialect σ) (state : σ) :
    dialect.finish state outline id =
      dialect.join state outline (outer.headD Outline.rootId) id :=
  dialect.finish_eq_join (numbered.inside_facts numbered.inside_head).2.2 state

/-- At the end of the text, the regions that are still open are put into one another from the
inside out. -/
theorem drain_eq_unwind (accounted : scan.Accounted) (atEnd : scan.cursor.advance? = none) :
    scan.drain dialect =
      dialect.unwind ⟨scan.pass, false⟩ scan.opened := by
  obtain ⟨cursor, outline, opened, state⟩ := scan
  induction opened generalizing outline state with
  | nil => rfl
  | cons id outer ih =>
    obtain ⟨merged, numbered⟩ := accounted.numbered
    have rest := ih _ _ (accounted.finish rfl dialect) atEnd
    have joined := (finish_eq_join numbered dialect state).symm
    exact rest.trans (dialect.unwind_ended ⟨cursor, outline, state⟩ atEnd joined).symm

/-- The stack of a scan stands for the calls of the descent that have not come back yet: what the
scan still does is what they still do. -/
theorem drain_run_eq_unwind (accounted : scan.Accounted) :
    (scan.run dialect).drain dialect =
      dialect.unwind (dialect.level scan.parent scan.pass).1 scan.opened := by
  -- Each step is one equation of `level`; what that leaves to be done later is on the stack.
  induction scan using run.induct dialect with
  | case1 scan atEnd =>
    rw [run_of_atEnd dialect atEnd, Dialect.level_of_atEnd _ atEnd]
    exact drain_eq_unwind accounted atEnd
  | case2 scan next moved ih =>
    have rest := ih (accounted.step dialect next)
    have moved : scan.pass.cursor.advance? = some next := moved
    obtain ⟨merged, numbered⟩ := accounted.numbered
    have move := step_move dialect scan next
    rw [run_of_advance dialect moved, rest]
    generalize scan.step dialect next = after at move
    cases move with
    | @complete started state first draft starts found ended done finished =>
      have joined : dialect.join state (scan.outline.add draft scan.parent) scan.parent
          scan.outline.size = done :=
        (finish_eq_join (numbered.add draft) dialect state).symm.trans finished
      rw [Dialect.level_of_complete _ moved starts found ended joined]
      rfl
    | @unended started state first draft starts found unended =>
      rw [Dialect.level_of_unended _ moved starts found unended rfl rfl]
      rfl
    | @close quiet state stop id outer unstarted closes innermost done finished =>
      have inner : scan.parent = id := by rw [Scan.parent, innermost, List.headD_cons]
      rw [innermost] at numbered
      -- An open region has a greater number than the one around it, so it is not the root.
      have notRoot : scan.parent ≠ Outline.rootId := by
        rw [inner]
        exact Nat.ne_of_gt (Nat.zero_lt_of_lt numbered.head_lt)
      have joined := (finish_eq_join (numbered.close id stop) dialect state).symm.trans finished
      rw [Dialect.level_of_close _ moved unstarted closes notRoot, innermost, inner]
      exact (dialect.unwind_closed ⟨next, scan.outline.close id stop, state⟩ joined).symm
    | stray unstarted closes outermost =>
      have root : scan.parent = Outline.rootId := by rw [Scan.parent, outermost, List.headD_nil]
      rw [Dialect.level_of_stray _ moved unstarted closes root]
      rfl
    | pass unstarted unclosed =>
      rw [Dialect.level_of_pass _ moved unstarted unclosed]
      rfl

end Scan

namespace Dialect

variable {σ : Type} (dialect : Dialect σ) (state : σ) (document : Document) (tokens : List Token)

/-- The calls that the descent makes for the outline of a text. -/
def descentRecord : List Call :=
  (dialect.recorded.descend (state, []) document tokens).1.2

theorem outline_eq_descend :
    dialect.outline state document tokens = dialect.descend state document tokens :=
  Scan.drain_run_eq_unwind (Scan.start_accounted dialect state document tokens)

/-- The dialect that keeps a record does in the descent what the dialect without one does. -/
theorem recorded_descend : dialect.recorded.descend (state, []) document tokens =
    (((dialect.descend state document tokens).1, dialect.descentRecord state document tokens),
      (dialect.descend state document tokens).2) := by
  have same := dialect.recorded_outline state document tokens
  rw [dialect.recorded.outline_eq_descend, dialect.outline_eq_descend] at same
  unfold descentRecord
  rw [same]

theorem record_eq_descentRecord :
    dialect.record state document tokens = dialect.descentRecord state document tokens := by
  rw [record, dialect.recorded.outline_eq_descend, descentRecord]

/-- In every dialect, for every text and all tokens, the scan with its stack makes the outline of
the recursive descent, leaves the dialect in the same state and makes the same calls in the same
order. A dialect hands over the draft of a region, which has nothing inside it yet. The scan
observes the text wherever the cursor stops: if the bounds of the tokens are in order, at each
position once, from left to right, and in no more rounds than the text has characters. -/
theorem outline_refines_descent :
    dialect.outline state document tokens = dialect.descend state document tokens ∧
    dialect.record state document tokens = dialect.descentRecord state document tokens ∧
    dialect.recorded.outline (state, []) document tokens =
      (((dialect.outline state document tokens).1, dialect.record state document tokens),
        (dialect.outline state document tokens).2) ∧
    dialect.recorded.descend (state, []) document tokens =
      (((dialect.descend state document tokens).1, dialect.descentRecord state document tokens),
        (dialect.descend state document tokens).2) ∧
    Call.observations (dialect.record state document tokens) =
      (Cursor.ofTokens document tokens).stops ∧
    (Scan.start dialect state document tokens).run dialect =
      (Scan.round dialect)^[(Cursor.ofTokens document tokens).stops.length]
        (Scan.start dialect state document tokens) ∧
    ((Scan.start dialect state document tokens).run dialect).cursor.atEnd = true ∧
    (Token.Ordered tokens →
      ((Cursor.ofTokens document tokens).stops.map Cursor.position).Pairwise (· < ·) ∧
      (Cursor.ofTokens document tokens).stops.length ≤ document.length) := by
  refine ⟨dialect.outline_eq_descend state document tokens,
    dialect.record_eq_descentRecord state document tokens,
    dialect.recorded_outline state document tokens,
    dialect.recorded_descend state document tokens,
    dialect.observations_record state document tokens,
    Scan.run_eq_iterate dialect _, Scan.run_atEnd dialect _, ?_⟩
  intro ordered
  have sound := Cursor.ofTokens_sound document tokens
  have bounded := sound.length_stops_le ordered
  rw [Cursor.ofTokens_document] at bounded
  exact ⟨sound.stops_increasing ordered, by omega⟩

end Dialect

end CodeFolding
