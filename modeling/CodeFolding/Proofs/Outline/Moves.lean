import CodeFolding.Proofs.Outline.Steps
import Mathlib.Logic.Function.Iterate

set_option autoImplicit false

namespace CodeFolding

namespace Scan

variable {σ : Type}

/-- One step of a scan in any dialect, to the cursor `next`, with the answers that it depends
on. -/
inductive Move (dialect : Dialect σ) (scan : Scan σ) (next : Cursor) : Scan σ → Prop
  | complete {started state : σ} {first draft : Draft}
      (starts : dialect.start (dialect.observe scan.state scan.cursor) scan.cursor =
        (started, some first))
      (found : dialect.found started first = (state, draft)) (ended : draft.isComplete = true)
      {done : σ × Outline}
      (finished : dialect.finish state (scan.outline.add draft scan.parent) scan.outline.size =
        done) :
      Move dialect scan next ⟨next, done.2, scan.opened, dialect.resume done.1⟩
  | unended {started state : σ} {first draft : Draft}
      (starts : dialect.start (dialect.observe scan.state scan.cursor) scan.cursor =
        (started, some first))
      (found : dialect.found started first = (state, draft)) (unended : draft.isComplete = false) :
      Move dialect scan next ⟨next, scan.outline.add draft scan.parent,
        scan.outline.size :: scan.opened, dialect.resume state⟩
  | close {quiet state : σ} {stop id : Nat} {outer : List Nat}
      (unstarted : dialect.start (dialect.observe scan.state scan.cursor) scan.cursor =
        (quiet, none))
      (closes : dialect.close quiet (scan.outline.region scan.parent) scan.cursor =
        (state, some stop))
      (innermost : scan.opened = id :: outer) {done : σ × Outline}
      (finished : dialect.finish state (scan.outline.close id stop) id = done) :
      Move dialect scan next ⟨next, done.2, outer, dialect.resume done.1⟩
  | stray {quiet state : σ} {stop : Nat}
      (unstarted : dialect.start (dialect.observe scan.state scan.cursor) scan.cursor =
        (quiet, none))
      (closes : dialect.close quiet (scan.outline.region scan.parent) scan.cursor =
        (state, some stop))
      (outermost : scan.opened = []) :
      Move dialect scan next ⟨next, scan.outline, scan.opened, state⟩
  | pass {quiet state : σ}
      (unstarted : dialect.start (dialect.observe scan.state scan.cursor) scan.cursor =
        (quiet, none))
      (unclosed : dialect.close quiet (scan.outline.region scan.parent) scan.cursor =
        (state, none)) :
      Move dialect scan next ⟨next, scan.outline, scan.opened, state⟩

theorem step_move (dialect : Dialect σ) (scan : Scan σ) (next : Cursor) :
    Move dialect scan next (scan.step dialect next) := by
  unfold step
  dsimp only
  split
  · rename_i started first starts
    unfold enter
    dsimp only
    split
    · rename_i ended
      exact .complete starts rfl ended rfl
    · rename_i unended
      exact .unended starts rfl (Bool.eq_false_iff.2 unended)
  · rename_i quiet unstarted
    split
    · rename_i state stop closes
      obtain ⟨cursor, outline, opened, before⟩ := scan
      cases opened with
      | nil => exact .stray unstarted closes rfl
      | cons id outer => exact .close unstarted closes rfl rfl
    · rename_i state unclosed
      exact .pass unstarted unclosed

/-- One round of a scan: a step, unless the text has ended. -/
def round (dialect : Dialect σ) (scan : Scan σ) : Scan σ :=
  match scan.cursor.advance? with
  | none => scan
  | some next => scan.step dialect next

/-- A scan takes as many rounds as its cursor makes stops. -/
theorem run_eq_iterate (dialect : Dialect σ) (scan : Scan σ) :
    scan.run dialect = (round dialect)^[scan.cursor.stops.length] scan := by
  induction scan using run.induct dialect with
  | case1 scan atEnd =>
    rw [run_of_atEnd dialect atEnd, Cursor.stops_of_atEnd atEnd]
    rfl
  | case2 scan next moved ih =>
    have first : round dialect scan = scan.step dialect next := by
      simp only [round, moved]
    rw [run_of_advance dialect moved, ih, step_cursor, Cursor.stops_of_advance moved,
      List.length_cons, Function.iterate_succ_apply, first]

theorem run_atEnd (dialect : Dialect σ) (scan : Scan σ) :
    (scan.run dialect).cursor.atEnd = true := by
  induction scan using run.induct dialect with
  | case1 scan atEnd =>
    rw [run_of_atEnd dialect atEnd]
    simpa only [Cursor.advance?, ite_eq_left_iff, reduceCtorEq, imp_false, not_not,
      Bool.not_eq_true, Bool.not_eq_false] using atEnd
  | case2 scan next moved ih =>
    rw [run_of_advance dialect moved]
    exact ih

end Scan

/-- A call of a rule of a dialect with what it is given, and for a merge also what it answers. -/
inductive Call where
  | observe (cursor : Cursor)
  | start (cursor : Cursor)
  | found (draft : Draft)
  | close (region : Region) (cursor : Cursor)
  | merge (outline : Outline) (last id : Nat) (merges : Bool)
  | resume

namespace Call

/-- Where a record of calls observes the text. -/
def observations (record : List Call) : List Cursor :=
  record.filterMap fun
    | observe cursor => some cursor
    | _ => none

def merges (record : List Call) : List Nat :=
  record.filterMap fun
    | merge _ _ id true => some id
    | _ => none

@[simp] theorem observations_append (record further : List Call) :
    observations (record ++ further) = observations record ++ observations further :=
  List.filterMap_append

@[simp] theorem merges_append (record further : List Call) :
    merges (record ++ further) = merges record ++ merges further :=
  List.filterMap_append

theorem merges_resume (record : List Call) : merges (record ++ [resume]) = merges record :=
  (merges_append ..).trans (List.append_nil _)

end Call

namespace Dialect

variable {σ : Type} (dialect : Dialect σ)

/-- The dialect with a record of its calls beside its state. -/
def recorded : Dialect (σ × List Call) where
  observe done cursor := (dialect.observe done.1 cursor, done.2 ++ [.observe cursor])
  start done cursor :=
    let answer := dialect.start done.1 cursor
    ((answer.1, done.2 ++ [.start cursor]), answer.2)
  found done draft :=
    let answer := dialect.found done.1 draft
    ((answer.1, done.2 ++ [.found draft]), answer.2)
  close done region cursor :=
    let answer := dialect.close done.1 region cursor
    ((answer.1, done.2 ++ [.close region cursor]), answer.2)
  merge done outline last id :=
    let answer := dialect.merge done.1 outline last id
    ((answer.1, done.2 ++ [.merge outline last id answer.2]), answer.2)
  resume done := (dialect.resume done.1, done.2 ++ [.resume])

/-- The calls that are made for the outline of a text. -/
def record (state : σ) (document : Document) (tokens : List Token) : List Call :=
  (dialect.recorded.outline (state, []) document tokens).1.2

section Record

variable {dialect} {done after : σ × List Call} {cursor : Cursor}

@[simp] theorem record_observe :
    (dialect.recorded.observe done cursor).2 = done.2 ++ [.observe cursor] := rfl

@[simp] theorem record_resume : (dialect.recorded.resume done).2 = done.2 ++ [.resume] := rfl

theorem record_of_start {first? : Option Draft}
    (answer : dialect.recorded.start done cursor = (after, first?)) :
    after.2 = done.2 ++ [.start cursor] :=
  congrArg (fun answer => answer.1.2) answer.symm

theorem record_of_found {first draft : Draft}
    (answer : dialect.recorded.found done first = (after, draft)) :
    after.2 = done.2 ++ [.found first] :=
  congrArg (fun answer => answer.1.2) answer.symm

theorem record_of_close {region : Region} {stop? : Option Nat}
    (answer : dialect.recorded.close done region cursor = (after, stop?)) :
    after.2 = done.2 ++ [.close region cursor] :=
  congrArg (fun answer => answer.1.2) answer.symm

end Record

theorem recorded_finish (done : σ × List Call) (outline : Outline) (id : Nat) :
    ((dialect.recorded.finish done outline id).1.1, (dialect.recorded.finish done outline id).2) =
      dialect.finish done.1 outline id := by
  unfold finish
  cases (outline.region id).parent? with
  | none => rfl
  | some parent =>
    dsimp only
    cases (outline.region parent).children.back? with
    | none => rfl
    | some last =>
      dsimp only [recorded]
      cases dialect.merge done.1 outline last id with
      | mk state merges => cases merges <;> rfl

theorem observations_finish (done : σ × List Call) (outline : Outline) (id : Nat) :
    Call.observations (dialect.recorded.finish done outline id).1.2 =
      Call.observations done.2 := by
  unfold finish
  cases (outline.region id).parent? with
  | none => rfl
  | some parent =>
    dsimp only
    cases (outline.region parent).children.back? with
    | none => rfl
    | some last =>
      dsimp only [recorded]
      cases dialect.merge done.1 outline last id with
      | mk state merges =>
        cases merges <;> exact (Call.observations_append ..).trans (List.append_nil _)

/-- A finished region is settled behind the last one inside its parent, or that one takes it
in and the record says so. -/
theorem recorded_finish_cases (done : σ × List Call) {outline : Outline} {id parent : Nat}
    (linked : (outline.region id).parent? = some parent) :
    ((dialect.recorded.finish done outline id).2 =
        outline.settle id parent (outline.region parent).children.back? ∧
      Call.merges (dialect.recorded.finish done outline id).1.2 = Call.merges done.2) ∨
    ∃ last, (outline.region parent).children.back? = some last ∧
      (dialect.recorded.finish done outline id).2 = outline.absorb last id ∧
      Call.merges (dialect.recorded.finish done outline id).1.2 = Call.merges done.2 ++ [id] := by
  unfold finish
  rw [linked]
  dsimp only
  cases (outline.region parent).children.back? with
  | none => exact Or.inl ⟨rfl, rfl⟩
  | some last =>
    dsimp only [recorded]
    cases dialect.merge done.1 outline last id with
    | mk state merges =>
      cases merges with
      | true => exact Or.inr ⟨last, rfl, rfl, Call.merges_append ..⟩
      | false => exact Or.inl ⟨rfl, (Call.merges_append ..).trans (List.append_nil _)⟩

end Dialect

namespace Scan

variable {σ : Type} (dialect : Dialect σ) (scan : Scan (σ × List Call))

def unrecorded : Scan σ :=
  ⟨scan.cursor, scan.outline, scan.opened, scan.state.1⟩

theorem unrecorded_step (next : Cursor) :
    (scan.step dialect.recorded next).unrecorded = scan.unrecorded.step dialect next := by
  obtain ⟨cursor, outline, opened, before, record⟩ := scan
  dsimp only [step, unrecorded, Dialect.recorded]
  cases dialect.start (dialect.observe before cursor) cursor with
  | mk started first? =>
    cases first? with
    | some first =>
      dsimp only [enter, parent]
      split
      · exact congrArg (fun done : σ × Outline =>
          Scan.mk next done.2 opened (dialect.resume done.1)) (dialect.recorded_finish _ _ _)
      · rfl
    | none =>
      dsimp only [parent]
      cases dialect.close started (outline.region (opened.headD Outline.rootId)) cursor with
      | mk state stop? =>
        cases stop? with
        | none => rfl
        | some stop =>
          cases opened with
          | nil => rfl
          | cons id outer =>
            exact congrArg (fun done : σ × Outline =>
              Scan.mk next done.2 outer (dialect.resume done.1)) (dialect.recorded_finish _ _ _)

theorem unrecorded_run : (scan.run dialect.recorded).unrecorded = scan.unrecorded.run dialect := by
  induction scan using run.induct dialect.recorded with
  | case1 scan atEnd =>
    have same : scan.unrecorded.cursor.advance? = none := atEnd
    rw [run_of_atEnd dialect.recorded atEnd, run_of_atEnd dialect same]
  | case2 scan next moved ih =>
    have same : scan.unrecorded.cursor.advance? = some next := moved
    rw [run_of_advance dialect.recorded moved, ih, unrecorded_step, run_of_advance dialect same]

theorem recorded_drain : ((scan.drain dialect.recorded).1.1, (scan.drain dialect.recorded).2) =
    scan.unrecorded.drain dialect := by
  obtain ⟨cursor, outline, opened, done⟩ := scan
  dsimp only [drain, unrecorded]
  induction opened generalizing outline done with
  | nil => rfl
  | cons id outer ih =>
    rw [List.foldl_cons, List.foldl_cons, ← dialect.recorded_finish]
    exact ih _ _

theorem observations_step (next : Cursor) :
    Call.observations (scan.step dialect.recorded next).state.2 =
      Call.observations scan.state.2 ++ [scan.cursor] := by
  have move := step_move dialect.recorded scan next
  generalize scan.step dialect.recorded next = after at move
  cases move with
  | complete starts found ended finished =>
    rw [Dialect.record_resume, Call.observations_append, ← finished,
      Dialect.observations_finish, Dialect.record_of_found found,
      Dialect.record_of_start starts]
    simp [Call.observations]
  | unended starts found unended =>
    rw [Dialect.record_resume, Dialect.record_of_found found, Dialect.record_of_start starts]
    simp [Call.observations]
  | close unstarted closes innermost finished =>
    rw [Dialect.record_resume, Call.observations_append, ← finished,
      Dialect.observations_finish, Dialect.record_of_close closes,
      Dialect.record_of_start unstarted]
    simp [Call.observations]
  | stray unstarted closes outermost =>
    rw [Dialect.record_of_close closes, Dialect.record_of_start unstarted]
    simp [Call.observations]
  | pass unstarted unclosed =>
    rw [Dialect.record_of_close unclosed, Dialect.record_of_start unstarted]
    simp [Call.observations]

theorem observations_run : Call.observations (scan.run dialect.recorded).state.2 =
    Call.observations scan.state.2 ++ scan.cursor.stops := by
  induction scan using run.induct dialect.recorded with
  | case1 scan atEnd =>
    rw [run_of_atEnd dialect.recorded atEnd, Cursor.stops_of_atEnd atEnd, List.append_nil]
  | case2 scan next moved ih =>
    rw [run_of_advance dialect.recorded moved, ih, observations_step, step_cursor,
      Cursor.stops_of_advance moved, List.append_assoc, List.singleton_append]

theorem observations_drain :
    Call.observations (scan.drain dialect.recorded).1.2 = Call.observations scan.state.2 := by
  obtain ⟨cursor, outline, opened, done⟩ := scan
  dsimp only [drain]
  induction opened generalizing outline done with
  | nil => rfl
  | cons id outer ih =>
    rw [List.foldl_cons, ih, dialect.observations_finish]

end Scan

namespace Dialect

variable {σ : Type} (dialect : Dialect σ) (state : σ) (document : Document) (tokens : List Token)

/-- The record changes nothing: the dialect that keeps it ends in the same state and makes the
same outline. -/
theorem recorded_outline : dialect.recorded.outline (state, []) document tokens =
    (((dialect.outline state document tokens).1, dialect.record state document tokens),
      (dialect.outline state document tokens).2) := by
  have start : (Scan.start dialect.recorded (state, []) document tokens).unrecorded =
      Scan.start dialect state document tokens := rfl
  have same : ((dialect.recorded.outline (state, []) document tokens).1.1,
      (dialect.recorded.outline (state, []) document tokens).2) =
        dialect.outline state document tokens := by
    unfold outline
    rw [Scan.recorded_drain, Scan.unrecorded_run, start]
  rw [← same]
  rfl

/-- Every position at which the cursor stops is observed once, in the order of the text. -/
theorem observations_record :
    Call.observations (dialect.record state document tokens) =
      (Cursor.ofTokens document tokens).stops := by
  unfold record outline
  rw [Scan.observations_drain, Scan.observations_run]
  rfl

end Dialect

end CodeFolding
