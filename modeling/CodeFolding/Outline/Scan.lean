import CodeFolding.Dialect

set_option autoImplicit false

namespace CodeFolding

namespace Outline

/-- The first line to which the start of a region may go back: below the region in front of it,
or below the start of the region around it. -/
def raiseLimit (outline : Outline) (parent : Nat) (previous? : Option Nat) : Nat :=
  match previous? with
  | none =>
    if (outline.region parent).kind = .document then 0 else outline.startLine parent + 1
  | some previous =>
    let first := outline.startLine previous
    let last := (outline.stopLine? previous).getD first
    if last = first then last else last + 1

/-- The last line from `limit` on and above `line` that is not blank. -/
def lastSolidLine? (document : Document) (limit : Nat) : Nat → Option Nat
  | 0 => none
  | line + 1 =>
    if line < limit then none
    else if document.isBlankLine line then lastSolidLine? document limit line
    else some line

/-- Where the start of a region goes back to. A bracket that has its line for itself folds from
the end of the text above it. Named regions, comments and regions on one line stay. -/
def raisedStart? (outline : Outline) (id parent : Nat) (previous? : Option Nat) : Option Nat :=
  let region := outline.region id
  if region.kind = .named ∨ region.kind = .comment then none
  else if outline.isMultiLine id && Text.isBlank (outline.leadingText id).toList then
    (lastSolidLine? outline.document (outline.raiseLimit parent previous?)
      (outline.startLine id)).map outline.document.lineEnd
  else none

/-- Lists a finished region behind `previous?`, and lets its start go back. -/
def settle (outline : Outline) (id parent : Nat) (previous? : Option Nat) : Outline :=
  let start? := outline.raisedStart? id parent previous?
  let outline := outline.enlist parent id
  match start? with
  | some start => outline.setStart id start
  | none => outline

end Outline

namespace Dialect

/-- Finishes a region: merges it into the region in front of it, or lists it. -/
def finish {σ : Type} (dialect : Dialect σ) (state : σ) (outline : Outline) (id : Nat) :
    σ × Outline :=
  match (outline.region id).parent? with
  | none => (state, outline)
  | some parent =>
    match (outline.region parent).children.back? with
    | none => (state, outline.settle id parent none)
    | some last =>
      match dialect.merge state outline last id with
      | (state, true) => (state, outline.absorb last id)
      | (state, false) => (state, outline.settle id parent (some last))

end Dialect

/-- A pass over a text: the cursor, the outline so far, the open regions from the inside out, and
the state of the dialect. -/
structure Scan (σ : Type) where
  cursor : Cursor
  outline : Outline
  opened : List Nat
  state : σ

namespace Scan

def parent {σ : Type} (scan : Scan σ) : Nat :=
  scan.opened.headD Outline.rootId

/-- Enters a region that starts here, and goes on at `next`. -/
def enter {σ : Type} (dialect : Dialect σ) (scan : Scan σ) (next : Cursor) (state : σ)
    (draft : Draft) : Scan σ :=
  let parent := scan.parent
  let ⟨_, outline, opened, _⟩ := scan
  let (state, draft) := dialect.found state draft
  let id := outline.size
  let outline := outline.add draft parent
  if draft.isComplete then
    let (state, outline) := dialect.finish state outline id
    ⟨next, outline, opened, dialect.resume state⟩
  else ⟨next, outline, id :: opened, dialect.resume state⟩

/-- Closes the innermost open region at `stop`, and goes on at `next`. The root stays open. -/
def leave {σ : Type} (dialect : Dialect σ) (scan : Scan σ) (next : Cursor) (state : σ)
    (stop : Nat) : Scan σ :=
  match scan with
  | ⟨_, outline, [], _⟩ => ⟨next, outline, [], state⟩
  | ⟨_, outline, id :: opened, _⟩ =>
    let (state, outline) := dialect.finish state (outline.close id stop) id
    ⟨next, outline, opened, dialect.resume state⟩

/-- What happens at the position of the cursor; the scan goes on at `next`. -/
def step {σ : Type} (dialect : Dialect σ) (scan : Scan σ) (next : Cursor) : Scan σ :=
  let state := dialect.observe scan.state scan.cursor
  match dialect.start state scan.cursor with
  | (state, some draft) => scan.enter dialect next state draft
  | (state, none) =>
    match dialect.close state (scan.outline.region scan.parent) scan.cursor with
    | (state, some stop) => scan.leave dialect next state stop
    | (state, none) => { scan with cursor := next, state := state }

@[simp] theorem enter_cursor {σ : Type} (dialect : Dialect σ) (scan : Scan σ) (next : Cursor)
    (state : σ) (draft : Draft) : (scan.enter dialect next state draft).cursor = next := by
  unfold enter
  dsimp only
  split <;> rfl

@[simp] theorem leave_cursor {σ : Type} (dialect : Dialect σ) (scan : Scan σ) (next : Cursor)
    (state : σ) (stop : Nat) : (scan.leave dialect next state stop).cursor = next := by
  unfold leave
  split <;> rfl

@[simp] theorem step_cursor {σ : Type} (dialect : Dialect σ) (scan : Scan σ) (next : Cursor) :
    (scan.step dialect next).cursor = next := by
  unfold step
  dsimp only
  split
  · exact enter_cursor ..
  · split
    · exact leave_cursor ..
    · rfl

/-- Steps to the end of the text. -/
def run {σ : Type} (dialect : Dialect σ) (scan : Scan σ) : Scan σ :=
  match _moved : scan.cursor.advance? with
  | none => scan
  | some next => run dialect (scan.step dialect next)
termination_by scan.cursor.remaining
decreasing_by
  rw [step_cursor]
  exact Cursor.remaining_of_advance? ‹_›

/-- A scan at the beginning of a text. -/
def start {σ : Type} (dialect : Dialect σ) (state : σ) (document : Document)
    (tokens : List Token) : Scan σ :=
  ⟨Cursor.ofTokens document tokens, Outline.blank document, [], dialect.resume state⟩

def drain {σ : Type} (dialect : Dialect σ) (scan : Scan σ) : σ × Outline :=
  scan.opened.foldl (fun done id => dialect.finish done.1 done.2 id) (scan.state, scan.outline)

end Scan

/-- The outline of a text whose tokens are known, and the state in which it leaves the dialect. -/
def Dialect.outline {σ : Type} (dialect : Dialect σ) (state : σ) (document : Document)
    (tokens : List Token) : σ × Outline :=
  ((Scan.start dialect state document tokens).run dialect).drain dialect

end CodeFolding
