import CodeFolding.Dialect.Brace
import CodeFolding.Proofs.Cursor
import CodeFolding.Proofs.Outline.Raise

set_option autoImplicit false

namespace CodeFolding

namespace Scan

section Run

variable {σ : Type} (dialect : Dialect σ)

theorem run_of_atEnd {scan : Scan σ} (atEnd : scan.cursor.advance? = none) :
    scan.run dialect = scan := by
  unfold run
  split
  · rfl
  · rename_i next moved
    cases atEnd.symm.trans moved

theorem run_of_advance {scan : Scan σ} {next : Cursor}
    (moved : scan.cursor.advance? = some next) :
    scan.run dialect = (scan.step dialect next).run dialect := by
  rw [run]
  split
  · rename_i atEnd
    cases moved.symm.trans atEnd
  · rename_i other same
    cases moved.symm.trans same
    rfl

theorem run_induction (holds : Scan σ → Prop)
    (kept : ∀ scan next, holds scan → scan.cursor.advance? = some next →
      holds (scan.step dialect next))
    (scan : Scan σ) (first : holds scan) : holds (scan.run dialect) := by
  induction scan using run.induct dialect with
  | case1 scan atEnd =>
    rw [run_of_atEnd dialect atEnd]
    exact first
  | case2 scan next moved ih =>
    rw [run_of_advance dialect moved]
    exact ih (kept scan next first moved)

end Run

end Scan

/-- An outline can be evaluated where the tokens are sorted already. -/
theorem Dialect.outline_of_sorted {σ : Type} (dialect : Dialect σ) (state : σ)
    (document : Document) {tokens : List Token}
    (sorted : tokens.Pairwise fun left right => left.toSpan.le right.toSpan = true) :
    dialect.outline state document tokens =
      (Scan.run dialect ⟨Cursor.settle document (Token.select document.length 0 tokens) 0 none,
        Outline.blank document, [], dialect.resume state⟩).drain dialect := by
  rw [outline, Scan.start, Cursor.ofTokens_of_sorted document sorted]

namespace BraceRules

/-- The rules of a language without named regions and function keywords. -/
def unmarked : BraceRules :=
  ⟨fun _ => none, fun _ => false, fun _ => none, fun _ => false, fun _ => false⟩

/-- What is known of a region that a language with braces starts at the cursor. -/
inductive Begins (cursor : Cursor) (draft : Draft) : Prop
  | bracket (here : draft.start = cursor.position) (unended : draft.stop? = none)
      (kind : draft.kind.IsBracket)
      (opener : cursor.char? = some '\x7b' ∨ cursor.char? = some '[')
  | named (here : draft.start = cursor.position) (unended : draft.stop? = none)
      (kind : draft.kind = .named)
  | comment (token : Token) (here : draft.start = cursor.position)
      (current : cursor.token? = some token) (class_eq : token.kind = .comment)
      (ended : draft.stop? = some token.stop) (kind : draft.kind = .comment)

/-- What is known of the end at which a language with braces closes a region of a kind. -/
inductive Ends (cursor : Cursor) (kind : Region.Kind) (stop : Nat) : Prop
  | bracket (token : Token) (current : cursor.token? = some token)
      (class_eq : token.kind = .punctuation) (bracket : kind.IsBracket)
      (closer : cursor.char? = some '\x7d' ∨ cursor.char? = some ']')
      (behind : stop = cursor.position + 1)
  | named (token : Token) (current : cursor.token? = some token)
      (class_eq : token.kind = .comment ∨ token.kind = .directive) (named : kind = .named)
      (behind : stop = token.stop)

variable {rules : BraceRules} {tokens : List Token} {cursor : Cursor} {draft : Draft}

theorem start?_begins (sound : cursor.Sound tokens) (started : rules.start? cursor = some draft) :
    Begins cursor draft := by
  unfold start? at started
  split at started
  · exact nomatch started
  · rename_i token current
    have facts := sound.current token current
    split at started
    · split at started
      · rename_i brace
        cases started
        exact .bracket rfl rfl (Or.inl rfl) (Or.inl brace)
      · rename_i square
        cases started
        exact .bracket rfl rfl (Or.inr rfl) (Or.inr square)
      · exact nomatch started
    · rename_i comment
      split at started
      · rename_i here
        unfold startComment? at started
        split at started
        · cases started
          exact .named here rfl rfl
        · split at started
          · exact nomatch started
          · cases started
            exact .comment token here current comment rfl rfl
      · exact nomatch started
    · rename_i directive
      obtain ⟨name, -, rfl⟩ := Option.map_eq_some_iff.1 started
      exact .named (facts.atStart (by rw [directive]; rfl)) rfl rfl
    · exact nomatch started

theorem Begins.start_eq (begins : Begins cursor draft) : draft.start = cursor.position := by
  cases begins with
  | bracket here => exact here
  | named here => exact here
  | comment token here => exact here

theorem close?_ends {kind : Region.Kind} {stop : Nat}
    (closed : rules.close? kind cursor = some stop) : Ends cursor kind stop := by
  unfold close? at closed
  split at closed
  · exact nomatch closed
  · rename_i token current
    split at closed
    · rename_i punctuation
      split at closed
      · rename_i brace
        cases closed
        exact .bracket token current punctuation (Or.inl rfl) (Or.inl brace) rfl
      · exact nomatch closed
    · rename_i punctuation
      split at closed
      · rename_i square
        cases closed
        exact .bracket token current punctuation (Or.inr rfl) (Or.inr square) rfl
      · exact nomatch closed
    · rename_i comment
      split at closed
      · cases closed
        exact .named token current (Or.inl comment) rfl rfl
      · exact nomatch closed
    · rename_i directive
      split at closed
      · cases closed
        exact .named token current (Or.inr directive) rfl rfl
      · exact nomatch closed
    · exact nomatch closed

/-- A region is closed where the cursor goes next. -/
theorem Ends.stop_eq_position {next : Cursor} {kind : Region.Kind} {stop : Nat}
    (ends : Ends cursor kind stop) (moved : cursor.advance? = some next) :
    stop = next.position := by
  rw [Cursor.position_of_advance? moved]
  cases ends with
  | bracket token current class_eq _ _ behind =>
    rw [Cursor.nextPosition_of_compound current (by rw [class_eq]; rfl)]
    exact behind
  | named token current class_eq _ behind =>
    have whole : token.kind.isCompound = false := by
      rcases class_eq with kind | kind <;> rw [kind] <;> rfl
    rw [Cursor.nextPosition_of_whole current whole]
    exact behind

theorem Begins.withRole (begins : Begins cursor draft) (role : Region.Role) :
    Begins cursor { draft with role := role } := by
  cases begins with
  | bracket here unended kind opener => exact .bracket here unended kind opener
  | named here unended kind => exact .named here unended kind
  | comment token here current class_eq ended kind =>
    exact .comment token here current class_eq ended kind

/-- The role of a region that starts: a block is the body of a function if one has been announced.
-/
def roleOf (announced : Bool) (draft : Draft) : Region.Role :=
  if draft.kind = .block && announced then .function else draft.role

theorem found_eq_withRole (rules : BraceRules) (announced : Bool) (draft : Draft) :
    ((Dialect.brace rules).found announced draft).2 =
      { draft with role := roleOf announced draft } := by
  simp only [Dialect.brace, roleOf]
  split <;> rfl

end BraceRules

namespace Outline

def finish (outline : Outline) (id : Nat) : Outline :=
  match (outline.region id).parent? with
  | none => outline
  | some parent =>
    match (outline.region parent).children.back? with
    | none => outline.settle id parent none
    | some last =>
      if outline.commentsAdjoin last id then outline.absorb last id
      else outline.settle id parent (some last)

theorem brace_finish (rules : BraceRules) (announced : Bool) (outline : Outline) (id : Nat) :
    (Dialect.brace rules).finish announced outline id = (announced, outline.finish id) := by
  unfold Dialect.finish finish
  cases (outline.region id).parent? with
  | none => rfl
  | some parent =>
    dsimp only
    cases (outline.region parent).children.back? with
    | none => rfl
    | some last =>
      simp only [Dialect.brace]
      cases outline.commentsAdjoin last id <;> rfl

theorem finish_cases {outline : Outline} {id parent : Nat}
    (linked : (outline.region id).parent? = some parent) :
    outline.finish id = outline.settle id parent (outline.region parent).children.back? ∨
      ∃ last, (outline.region parent).children.back? = some last ∧
        outline.commentsAdjoin last id = true ∧ outline.finish id = outline.absorb last id := by
  unfold finish
  rw [linked]
  dsimp only
  cases found : (outline.region parent).children.back? with
  | none => exact Or.inl rfl
  | some last =>
    dsimp only
    split
    · rename_i adjoin
      exact Or.inr ⟨last, rfl, adjoin, rfl⟩
    · exact Or.inl rfl

@[simp] theorem document_finish (outline : Outline) (id : Nat) :
    (outline.finish id).document = outline.document := by
  unfold finish
  split
  · rfl
  · split
    · exact document_settle ..
    · split
      · exact document_absorb ..
      · exact document_settle ..

end Outline

namespace Scan

/-- One step of a scan in a language with braces, to the cursor `next`, with the answers of the
rules that it depends on. -/
inductive Act (rules : BraceRules) (scan : Scan Bool) (next : Cursor) : Scan Bool → Prop
  | pass (announced : Bool) (unstarted : rules.start? scan.cursor = none)
      (unclosed : ∀ id outer, scan.opened = id :: outer →
        rules.close? (scan.outline.region id).kind scan.cursor = none) :
      Act rules scan next ⟨next, scan.outline, scan.opened, announced⟩
  | start (draft : Draft) (role : Region.Role) (starts : rules.start? scan.cursor = some draft)
      (unended : draft.stop? = none) :
      Act rules scan next ⟨next, scan.outline.add { draft with role := role } scan.parent,
        scan.outline.size :: scan.opened, false⟩
  | comment (draft : Draft) (role : Region.Role) (starts : rules.start? scan.cursor = some draft)
      (ended : draft.stop? ≠ none) :
      Act rules scan next
        ⟨next, (scan.outline.add { draft with role := role } scan.parent).finish scan.outline.size,
          scan.opened, false⟩
  | close (id : Nat) (outer : List Nat) (stop : Nat) (innermost : scan.opened = id :: outer)
      (unstarted : rules.start? scan.cursor = none)
      (closes : rules.close? (scan.outline.region id).kind scan.cursor = some stop) :
      Act rules scan next ⟨next, (scan.outline.close id stop).finish id, outer, false⟩

/-- Whether a function has been announced when the cursor has been looked at. -/
def heard (rules : BraceRules) (scan : Scan Bool) : Bool :=
  scan.state || rules.announcesFunction scan.cursor

/-- One step of a scan in a language with braces as in `Act`, with the roles that new regions get
and the announcement that is left. -/
inductive Heeds (rules : BraceRules) (scan : Scan Bool) (next : Cursor) : Scan Bool → Prop
  | pass (unstarted : rules.start? scan.cursor = none)
      (unclosed : ∀ id outer, scan.opened = id :: outer →
        rules.close? (scan.outline.region id).kind scan.cursor = none) :
      Heeds rules scan next ⟨next, scan.outline, scan.opened, scan.heard rules⟩
  | start (draft : Draft) (starts : rules.start? scan.cursor = some draft)
      (unended : draft.stop? = none) :
      Heeds rules scan next ⟨next, scan.outline.add
        { draft with role := BraceRules.roleOf (scan.heard rules) draft } scan.parent,
        scan.outline.size :: scan.opened, false⟩
  | comment (draft : Draft) (starts : rules.start? scan.cursor = some draft)
      (ended : draft.stop? ≠ none) :
      Heeds rules scan next ⟨next, (scan.outline.add
        { draft with role := BraceRules.roleOf (scan.heard rules) draft } scan.parent).finish
        scan.outline.size, scan.opened, false⟩
  | close (id : Nat) (outer : List Nat) (stop : Nat) (innermost : scan.opened = id :: outer)
      (unstarted : rules.start? scan.cursor = none)
      (closes : rules.close? (scan.outline.region id).kind scan.cursor = some stop) :
      Heeds rules scan next ⟨next, (scan.outline.close id stop).finish id, outer, false⟩

theorem step_heeds (rules : BraceRules) (scan : Scan Bool) (next : Cursor) :
    Heeds rules scan next (scan.step (Dialect.brace rules) next) := by
  unfold step
  dsimp only
  split
  · rename_i announced draft started
    simp only [Dialect.brace, Prod.mk.injEq] at started
    obtain ⟨rfl, starts⟩ := started
    unfold enter
    dsimp only
    rw [Outline.brace_finish, rules.found_eq_withRole]
    split
    · rename_i complete
      refine .comment draft starts ?_
      intro unended
      rw [Draft.isComplete, unended] at complete
      exact nomatch complete
    · rename_i incomplete
      refine .start draft starts ?_
      simpa only [Draft.isComplete, Bool.not_eq_true, Option.isSome_eq_false_iff,
        Option.isNone_iff_eq_none] using incomplete
  · rename_i announced quiet
    simp only [Dialect.brace, Prod.mk.injEq] at quiet
    obtain ⟨rfl, unstarted⟩ := quiet
    split
    · rename_i announced' stop closed
      simp only [Dialect.brace, Prod.mk.injEq] at closed
      obtain ⟨rfl, closes⟩ := closed
      unfold leave
      split
      · exact .pass unstarted (fun id outer absent => nomatch absent)
      · rename_i cursor outline id outer state
        rw [Outline.brace_finish]
        exact .close id outer stop rfl unstarted closes
    · rename_i announced' unclosed
      simp only [Dialect.brace, Prod.mk.injEq] at unclosed
      obtain ⟨rfl, unclosed⟩ := unclosed
      refine .pass unstarted ?_
      intro id outer innermost
      rw [parent, innermost, List.headD_cons] at unclosed
      exact unclosed

theorem step_act (rules : BraceRules) (scan : Scan Bool) (next : Cursor) :
    Act rules scan next (scan.step (Dialect.brace rules) next) := by
  have heeds := step_heeds rules scan next
  generalize scan.step (Dialect.brace rules) next = after at heeds
  cases heeds with
  | pass unstarted unclosed => exact .pass _ unstarted unclosed
  | start draft starts unended => exact .start draft _ starts unended
  | comment draft starts ended => exact .comment draft _ starts ended
  | close id outer stop innermost unstarted closes =>
    exact .close id outer stop innermost unstarted closes

/-- One step of a scan in a language with braces, to the cursor `next`. -/
inductive Turn (rules : BraceRules) (scan : Scan Bool) (next : Cursor) : Scan Bool → Prop
  | pass (announced : Bool) (unstarted : rules.start? scan.cursor = none) :
      Turn rules scan next ⟨next, scan.outline, scan.opened, announced⟩
  | start (draft : Draft) (begins : BraceRules.Begins scan.cursor draft)
      (unended : draft.stop? = none) :
      Turn rules scan next
        ⟨next, scan.outline.add draft scan.parent, scan.outline.size :: scan.opened, false⟩
  | comment (draft : Draft) (begins : BraceRules.Begins scan.cursor draft)
      (ended : draft.stop? ≠ none) :
      Turn rules scan next
        ⟨next, (scan.outline.add draft scan.parent).finish scan.outline.size, scan.opened, false⟩
  | close (id : Nat) (outer : List Nat) (stop : Nat) (innermost : scan.opened = id :: outer)
      (unstarted : rules.start? scan.cursor = none)
      (ends : BraceRules.Ends scan.cursor (scan.outline.region id).kind stop) :
      Turn rules scan next ⟨next, (scan.outline.close id stop).finish id, outer, false⟩

theorem Act.turn {rules : BraceRules} {tokens : List Token} {scan after : Scan Bool}
    {next : Cursor} (act : Act rules scan next after) (sound : scan.cursor.Sound tokens) :
    Turn rules scan next after := by
  cases act with
  | pass announced unstarted => exact .pass announced unstarted
  | start draft role starts unended =>
    exact .start _ ((BraceRules.start?_begins sound starts).withRole role) unended
  | comment draft role starts ended =>
    exact .comment _ ((BraceRules.start?_begins sound starts).withRole role) ended
  | close id outer stop innermost unstarted closes =>
    exact .close id outer stop innermost unstarted (BraceRules.close?_ends closes)

theorem Turn.cursor {rules : BraceRules} {scan after : Scan Bool} {next : Cursor}
    (turn : Turn rules scan next after) : after.cursor = next := by
  cases turn <;> rfl

theorem Turn.document {rules : BraceRules} {scan after : Scan Bool} {next : Cursor}
    (turn : Turn rules scan next after) :
    after.outline.document = scan.outline.document := by
  cases turn with
  | pass => rfl
  | start => rfl
  | comment => exact Outline.document_finish ..
  | close => exact Outline.document_finish ..

/-- A scan of `document` along `tokens`. -/
structure Tracks (tokens : List Token) (document : Document) (scan : Scan Bool) : Prop where
  sound : scan.cursor.Sound tokens
  text : scan.cursor.document = document
  same : scan.outline.document = document

namespace Tracks

variable {rules : BraceRules} {tokens : List Token} {document : Document}
  {scan after : Scan Bool} {next : Cursor}

theorem turn (tracks : Tracks tokens document scan) (moved : scan.cursor.advance? = some next)
    (turn : Turn rules scan next after) : Tracks tokens document after := by
  refine ⟨?_, ?_, turn.document.trans tracks.same⟩
  · rw [turn.cursor]
    exact tracks.sound.advance moved
  · rw [turn.cursor]
    exact (Cursor.document_of_advance? moved).trans tracks.text

end Tracks

/-- The scan of a text in a language with braces, at the end of the text. -/
def braceRun (rules : BraceRules) (announced : Bool) (document : Document)
    (tokens : List Token) : Scan Bool :=
  (Scan.start (Dialect.brace rules) announced document tokens).run (Dialect.brace rules)

/-- What holds at the start of a scan and is kept by every step holds at its end. -/
theorem braceRun_acts (rules : BraceRules) (announced : Bool) (document : Document)
    (tokens : List Token) (holds : Scan Bool → Prop)
    (first : holds (Scan.start (Dialect.brace rules) announced document tokens))
    (kept : ∀ scan next, Tracks tokens document scan → scan.cursor.advance? = some next →
      holds scan → holds (scan.step (Dialect.brace rules) next)) :
    Tracks tokens document (braceRun rules announced document tokens) ∧
      holds (braceRun rules announced document tokens) := by
  refine run_induction (Dialect.brace rules)
    (fun scan => Tracks tokens document scan ∧ holds scan) ?_ _ ⟨?_, first⟩
  · rintro scan next ⟨tracks, before⟩ moved
    exact ⟨tracks.turn moved ((step_act rules scan next).turn tracks.sound),
      kept scan next tracks moved before⟩
  · exact ⟨Cursor.ofTokens_sound document tokens, Cursor.ofTokens_document document tokens, rfl⟩

/-- What holds at the start of a scan and is kept by every turn holds at its end. -/
theorem braceRun_induction (rules : BraceRules) (announced : Bool) (document : Document)
    (tokens : List Token) (holds : Scan Bool → Prop)
    (first : holds (Scan.start (Dialect.brace rules) announced document tokens))
    (kept : ∀ scan next after, Tracks tokens document scan → scan.cursor.advance? = some next →
      Turn rules scan next after → holds scan → holds after) :
    Tracks tokens document (braceRun rules announced document tokens) ∧
      holds (braceRun rules announced document tokens) := by
  refine braceRun_acts rules announced document tokens holds first ?_
  intro scan next tracks moved before
  exact kept scan next _ tracks moved ((step_act rules scan next).turn tracks.sound) before

end Scan

end CodeFolding
