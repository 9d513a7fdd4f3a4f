import CodeFolding.Proofs.Buffer.Window

set_option autoImplicit false

namespace CodeFolding

/-- `chars` with the text `old`, which has to stand at `start`, exchanged for `new`. -/
def exchange? (start : Nat) (old new chars : List Char) : Option (List Char) :=
  if start ≤ chars.length ∧ old.isPrefixOf (chars.drop start) then
    some (chars.take start ++ new ++ chars.drop (start + old.length))
  else none

theorem exchange?_append (front old new back : List Char) :
    exchange? front.length old new (front ++ old ++ back) = some (front ++ new ++ back) := by
  have stands : old.isPrefixOf ((front ++ old ++ back).drop front.length) = true := by
    rw [List.append_assoc, List.drop_left, List.isPrefixOf_iff_prefix]
    exact List.prefix_append old back
  have reached : front.length ≤ (front ++ old ++ back).length := by
    simp only [List.length_append]
    omega
  have rest : (front ++ old ++ back).drop (front.length + old.length) = back := by
    rw [← List.length_append, List.drop_left]
  have kept : (front ++ old ++ back).take front.length = front := by
    rw [List.append_assoc, List.take_left]
  rw [exchange?, if_pos ⟨reached, stands⟩, rest, kept]

namespace Edit

/-- Makes the edit in a text that has the deleted text in its place. -/
def redo? (edit : Edit) (chars : List Char) : Option (List Char) :=
  exchange? edit.start edit.deleted.toList edit.inserted.toList chars

/-- Takes the edit back in a text that has the inserted text in its place. -/
def undo? (edit : Edit) (chars : List Char) : Option (List Char) :=
  exchange? edit.start edit.inserted.toList edit.deleted.toList chars

end Edit

namespace Change

def redo? (change : Change) (chars : List Char) : Option (List Char) :=
  change.edits.foldlM (fun chars edit => edit.redo? chars) chars

def undo? (change : Change) (chars : List Char) : Option (List Char) :=
  change.edits.reverse.foldlM (fun chars edit => edit.undo? chars) chars

/-- Makes changes again, one after the other. -/
def redoAll (changes : List Change) (chars : List Char) : Option (List Char) :=
  changes.foldlM (fun chars change => change.redo? chars) chars

/-- Takes changes back, the last one first. -/
def undoAll (changes : List Change) (chars : List Char) : Option (List Char) :=
  changes.reverse.foldlM (fun chars change => change.undo? chars) chars

/-- Changes turn one text into another, and taking them back turns that into the first one. -/
structure Turns (changes : List Change) (before after : List Char) : Prop where
  redo : redoAll changes before = some after
  undo : undoAll changes after = some before

theorem Turns.nil (chars : List Char) : Turns [] chars chars :=
  ⟨rfl, rfl⟩

theorem Turns.append {front back : List Change} {before middle after : List Char}
    (first : Turns front before middle) (second : Turns back middle after) :
    Turns (front ++ back) before after := by
  have redo : redoAll (front ++ back) before = (redoAll front before).bind (redoAll back) :=
    List.foldlM_append
  have undo : undoAll (front ++ back) after = (undoAll back after).bind (undoAll front) := by
    unfold undoAll
    rw [List.reverse_append, List.foldlM_append]
    rfl
  constructor
  · rw [redo, first.redo, Option.bind_some, second.redo]
  · rw [undo, second.undo, Option.bind_some, first.undo]

/-- A change with one edit turns a text that has the deleted text at its place into the text that
has the inserted one there. -/
theorem turns_of_edit {change : Change} {edit : Edit} (only : change.edits = [edit])
    (front back : List Char) (place : front.length = edit.start) :
    Turns [change] (front ++ edit.deleted.toList ++ back)
      (front ++ edit.inserted.toList ++ back) := by
  have redo := exchange?_append front edit.deleted.toList edit.inserted.toList back
  have undo := exchange?_append front edit.inserted.toList edit.deleted.toList back
  rw [place] at redo undo
  constructor
  · simpa [redoAll, Change.redo?, only, Edit.redo?] using redo
  · simpa [undoAll, Change.undo?, only, Edit.undo?] using undo

end Change

theorem Document.chars_eq_append (document : Document) {span : Span}
    (within : span.Within document.length) :
    document.chars.toList = document.chars.toList.take span.start ++
      (document.slice span).toList ++ document.chars.toList.drop span.stop := by
  obtain ⟨inOrder, inside⟩ := within
  have rest : document.chars.toList.drop span.stop =
      (document.chars.toList.drop span.start).drop (span.stop - span.start) := by
    rw [List.drop_drop, Nat.add_sub_cancel' inOrder]
  rw [document.toList_slice inOrder inside, rest, List.append_assoc, List.take_append_drop,
    List.take_append_drop]

namespace Buffer

variable {document : Document} {span : Span}

theorem splice_toList (inserted : Array Char) :
    (splice document span inserted).toList = document.chars.toList.take span.start ++
      inserted.toList ++ document.chars.toList.drop span.stop := by
  have front : (document.chars.extract 0 span.start).toList =
      document.chars.toList.take span.start := by
    simp
  have back : (document.chars.extract span.stop document.length).toList =
      document.chars.toList.drop span.stop := by
    rw [Array.toList_extract, List.extract_eq_take_drop]
    apply List.take_of_length_le
    rw [List.length_drop]
    exact Nat.le_refl _
  rw [splice, Array.toList_append, Array.toList_append, front, back]

/-- The changes that a buffer makes tell what they do. -/
theorem changeOf_turns (buffer : Buffer) (text : String)
    (within : span.Within buffer.current.document.length) :
    Change.Turns [buffer.changeOf span text] buffer.current.document.chars.toList
      (buffer.replaced span text).current.document.chars.toList := by
  have place : (buffer.current.document.chars.toList.take span.start).length = span.start := by
    obtain ⟨inOrder, inside⟩ := within
    rw [List.length_take, Array.length_toList]
    exact Nat.min_eq_left (Nat.le_trans inOrder inside)
  have only : (buffer.changeOf span text).edits =
      [⟨span.start, buffer.current.document.slice span, text⟩] := rfl
  have turns := Change.turns_of_edit only _
    (buffer.current.document.chars.toList.drop span.stop) place
  rw [← buffer.current.document.chars_eq_append within] at turns
  change Change.Turns _ _ (splice buffer.current.document span text.toList.toArray).toList
  rw [splice_toList]
  exact turns

theorem perform_eq_error_iff (buffer : Buffer) (command : Command) (fault : OutOfBounds) :
    buffer.perform command = .error fault ↔
      (command.span.stop < command.span.start ∨
        buffer.current.document.length < command.span.stop) ∧
      fault = ⟨command.span.start, command.span.stop, buffer.current.document.length⟩ := by
  have outside : command.span.stop < command.span.start ∨
      buffer.current.document.length < command.span.stop ↔
        ¬ command.span.Within buffer.current.document.length := by
    unfold Span.Within
    omega
  rw [outside, buffer.perform_eq_replace]
  by_cases within : command.span.Within buffer.current.document.length
  · rw [buffer.replace_of_within command.text within]
    exact ⟨fun refused => (nomatch refused), fun facts => absurd within facts.1⟩
  · rw [buffer.replace_of_not_within command.text within, Except.error.injEq]
    exact ⟨fun same => ⟨within, same.symm⟩, fun facts => facts.2.symm⟩

end Buffer

namespace Change

/-- What a change says of the revisions before and after it. -/
structure Connects (change : Change) (older newer : Revision) : Prop where
  base : change.baseVersion = older.version
  next : newer.version = older.version + 1
  lengthBefore : change.lengthBefore = older.document.length
  lengthAfter : change.lengthAfter = newer.document.length
  turns : Turns [change] older.document.chars.toList newer.document.chars.toList

theorem Makes.connects {change : Change} {older newer : Revision}
    (makes : change.Makes older newer) : change.Connects older newer := by
  have next := makes.version
  obtain ⟨before, after, span, text, taken, rfl, rfl, rfl⟩ := makes
  obtain ⟨within, rfl⟩ := (before.replace_eq_ok_iff after span text).1 taken
  exact ⟨rfl, next, rfl, rfl, before.changeOf_turns text within⟩

end Change

namespace Succession

open Change (Turns)

variable {revisions : List Revision} {changes : List Change}

theorem exists_connects (succession : Succession revisions changes) :
    ∀ change ∈ changes, ∃ older ∈ revisions, ∃ newer ∈ revisions, change.Connects older newer := by
  induction succession with
  | start => exact fun change member => absurd member List.not_mem_nil
  | @next newest latest past changes last earlier makes ih =>
    intro change member
    rcases List.mem_append.1 member with old | new
    · obtain ⟨older, memberOlder, newer, memberNewer, connects⟩ := ih change old
      exact ⟨older, List.mem_cons_of_mem _ memberOlder, newer, List.mem_cons_of_mem _ memberNewer,
        connects⟩
    · rw [List.mem_singleton.1 new]
      exact ⟨latest, List.mem_cons_of_mem _ List.mem_cons_self, newest, List.mem_cons_self,
        makes.connects⟩

/-- The changes between two revisions turn the text of the one into that of the other. -/
theorem turns (succession : Succession revisions changes) :
    ∀ older ∈ revisions, ∀ newer ∈ revisions, older.version ≤ newer.version →
      Turns ((changes.take newer.version).drop older.version) older.document.chars.toList
        newer.document.chars.toList := by
  induction succession with
  | @start revision original =>
    intro older memberOlder newer memberNewer before
    rw [List.mem_singleton.1 memberOlder, List.mem_singleton.1 memberNewer, List.take_nil,
      List.drop_nil]
    exact .nil _
  | @next newest latest past changes last earlier makes ih =>
    have full : newest.version = (changes ++ [last]).length := by
      rw [makes.version, earlier.version_latest rfl, List.length_append, List.length_singleton]
    intro older memberOlder newer memberNewer before
    rcases List.mem_cons.1 memberNewer with rfl | newerEarlier
    · rw [full, List.take_length]
      rcases List.mem_cons.1 memberOlder with rfl | olderEarlier
      · rw [full, List.drop_length]
        exact .nil _
      · -- The way to the newest revision goes through the latest one before it.
        have known := earlier.version_le olderEarlier
        have upToLatest := ih older olderEarlier latest List.mem_cons_self
          (by rw [earlier.version_latest rfl]; exact known)
        rw [earlier.version_latest rfl, List.take_length] at upToLatest
        rw [List.drop_append_of_le_length known]
        exact upToLatest.append makes.connects.turns
    · have knownNewer := earlier.version_le newerEarlier
      rcases List.mem_cons.1 memberOlder with rfl | olderEarlier
      · rw [full, List.length_append, List.length_singleton] at before
        omega
      · rw [List.take_append_of_le_length knownNewer]
        exact ih older olderEarlier newer newerEarlier before

end Succession

/-- The changes that a revision remembers from a version on. -/
def Revision.since (revision : Revision) (version : Nat) : List Change :=
  revision.history.dropWhile fun change => change.baseVersion != version

namespace Chronicle

open Change (redoAll undoAll)

/-- What can be read off the changes that the revisions of a chronicle remember, `limit` each, and
which commands its buffer refuses. -/
structure Journaled (limit : Nat) (chronicle : Chronicle) : Prop where
  current : chronicle.revisions.head? = some chronicle.buffer.current
  versions : chronicle.revisions.map Revision.version =
    (List.range chronicle.revisions.length).reverse
  refuses_iff : ∀ (command : Command) (fault : OutOfBounds),
    chronicle.buffer.perform command = .error fault ↔
      (command.span.stop < command.span.start ∨
        chronicle.buffer.current.document.length < command.span.stop) ∧
      fault = ⟨command.span.start, command.span.stop,
        chronicle.buffer.current.document.length⟩
  unchanged : ∀ (command : Command) (fault : OutOfBounds),
    chronicle.buffer.perform command = .error fault → chronicle.perform command = chronicle
  redoes : ∀ newer ∈ chronicle.revisions, ∀ older ∈ chronicle.revisions,
    older.version ≤ newer.version → newer.version - older.version ≤ limit →
      redoAll (newer.since older.version) older.document.chars.toList =
        some newer.document.chars.toList
  undoes : ∀ newer ∈ chronicle.revisions, ∀ older ∈ chronicle.revisions,
    older.version ≤ newer.version → newer.version - older.version ≤ limit →
      undoAll (newer.since older.version) newer.document.chars.toList =
        some older.document.chars.toList
  measured : ∀ revision ∈ chronicle.revisions, ∀ change ∈ revision.history,
    ∃ older ∈ chronicle.revisions, ∃ newer ∈ chronicle.revisions,
      change.baseVersion = older.version ∧ newer.version = older.version + 1 ∧
      change.lengthBefore = older.document.length ∧ change.lengthAfter = newer.document.length

theorem Sound.turns_since {first : Nat} {changes : List Change} {chronicle : Chronicle}
    (sound : chronicle.Sound first changes) (continuous : chronicle.Continuous changes)
    {older newer : Revision} (memberNewer : newer ∈ chronicle.revisions)
    (memberOlder : older ∈ chronicle.revisions) (before : older.version ≤ newer.version)
    (near : newer.version - older.version ≤ chronicle.buffer.limit) :
    Change.Turns (newer.since older.version) older.document.chars.toList
      newer.document.chars.toList := by
  rw [Revision.since, (sound.recorded newer memberNewer).dropWhile_history, if_pos (by omega)]
  exact continuous.1.turns older memberOlder newer memberNewer before

theorem Sound.journaled {first : Nat} {changes : List Change} {chronicle : Chronicle}
    (sound : chronicle.Sound first changes) (continuous : chronicle.Continuous changes) :
    chronicle.Journaled chronicle.buffer.limit := by
  have versions := continuous.1.versions
  have count := congrArg List.length versions
  rw [List.length_map, List.length_reverse, List.length_range] at count
  rw [← count] at versions
  refine ⟨continuous.2, versions, chronicle.buffer.perform_eq_error_iff, ?_, ?_, ?_, ?_⟩
  · intro command fault refused
    rw [perform, refused]
  · intro newer memberNewer older memberOlder before near
    exact (sound.turns_since continuous memberNewer memberOlder before near).redo
  · intro newer memberNewer older memberOlder before near
    exact (sound.turns_since continuous memberNewer memberOlder before near).undo
  · intro revision member change remembered
    rw [(sound.recorded revision member).history] at remembered
    have known : change ∈ changes := List.mem_of_mem_take (List.mem_of_mem_drop remembered)
    obtain ⟨older, memberOlder, newer, memberNewer, connects⟩ :=
      continuous.1.exists_connects change known
    exact ⟨older, memberOlder, newer, memberNewer, connects.base, connects.next,
      connects.lengthBefore, connects.lengthAfter⟩

/-- After any run of commands, a command is refused exactly if its span is not in order or not
within the text, and then nothing changes. For any two revisions with no more changes between them
than are kept, those that the newer one remembers turn the text of the older one into its own, and
taken back in reverse order they turn it back again. -/
theorem run_journaled (document : Document) (limit : Nat) (commands : List Command) :
    ((start document limit).run commands).Journaled (max limit 1) := by
  have journaled := (run_sound document limit commands).journaled
    (run_continuous document limit commands)
  rw [limit_run] at journaled
  exact journaled

end Chronicle

end CodeFolding
